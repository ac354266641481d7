import GridSession.Bytes.BigEndian
import GridSession.Storage

namespace GridSession

/-- The datagrams last sent to a player, in the order in which their ids came in. The oldest make
room for new ones. -/
structure SentRecord where
  capacity : Nat
  entries : List (UInt32 × Bytes) := []
deriving DecidableEq, Inhabited

namespace SentRecord

def defaultCapacity : Nat := 32

/-- Octets of an entry in memory: an id and a reference to the datagram. -/
def entryOctets : Nat := 40

/-- An empty record, unless one of this capacity is too large for memory. -/
def ofCapacity? (capacity : Nat) : Option SentRecord :=
  if Storage.Fits capacity entryOctets then some ⟨capacity, []⟩ else none

def ids (sent : SentRecord) : List UInt32 :=
  sent.entries.map Prod.fst

def size (sent : SentRecord) : Nat :=
  sent.entries.length

/-- An id that is retained keeps its place and takes the new bytes. Any other goes to the end. -/
def insert (sent : SentRecord) (id : UInt32) (bytes : Bytes) : SentRecord :=
  if id ∈ sent.ids then
    { sent with entries := sent.entries.map fun entry => if entry.1 = id then (id, bytes) else entry }
  else
    let entries := sent.entries ++ [(id, bytes)]
    { sent with entries := entries.drop (entries.length - sent.capacity) }

def get? (sent : SentRecord) (id : UInt32) : Option Bytes :=
  (sent.entries.find? (·.1 == id)).map Prod.snd

end SentRecord

end GridSession
