import GridSession.Address.Printer
import GridSession.Bytes.BigEndian

namespace GridSession

structure Datagram where
  sender : SocketAddress
  bytes : Bytes
deriving DecidableEq

structure Outgoing where
  target : SocketAddress
  bytes : Bytes
deriving DecidableEq

inductive SendError where
  | refused
deriving DecidableEq

def SendError.message : SendError → String
  | refused => "memory transport is failing sends"

instance : ToString SendError := ⟨SendError.message⟩

/-- Keeps every datagram it sends. A schedule says which sends fail. -/
structure Transport where
  /-- Whether the send with this number fails, counting every send from zero. -/
  fails : Nat → Bool := fun _ => false
  attempts : Nat := 0
  sent : List Outgoing := []

namespace Transport

/-- Makes every following send fail, or none. -/
def setFailing (transport : Transport) (failing : Bool) : Transport :=
  { transport with fails := fun _ => failing }

/-- A failed send leaves nothing behind but its number. -/
def send (transport : Transport) (outgoing : Outgoing) : Except SendError Unit × Transport :=
  if transport.fails transport.attempts then
    (.error .refused, { transport with attempts := transport.attempts + 1 })
  else
    (.ok (), { transport with
      attempts := transport.attempts + 1, sent := transport.sent ++ [outgoing] })

def take (transport : Transport) : List Outgoing × Transport :=
  (transport.sent, { transport with sent := [] })

end Transport

end GridSession
