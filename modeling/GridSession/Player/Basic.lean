import GridSession.Address.Basic
import GridSession.Grid
import GridSession.Player.SentRecord

namespace GridSession

/-- A session as the game keeps it. Times are nanoseconds since a fixed start and may go backwards.
-/
structure Player where
  id : UInt32
  /-- Where replies go, when it is known. -/
  endpoint : Option SocketAddress := none
  position : Option Position := none
  connectedAt : Nat
  lastMessage : Nat
  /-- The id of the next message to this player. -/
  nextMessage : UInt32 := 0
  ackCount : UInt32 := 0
  sent : SentRecord := ⟨SentRecord.defaultCapacity, []⟩
deriving DecidableEq, Inhabited

namespace Player

def joining (id : UInt32) (endpoint : Option SocketAddress) (now : Nat) : Player :=
  { id, endpoint, connectedAt := now, lastMessage := now }

def touch (player : Player) (now : Nat) : Player :=
  { player with lastMessage := now }

/-- Hands out the next message id. -/
def takeMessageId (player : Player) : UInt32 × Player :=
  (player.nextMessage, { player with nextMessage := player.nextMessage + 1 })

/-- Silent for longer than `timeout`. A time before the last message counts as no silence. -/
def isTimedOut (player : Player) (now timeout : Nat) : Bool :=
  decide (timeout < now - player.lastMessage)

end Player

end GridSession
