import GridSession.GameLoop.Station

namespace GridSession

/-- A role at work: every datagram that decodes waits in the inbox for the next tick, oldest first.
-/
structure GameLoop (δ : Type) extends Station δ where
  inbox : List Event := []

namespace GameLoop

variable {δ : Type}

def start (params : GameParams) (driver : δ) (transport : Transport := {}) : GameLoop δ :=
  { driver, game := .ofParams params, transport }

/-- A new loop, unless its game is too large for memory. -/
def start? (params : GameParams) (driver : δ) : Option (GameLoop δ) :=
  (Game.ofParams? params).map fun game => { driver, game }

def tell (loop : GameLoop δ) (note : Note) : GameLoop δ :=
  { loop with toStation := loop.toStation.tell note }

/-- Queues a datagram as a message of the given action. The answer is whether it was queued. -/
def onMessage (loop : GameLoop δ) (action : Action) (datagram : Datagram) : GameLoop δ × Bool :=
  match Event.ofDatagram? datagram action with
  | none => (loop.tell (.actionMissing datagram.sender), false)
  | some (.ok event) => ({ loop with inbox := loop.inbox ++ [event] }, true)
  | some (.error error) => (loop.tell (.messageDropped action datagram.sender error), false)

/-- Queues a datagram by the action it carries. -/
def onDatagram (loop : GameLoop δ) (datagram : Datagram) : GameLoop δ :=
  match Message.decode datagram.bytes with
  | .error error => loop.tell (.datagramDropped datagram.bytes.length datagram.sender error)
  | .ok message =>
    ((loop.tell (.datagramReceived message datagram.sender)).onMessage message.action datagram).1

/-- Counts the tick, empties the inbox and ends with the role's own work. -/
def tick [Role δ] (loop : GameLoop δ) (now : Nat) : GameLoop δ × Bool :=
  let game := { loop.game with ticks := loop.game.ticks + 1 }
  let handled := Station.handleAll now loop.inbox { loop.toStation with game }
  let (station, goesOn) := Role.onTick ⟨now, 0⟩ handled
  ({ toStation := station, inbox := [] }, goesOn)

def takeJournal (loop : GameLoop δ) : List Note × GameLoop δ :=
  (loop.journal, { loop with journal := [] })

def takeSent (loop : GameLoop δ) : List Outgoing × GameLoop δ :=
  let (sent, transport) := loop.transport.take
  (sent, { loop with transport })

end GameLoop

end GridSession
