import GridSession.Game.Basic
import GridSession.GameLoop.Event
import GridSession.Player.Delivery

namespace GridSession

/-- What a role works with: its own state, the game, the way out and the journal. The inbox is not
part of it, so a role cannot touch what is still waiting. -/
structure Station (δ : Type) where
  driver : δ
  game : Game
  transport : Transport := {}
  journal : List Note := []

/-- When a handler runs: the time of its tick, and how many events wait behind the one at hand. -/
structure Moment where
  now : Nat
  pending : Nat
deriving DecidableEq

/-- What a role does with each kind of message, and once after all of them. The answer of `onTick`
says whether the loop goes on. -/
class Role (δ : Type) where
  onLogin : Moment → Received Login → Station δ → Station δ
  onPing : Moment → Received Ping → Station δ → Station δ
  onAcknowledge : Moment → Received Acknowledge → Station δ → Station δ
  onTick : Moment → Station δ → Station δ × Bool

namespace Station

variable {δ : Type}

def tell (station : Station δ) (note : Note) : Station δ :=
  { station with journal := station.journal ++ [note] }

/-- Keeps a player's new state in the roster. -/
def keep (station : Station δ) (player : Player) : Station δ :=
  { station with game := { station.game with roster := station.game.roster.replace player } }

/-- A tracked send through a player of the roster. The answer is whether it went out. -/
def sendTracked {α : Type} [Payload α] (station : Station δ) (player : Player)
    (target : SocketAddress) (envelope : Envelope α) : Station δ × Bool :=
  let delivery := player.sendTracked station.transport target envelope
  (({ station with transport := delivery.transport }.keep delivery.player).tell delivery.note,
    delivery.delivered)

/-- Hands an event to the handler of its kind. -/
def handle [Role δ] (moment : Moment) (event : Event) (station : Station δ) : Station δ :=
  let station := station.tell (.handling event.action event.sender)
  match event with
  | .login received => Role.onLogin moment received station
  | .ping received => Role.onPing moment received station
  | .acknowledge received => Role.onAcknowledge moment received station

/-- Hands over events in order. -/
def handleAll [Role δ] (now : Nat) : List Event → Station δ → Station δ
  | [], station => station
  | event :: rest, station => handleAll now rest (station.handle ⟨now, rest.length⟩ event)

end Station

end GridSession
