import GridSession.Game.Refusal
import GridSession.Player.Roster

namespace GridSession

structure GameParams where
  width : UInt32 := 64
  height : UInt32 := 64
  maxPlayers : UInt32 := 8
  /-- Nanoseconds after which a silent player counts as stale. -/
  playerTimeout : Nat := 2000000000
deriving DecidableEq, Inhabited

/-- A grid of these measures fits into memory. -/
def GameParams.Fits (params : GameParams) : Prop :=
  Storage.Fits (params.width.toNat * params.height.toNat) Grid.cellOctets

instance (params : GameParams) : Decidable params.Fits :=
  inferInstanceAs (Decidable (Storage.Fits _ _))

structure Game where
  grid : Grid
  roster : Roster
  maxPlayers : UInt32
  playerTimeout : Nat
  nextPlayerId : UInt32
  ticks : Nat

/-- A player let into a game, and whether it is new there. -/
structure Enrolment where
  game : Game
  player : Player
  created : Bool

namespace Game

def ofParams (params : GameParams) : Game where
  grid := .empty params.width params.height
  roster := .empty
  maxPlayers := params.maxPlayers
  playerTimeout := params.playerTimeout
  nextPlayerId := 1
  ticks := 0

/-- A new game, unless its grid is too large for memory. -/
def ofParams? (params : GameParams) : Option Game :=
  if params.Fits then some (ofParams params) else none

def params (game : Game) : GameParams :=
  ⟨game.grid.width, game.grid.height, game.maxPlayers, game.playerTimeout⟩

def offGrid (game : Game) (position : Position) : Refusal :=
  .offGrid position game.grid.width game.grid.height

def cell (game : Game) (position : Position) : Except Refusal Cell :=
  match game.grid.cell? position with
  | some cell => .ok cell
  | none => .error (game.offGrid position)

/-- The cell after the given player, or nobody, was put on it by hand. -/
def putOnCell (game : Game) (position : Position) (player : Option UInt32) : Except Refusal Game :=
  if game.grid.Contains position then .ok { game with grid := game.grid.put position player }
  else .error (game.offGrid position)

/-- The player standing on a cell, if the roster knows it. -/
def occupant (game : Game) (position : Position) : Except Refusal (Option Player) :=
  (game.cell position).map fun cell => cell.player.bind game.roster.get?

/-- Moves a player of the roster to a free cell, and frees the cell it stood on. -/
def move (game : Game) (player : Player) (position : Position) : Game :=
  { game with
    grid := game.grid.put position (some player.id)
    roster := game.roster.replace { player with position := some position } }

/-- Whether the player is known is asked first, then whether the cell is on the grid, then whether
somebody else stands there. A refusal changes nothing. -/
def place (game : Game) (id : UInt32) (position : Position) : Except Refusal Game :=
  match game.roster.get? id with
  | none => .error (.unknownPlayer id)
  | some player =>
    match game.cell position with
    | .error refusal => .error refusal
    | .ok cell =>
      match cell.otherThan? id with
      | some occupant => .error (.positionOccupied position occupant)
      | none =>
        match player.position with
        | none => .ok (game.move player position)
        | some previous =>
          match game.putOnCell previous none with
          | .error refusal => .error refusal
          | .ok vacated => .ok (vacated.move player position)

/-- The player of an endpoint. An endpoint without one gets the next id, unless the game is full. An
id that is taken already stays with its player. -/
def enroll (game : Game) (endpoint : SocketAddress) (now : Nat) : Except Refusal Enrolment :=
  match game.roster.withEndpoint? endpoint with
  | some player => .ok ⟨game, player, false⟩
  | none =>
    if game.maxPlayers.toNat ≤ game.roster.size then .error (.serverFull game.maxPlayers)
    else
      let id := game.nextPlayerId
      let counted := { game with nextPlayerId := id + 1 }
      let player := Player.joining id (some endpoint) now
      match game.roster.insert? player with
      | some roster => .ok ⟨{ counted with roster }, player, true⟩
      | none => .ok ⟨counted, (game.roster.get? id).getD player, true⟩

/-- Adds a player under an id chosen elsewhere, unless the id is taken. -/
def register? (game : Game) (id : UInt32) (now : Nat) : Option (Game × Player) :=
  let player := Player.joining id none now
  (game.roster.insert? player).map fun roster => ({ game with roster }, player)

/-- Ids of the players silent for longer than the timeout, ascending. -/
def staleIds (game : Game) (now : Nat) : List UInt32 :=
  (game.roster.sorted.filter (·.isTimedOut now game.playerTimeout)).map Player.id

end Game

end GridSession
