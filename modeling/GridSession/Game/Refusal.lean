import GridSession.Grid

namespace GridSession

inductive Refusal where
  | serverFull (maxPlayers : UInt32)
  | unknownPlayer (id : UInt32)
  | positionOccupied (position : Position) (occupant : UInt32)
  | offGrid (position : Position) (width height : UInt32)
deriving DecidableEq

namespace Refusal

def message : Refusal → String
  | serverFull maxPlayers => s!"server is full ({maxPlayers} players)"
  | unknownPlayer id => s!"unknown player {id}"
  | positionOccupied position occupant =>
    s!"cell ({position.x}, {position.y}) is occupied by player {occupant}"
  | offGrid position width height =>
    s!"position ({position.x}, {position.y}) outside {width}x{height} grid"

instance : ToString Refusal := ⟨message⟩

end Refusal

end GridSession
