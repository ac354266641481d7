import GridSession.GameLoop.Basic
import GridSession.Net.Drain

namespace GridSession

/-- The callbacks of a game loop. None of them asks for the stop. -/
def GameLoop.handler (δ : Type) [Role δ] : Handler (GameLoop δ) where
  onDatagram datagram loop := (loop.onDatagram datagram, false)
  onTick now loop :=
    let (state, goesOn) := loop.tick now
    { state, goesOn }

end GridSession
