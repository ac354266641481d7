import GridSession.Proofs.GameLoop.Run
import GridSession.Role.Client

namespace GridSession

namespace Client

inductive Input where
  | datagram (datagram : Datagram)
  | tick (now : Nat)
  | disconnect
deriving DecidableEq

def leave (loop : GameLoop Client) : GameLoop Client :=
  { loop with toStation := disconnect loop.toStation }

def step (loop : GameLoop Client) : Input → GameLoop Client
  | .datagram datagram => loop.onDatagram datagram
  | .tick now => (loop.tick now).1
  | .disconnect => leave loop

def run (loop : GameLoop Client) (inputs : List Input) : GameLoop Client :=
  inputs.foldl step loop

/-- What no input breaks, a run keeps. -/
theorem run_induction {P : GameLoop Client → Prop}
    (hstep : ∀ loop input, P loop → P (step loop input)) (inputs : List Input)
    {loop : GameLoop Client} (h : P loop) : P (run loop inputs) := by
  induction inputs generalizing loop with
  | nil => exact h
  | cons input rest ih => exact ih (hstep loop input h)

end Client

end GridSession
