import GridSession.Net.Drain
import GridSession.Net.StopSignal

namespace GridSession

/-- What ended a wait. -/
inductive Wake where
  | readable
  | timer
  | signal
  | failed (error : ReceiveError)
deriving DecidableEq

inductive Phase where
  | waiting
  | draining
  | ticking
  | resting
deriving DecidableEq

/-- What the world outside does during one cycle: what woke the loop, what the socket answered, what
the clock showed and when somebody asked for the stop. -/
structure Cycle where
  wake : Wake := .timer
  receives : List Receive := []
  /-- The clock when the loop asks whether a tick is due. -/
  checkedAt : Nat
  /-- The clock that is kept as the time of the tick. -/
  tickedAt : Nat
  /-- The clock when the loop asks how long to rest. -/
  restedAt : Nat
  restWake : Wake := .timer
  /-- The phases in which somebody outside asks for the stop. -/
  stopsIn : Phase → Bool := fun _ => false

/-- What a loop does, as seen by its handler, and when it found the socket empty. -/
inductive Happening where
  | delivered (datagram : Datagram)
  | emptied
  | ticked (time : Nat)
deriving DecidableEq

inductive Outcome where
  /-- The loop still waits for what the world does next. -/
  | waiting
  | stopped
  | failed (error : ReceiveError)
deriving DecidableEq

structure CycleEnd (σ : Type) where
  lastTick : Nat
  state : σ
  signal : StopSignal
  happenings : List Happening := []
  outcome : Option Outcome := none

structure ServerRun (σ : Type) where
  state : σ
  signal : StopSignal
  happenings : List Happening
  outcome : Outcome

namespace ServerLoop

variable {σ : Type}

/-- A wait that the signal ended has used up its permit. -/
def wait (signal : StopSignal) (wake : Wake) : StopSignal :=
  if wake = .signal then signal.poll.1 else signal

/-- The rest at the end of a cycle. Without time to rest there is no wait. -/
def rest (interval lastTick : Nat) (cycle : Cycle) (signal : StopSignal) : StopSignal :=
  let signal := signal.requestIf (cycle.stopsIn .resting)
  if interval - (cycle.restedAt - lastTick) = 0 then signal else wait signal cycle.restWake

/-- The tick of a cycle, if one is due, and the rest. -/
def tickAndRest (handler : Handler σ) (interval lastTick : Nat) (state : σ) (signal : StopSignal)
    (cycle : Cycle) : CycleEnd σ :=
  if interval ≤ cycle.checkedAt - lastTick then
    let answer := handler.onTick cycle.tickedAt state
    let signal := (signal.requestIf answer.asksToStop).requestIf (cycle.stopsIn .ticking)
    let happenings := [.ticked cycle.tickedAt]
    if answer.goesOn then
      ⟨cycle.tickedAt, answer.state, rest interval cycle.tickedAt cycle signal, happenings, none⟩
    else ⟨cycle.tickedAt, answer.state, signal, happenings, some .stopped⟩
  else ⟨lastTick, state, rest interval lastTick cycle signal, [], none⟩

/-- What a cycle does once it is awake and nobody has asked for the stop. -/
def drainAndTick (handler : Handler σ) (interval lastTick : Nat) (state : σ) (signal : StopSignal)
    (cycle : Cycle) : CycleEnd σ :=
  let drained := drain handler cycle.receives state
  let signal := (signal.requestIf drained.asksToStop).requestIf (cycle.stopsIn .draining)
  let delivered := drained.delivered.map .delivered
  match drained.failure with
  | some error => ⟨lastTick, drained.state, signal, delivered, some (.failed error)⟩
  | none =>
    let ended := tickAndRest handler interval lastTick drained.state signal cycle
    { ended with happenings := delivered ++ .emptied :: ended.happenings }

/-- One cycle, begun while nobody has asked for the stop. -/
def runCycle (handler : Handler σ) (interval lastTick : Nat) (state : σ) (signal : StopSignal)
    (cycle : Cycle) : CycleEnd σ :=
  let signal := wait (signal.requestIf (cycle.stopsIn .waiting)) cycle.wake
  match cycle.wake with
  | .failed error => ⟨lastTick, state, signal, [], some (.failed error)⟩
  | _ =>
    if signal.requested then ⟨lastTick, state, signal, [], some .stopped⟩
    else drainAndTick handler interval lastTick state signal cycle

/-- Runs from a moment at which the last tick was at `lastTick`. Each cycle waits, empties the
socket, ticks when the interval has passed and rests until the next tick is due. -/
def run (handler : Handler σ) (interval lastTick : Nat) (state : σ) (signal : StopSignal)
    (cycles : List Cycle) : ServerRun σ :=
  if signal.requested then ⟨state, signal, [], .stopped⟩
  else
    match cycles with
    | [] => ⟨state, signal, [], .waiting⟩
    | cycle :: cycles =>
      let ended := runCycle handler interval lastTick state signal cycle
      match ended.outcome with
      | some outcome => ⟨ended.state, ended.signal, ended.happenings, outcome⟩
      | none =>
        let later := run handler interval ended.lastTick ended.state ended.signal cycles
        { later with happenings := ended.happenings ++ later.happenings }

end ServerLoop

end GridSession
