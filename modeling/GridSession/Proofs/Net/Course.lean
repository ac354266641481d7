import GridSession.Net.ServerLoop
import Mathlib.Data.List.Basic

namespace GridSession

namespace Receive

/-- The error with which this answer ends the reading. -/
def ending? : Receive → Option ReceiveError
  | datagram .. => none
  | failed error => if error.isTransient then none else some error

def datagram? : Receive → Option Datagram
  | datagram sender length buffer => some ⟨sender, buffer.take length⟩
  | failed _ => none

/-- The datagrams that are read before the reading ends. -/
def ready (receives : List Receive) : List Datagram :=
  (receives.takeWhile fun receive => receive.ending?.isNone).filterMap datagram?

/-- The error that ends the reading. A socket with no more answers has nothing ready. -/
def ending (receives : List Receive) : ReceiveError :=
  (receives.findSome? ending?).getD .wouldBlock

variable (rest : List Receive)

theorem ready_datagram (sender : SocketAddress) (length : Nat) (buffer : Bytes) :
    ready (datagram sender length buffer :: rest) = ⟨sender, buffer.take length⟩ :: ready rest :=
  rfl

theorem ready_failed (error : ReceiveError) :
    ready (failed error :: rest) = if error.isTransient then ready rest else [] := by
  by_cases htransient : error.isTransient
  · have hpassed : (failed error).ending? = none := if_pos htransient
    rw [ready, List.takeWhile_cons_of_pos (by simp [hpassed]), if_pos htransient]
    rfl
  · have hends : (failed error).ending? = some error := if_neg htransient
    rw [ready, List.takeWhile_cons_of_neg (by simp [hends]), if_neg htransient, List.filterMap_nil]

theorem ending_datagram (sender : SocketAddress) (length : Nat) (buffer : Bytes) :
    ending (datagram sender length buffer :: rest) = ending rest :=
  rfl

theorem ending_failed (error : ReceiveError) :
    ending (failed error :: rest) = if error.isTransient then ending rest else error := by
  by_cases htransient : error.isTransient
  · have hpassed : (failed error).ending? = none := if_pos htransient
    rw [ending, List.findSome?_cons, hpassed, if_pos htransient]
    rfl
  · have hends : (failed error).ending? = some error := if_neg htransient
    rw [ending, List.findSome?_cons, hends, if_neg htransient, Option.getD_some]

end Receive

section Drain

variable {σ : Type} (handler : Handler σ)

theorem drain_eq (receives : List Receive) (state : σ) :
    (drain handler receives state).delivered = Receive.ready receives
    ∧ (drain handler receives state).state
      = (Receive.ready receives).foldl (fun state datagram => (handler.onDatagram datagram state).1)
        state
    ∧ (drain handler receives state).failure
      = if Receive.ending receives = .wouldBlock then none
        else some (Receive.ending receives) := by
  induction receives generalizing state with
  | nil => simp [drain, Receive.ready, Receive.ending]
  | cons receive rest ih =>
    cases receive with
    | datagram sender length buffer =>
      obtain ⟨hdelivered, hstate, hfailure⟩ :=
        ih (handler.onDatagram ⟨sender, buffer.take length⟩ state).1
      rw [drain, Receive.ready_datagram, Receive.ending_datagram]
      exact ⟨congrArg _ hdelivered, hstate, hfailure⟩
    | failed error =>
      rw [drain, Receive.ready_failed, Receive.ending_failed]
      cases error <;> simp [ReceiveError.isTransient, ih]

end Drain

@[simp] theorem StopSignal.requested_requestIf (signal : StopSignal) (made : Bool) :
    (signal.requestIf made).requested = (signal.requested || made) := by
  obtain ⟨requested, permit⟩ := signal
  cases requested <;> cases made <;> rfl

namespace Happening

def tickTime? : Happening → Option Nat
  | ticked time => some time
  | delivered _ | emptied => none

def tickTimes (happenings : List Happening) : List Nat :=
  happenings.filterMap tickTime?

theorem tickTimes_append (first rest : List Happening) :
    tickTimes (first ++ rest) = tickTimes first ++ tickTimes rest :=
  List.filterMap_append

/-- The time of the last tick. A run that has not ticked counts from its start. -/
def lastTick (start : Nat) (happenings : List Happening) : Nat :=
  happenings.foldl (fun last happening => happening.tickTime?.getD last) start

theorem lastTick_append (start : Nat) (first rest : List Happening) :
    lastTick start (first ++ rest) = lastTick (lastTick start first) rest :=
  List.foldl_append

end Happening

def Handler.hear {σ : Type} (handler : Handler σ) (state : σ) : Happening → σ
  | .delivered datagram => (handler.onDatagram datagram state).1
  | .emptied => state
  | .ticked time => (handler.onTick time state).state

namespace Cycle

variable {σ : Type} (handler : Handler σ) (state : σ) (cycle : Cycle)

/-- What the socket hands over in a cycle that reads it. -/
def deliveries : List Happening :=
  (Receive.ready cycle.receives).map .delivered

def fullCourse : List Happening :=
  cycle.deliveries ++ [.emptied, .ticked cycle.tickedAt]

def drained : Drained σ :=
  drain handler cycle.receives state

def answer : TickAnswer σ :=
  handler.onTick cycle.tickedAt (cycle.drained handler state).state

/-- The wait of a cycle ends without an error, and nobody has asked for the stop by then. -/
def Reads : Prop :=
  (∀ error, cycle.wake ≠ .failed error) ∧ cycle.stopsIn .waiting = false

theorem tickTimes_deliveries : Happening.tickTimes cycle.deliveries = [] := by
  simp [Happening.tickTimes, Happening.tickTime?, deliveries]

theorem lastTick_deliveries (start : Nat) :
    Happening.lastTick start cycle.deliveries = start := by
  rw [Happening.lastTick, deliveries, List.foldl_map]
  exact List.foldl_fixed ..

theorem foldl_hear_deliveries :
    cycle.deliveries.foldl handler.hear state = (cycle.drained handler state).state := by
  rw [deliveries, List.foldl_map, drained, (drain_eq ..).2.1]
  rfl

end Cycle

namespace ServerLoop

variable {σ : Type} (handler : Handler σ) (interval lastTick : Nat) (state : σ)
  (signal : StopSignal) (cycle : Cycle)

@[simp] theorem requested_wait (wake : Wake) : (wait signal wake).requested = signal.requested := by
  unfold wait
  split_ifs <;> rfl

@[simp] theorem requested_rest :
    (rest interval lastTick cycle signal).requested
      = (signal.requested || cycle.stopsIn .resting) := by
  unfold rest
  split_ifs <;> simp

/-- The courses of a cycle that began while nobody had asked for the stop, each with what it leaves.
Whether somebody has asked by the end is told where the run goes on. -/
inductive Course : CycleEnd σ → Prop
  | unwoken {left error} (hwake : cycle.wake = .failed error) :
      Course ⟨lastTick, state, left, [], some (.failed error)⟩
  | calledOff {left} (hwake : ∀ error, cycle.wake ≠ .failed error)
      (hasked : cycle.stopsIn .waiting) :
      Course ⟨lastTick, state, left, [], some .stopped⟩
  | cutShort {left} (hreads : cycle.Reads) (hfatal : Receive.ending cycle.receives ≠ .wouldBlock) :
      Course ⟨lastTick, (cycle.drained handler state).state, left, cycle.deliveries,
        some (.failed (Receive.ending cycle.receives))⟩
  | early {left} (hreads : cycle.Reads) (hdry : Receive.ending cycle.receives = .wouldBlock)
      (hleft : left.requested = ((cycle.drained handler state).asksToStop
        || cycle.stopsIn .draining || cycle.stopsIn .resting)) :
      Course ⟨lastTick, (cycle.drained handler state).state, left,
        cycle.deliveries ++ [.emptied], none⟩
  | refused {left} (hreads : cycle.Reads) (hdry : Receive.ending cycle.receives = .wouldBlock)
      (hdue : interval ≤ cycle.checkedAt - lastTick)
      (hrefused : (cycle.answer handler state).goesOn = false) :
      Course ⟨cycle.tickedAt, (cycle.answer handler state).state, left, cycle.fullCourse,
        some .stopped⟩
  | ticked {left} (hreads : cycle.Reads) (hdry : Receive.ending cycle.receives = .wouldBlock)
      (hdue : interval ≤ cycle.checkedAt - lastTick)
      (hgoesOn : (cycle.answer handler state).goesOn = true)
      (hleft : left.requested = ((cycle.drained handler state).asksToStop
        || cycle.stopsIn .draining || (cycle.answer handler state).asksToStop
        || cycle.stopsIn .ticking || cycle.stopsIn .resting)) :
      Course ⟨cycle.tickedAt, (cycle.answer handler state).state, left, cycle.fullCourse, none⟩

variable {signal}

theorem drainAndTick_course (hsignal : signal.requested = false) (hreads : cycle.Reads) :
    Course handler interval lastTick state cycle
      (drainAndTick handler interval lastTick state signal cycle) := by
  obtain ⟨hdelivered, -, hfailure⟩ := drain_eq handler cycle.receives state
  unfold drainAndTick
  simp only [hdelivered, hfailure]
  by_cases hdry : Receive.ending cycle.receives = .wouldBlock
  · simp only [hdry, if_true, tickAndRest]
    split_ifs with hdue hgoesOn
    · exact .ticked hreads hdry hdue hgoesOn (by simp [hsignal, Cycle.drained, Cycle.answer])
    · exact .refused hreads hdry hdue (Bool.eq_false_iff.mpr hgoesOn)
    · exact .early hreads hdry (by simp [hsignal, Cycle.drained])
  · simp only [if_neg hdry]
    exact .cutShort hreads hdry

theorem runCycle_course (hsignal : signal.requested = false) :
    Course handler interval lastTick state cycle
      (runCycle handler interval lastTick state signal cycle) := by
  have hwaited : (wait (signal.requestIf (cycle.stopsIn .waiting)) cycle.wake).requested
      = cycle.stopsIn .waiting := by
    simp [hsignal]
  unfold runCycle
  -- of the signal after the wait only the request matters, for whoever waits takes the permit
  generalize wait (signal.requestIf (cycle.stopsIn .waiting)) cycle.wake = waited at hwaited ⊢
  dsimp only
  split
  next error hwake => exact .unwoken hwake
  next hwake =>
    split_ifs with hasked
    · exact .calledOff hwake (hwaited.symm.trans hasked)
    · have hfree := Bool.eq_false_iff.mpr hasked
      exact drainAndTick_course handler interval lastTick state cycle hfree
        ⟨hwake, hwaited.symm.trans hfree⟩

section Leaves

variable {handler : Handler σ} {interval lastTick : Nat} {state : σ} {cycle : Cycle}
  {ended : CycleEnd σ} (h : Course handler interval lastTick state cycle ended)

include h

theorem Course.lastTick_eq : ended.lastTick = Happening.lastTick lastTick ended.happenings := by
  cases h with
  | unwoken | calledOff => rfl
  | cutShort => exact (cycle.lastTick_deliveries lastTick).symm
  | early | refused | ticked =>
    simp only [Cycle.fullCourse, Happening.lastTick_append, Cycle.lastTick_deliveries]
    rfl

theorem Course.state_eq : ended.state = ended.happenings.foldl handler.hear state := by
  cases h with
  | unwoken | calledOff => rfl
  | cutShort => exact (cycle.foldl_hear_deliveries handler state).symm
  | early | refused | ticked =>
    simp only [Cycle.fullCourse, List.foldl_append, Cycle.foldl_hear_deliveries]
    rfl

theorem Course.outcome_ne : ended.outcome ≠ some .waiting := by
  cases h <;> simp

end Leaves

theorem run_of_requested (h : signal.requested = true) (cycles : List Cycle) :
    run handler interval lastTick state signal cycles = ⟨state, signal, [], .stopped⟩ := by
  rw [run.eq_def, if_pos h]

theorem run_nil_of_free (h : signal.requested = false) :
    run handler interval lastTick state signal [] = ⟨state, signal, [], .waiting⟩ := by
  rw [run, if_neg (by simp [h])]

theorem run_cons_of_free (h : signal.requested = false) (cycles : List Cycle) :
    run handler interval lastTick state signal (cycle :: cycles)
      = match runCycle handler interval lastTick state signal cycle with
        | ⟨_, state, signal, happenings, some outcome⟩ => ⟨state, signal, happenings, outcome⟩
        | ⟨lastTick, state, signal, happenings, none⟩ =>
          let later := run handler interval lastTick state signal cycles
          { later with happenings := happenings ++ later.happenings } := by
  rw [run, if_neg (by simp [h])]
  obtain ⟨lastTick, state, signal, happenings, outcome⟩ :=
    runCycle handler interval lastTick state signal cycle
  cases outcome <;> rfl

variable {handler interval lastTick state}

theorem free_of_waiting {cycles : List Cycle}
    (h : (run handler interval lastTick state signal cycles).outcome = .waiting) :
    signal.requested = false := by
  rw [Bool.eq_false_iff]
  intro hrequested
  rw [run_of_requested _ _ _ _ hrequested] at h
  cases h

/-- A run goes on where its first cycles left it, if they left it waiting. -/
theorem run_append {first : List Cycle}
    (hwaiting : (run handler interval lastTick state signal first).outcome = .waiting)
    (rest : List Cycle) :
    let reached := run handler interval lastTick state signal first
    let later := run handler interval (Happening.lastTick lastTick reached.happenings)
      reached.state reached.signal rest
    reached.signal.requested = false
    ∧ run handler interval lastTick state signal (first ++ rest)
      = { later with happenings := reached.happenings ++ later.happenings } := by
  have hsignal := free_of_waiting hwaiting
  -- each of the first cycles left the run open, so the induction follows them one by one
  induction first generalizing lastTick state signal with
  | nil =>
    rw [run_nil_of_free _ _ _ _ hsignal]
    exact ⟨hsignal, rfl⟩
  | cons cycle first ih =>
    have hcourse := runCycle_course handler interval lastTick state cycle hsignal
    rw [run_cons_of_free _ _ _ _ _ hsignal] at hwaiting ⊢
    rw [List.cons_append, run_cons_of_free _ _ _ _ _ hsignal]
    revert hcourse hwaiting
    generalize runCycle handler interval lastTick state signal cycle = ended
    intro hwaiting hcourse
    obtain ⟨lastTick', state', signal', happenings, _ | outcome⟩ := ended
    · have hlast : lastTick' = _ := hcourse.lastTick_eq
      obtain ⟨hfree, hlater⟩ := ih hwaiting (free_of_waiting hwaiting)
      refine ⟨hfree, ?_⟩
      simp only [hlater, Happening.lastTick_append, ← hlast, List.append_assoc]
    · exact absurd (congrArg some hwaiting) hcourse.outcome_ne

end ServerLoop

end GridSession
