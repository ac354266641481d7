import GridSession.Proofs.Net.Course

namespace GridSession

namespace ServerLoop

variable {σ : Type} (handler : Handler σ)

/-- What holds of a cycle that a run had `reached` waiting, and at whose end it is `this`. A run
that does not wait any more has ended, so that at most the rest of the full course follows a request
that is made before the tick. -/
structure Obeys (reached : ServerRun σ) (cycle : Cycle) (this : ServerRun σ) : Prop where
  within : ∃ done, done <+: cycle.fullCourse ∧ this.happenings = reached.happenings ++ done
  /-- Only a socket that was read until nothing was ready is followed by a tick. -/
  dry : this.happenings = reached.happenings ++ cycle.fullCourse →
    Receive.ending cycle.receives = .wouldBlock
  asked_waiting : cycle.stopsIn .waiting = true →
    this.happenings = reached.happenings ∧ this.outcome ≠ .waiting
  asked_draining : cycle.stopsIn .draining = true
      ∨ (cycle.drained handler reached.state).asksToStop = true →
    this.outcome ≠ .waiting
  asked_ticking : this.happenings = reached.happenings ++ cycle.fullCourse →
    cycle.stopsIn .ticking = true ∨ (cycle.answer handler reached.state).asksToStop = true →
    this.outcome = .stopped
  refused : this.happenings = reached.happenings ++ cycle.fullCourse →
    (cycle.answer handler reached.state).goesOn = false → this.outcome = .stopped
  asked_resting : cycle.stopsIn .resting = true → this.outcome ≠ .waiting
  unwoken : ∀ error, cycle.wake = .failed error →
    this.happenings = reached.happenings ∧ this.outcome = .failed error
  cut_short : cycle.Reads → Receive.ending cycle.receives ≠ .wouldBlock →
    this.happenings = reached.happenings ++ cycle.deliveries
      ∧ this.outcome = .failed (Receive.ending cycle.receives)

variable {handler} {interval lastTick : Nat} {state : σ} {cycle : Cycle} {ended : CycleEnd σ}

namespace Course

variable (h : Course handler interval lastTick state cycle ended)

include h

theorem isPrefix : ended.happenings <+: cycle.fullCourse := by
  cases h with
  | unwoken | calledOff => exact List.nil_prefix
  | cutShort => exact List.prefix_append ..
  | early => exact ⟨[.ticked cycle.tickedAt], by simp [Cycle.fullCourse]⟩
  | refused | ticked => exact List.prefix_rfl

/-- Only a cycle that found the socket empty takes its full course, and how it ends is for the
handler to say. -/
theorem of_full (hfull : ended.happenings = cycle.fullCourse) :
    Receive.ending cycle.receives = .wouldBlock
    ∧ ended.outcome = if (cycle.answer handler state).goesOn then none else some .stopped := by
  cases h with
  | unwoken | calledOff | cutShort | early => simp [Cycle.fullCourse] at hfull
  | refused _ hdry _ hrefused => exact ⟨hdry, by simp [hrefused]⟩
  | ticked _ hdry _ hgoesOn => exact ⟨hdry, by simp [hgoesOn]⟩

theorem of_asked_waiting (hasked : cycle.stopsIn .waiting = true) :
    ended.happenings = [] ∧ ended.outcome ≠ none := by
  cases h with
  | unwoken | calledOff => simp
  | cutShort hreads | early hreads | refused hreads | ticked hreads =>
    exact absurd hasked (by simp [hreads.2])

theorem of_unwoken {error : ReceiveError} (hwake : cycle.wake = .failed error) :
    ended.happenings = [] ∧ ended.outcome = some (.failed error) := by
  cases h with
  | unwoken hfailed => simp_all
  | calledOff hawake => exact absurd hwake (hawake error)
  | cutShort hreads | early hreads | refused hreads | ticked hreads =>
    exact absurd hwake (hreads.1 error)

theorem of_fatal (hreads : cycle.Reads) (hfatal : Receive.ending cycle.receives ≠ .wouldBlock) :
    ended.happenings = cycle.deliveries
      ∧ ended.outcome = some (.failed (Receive.ending cycle.receives)) := by
  cases h with
  | unwoken hwake => exact absurd hwake (hreads.1 _)
  | calledOff _ hasked => exact absurd hasked (by simp [hreads.2])
  | cutShort => exact ⟨rfl, rfl⟩
  | early _ hdry | refused _ hdry | ticked _ hdry => exact absurd hdry hfatal

/-- A cycle that does not end the run keeps every request that was made in it. -/
theorem requested_iff (hopen : ended.outcome = none) :
    ended.signal.requested = true
      ↔ (cycle.stopsIn .draining = true ∨ (cycle.drained handler state).asksToStop = true)
        ∨ cycle.stopsIn .resting = true
        ∨ ended.happenings = cycle.fullCourse
          ∧ (cycle.stopsIn .ticking = true ∨ (cycle.answer handler state).asksToStop = true) := by
  cases h with
  | unwoken | calledOff | cutShort | refused => cases hopen
  | early _ _ hleft =>
    simp [hleft, Cycle.fullCourse]
    tauto
  | ticked _ _ _ _ hleft =>
    simp [hleft]
    tauto

end Course

/-- A run whose last cycle ended so, after the happenings in front. -/
def closed (front : List Happening) (ended : CycleEnd σ) : ServerRun σ :=
  ⟨ended.state, ended.signal, front ++ ended.happenings,
    ended.outcome.getD (if ended.signal.requested then .stopped else .waiting)⟩

theorem Course.closed_ne_waiting (h : Course handler interval lastTick state cycle ended)
    (front : List Happening) (hended : ended.outcome = none → ended.signal.requested = true) :
    (closed front ended).outcome ≠ .waiting := by
  have houtcome := h.outcome_ne
  rw [closed]
  cases hopen : ended.outcome with
  | none => simp [hended hopen]
  | some outcome => simpa [hopen] using houtcome

theorem Course.obeys (h : Course handler interval lastTick state cycle ended)
    (signal : StopSignal) (front : List Happening) :
    Obeys handler ⟨state, signal, front, .waiting⟩ cycle (closed front ended) where
  within := ⟨_, h.isPrefix, rfl⟩
  dry hticks := (h.of_full (List.append_cancel_left hticks)).1
  asked_waiting hasked := by
    obtain ⟨hnone, hended⟩ := h.of_asked_waiting hasked
    exact ⟨by simp [closed, hnone], h.closed_ne_waiting front fun hopen => absurd hopen hended⟩
  -- a cycle that leaves the run open with the request made has stopped it all the same
  asked_draining hasked := h.closed_ne_waiting front fun hopen =>
    (h.requested_iff hopen).mpr (.inl hasked)
  asked_ticking hticks hasked := by
    have hfull := List.append_cancel_left hticks
    have houtcome := (h.of_full hfull).2
    cases hgoesOn : (cycle.answer handler state).goesOn with
    | false => simp [closed, houtcome, hgoesOn]
    | true =>
      have hopen : ended.outcome = none := by simp [houtcome, hgoesOn]
      have hrequested := (h.requested_iff hopen).mpr (.inr (.inr ⟨hfull, hasked⟩))
      simp [closed, hopen, hrequested]
  refused hticks hrefused := by
    have houtcome := (h.of_full (List.append_cancel_left hticks)).2
    simp [closed, houtcome, hrefused]
  asked_resting hasked := h.closed_ne_waiting front fun hopen =>
    (h.requested_iff hopen).mpr (.inr (.inl hasked))
  unwoken error hwake := by
    obtain ⟨hnone, houtcome⟩ := h.of_unwoken hwake
    simp [closed, hnone, houtcome]
  cut_short hreads hfatal := by
    obtain ⟨hdelivered, houtcome⟩ := h.of_fatal hreads hfatal
    simp [closed, hdelivered, houtcome]

variable {signal : StopSignal}

theorem run_singleton (hsignal : signal.requested = false) :
    run handler interval lastTick state signal [cycle]
      = closed [] (runCycle handler interval lastTick state signal cycle) := by
  rw [run_cons_of_free _ _ _ _ _ hsignal]
  obtain ⟨lastTick', state', signal', happenings, _ | outcome⟩ :=
    runCycle handler interval lastTick state signal cycle
  · cases hrequested : signal'.requested with
    | true => simp [run_of_requested, hrequested, closed]
    | false => simp [run_nil_of_free, hrequested, closed]
  · rfl

theorem run_obeys {before : List Cycle}
    (hwaiting : (run handler interval lastTick state signal before).outcome = .waiting)
    (cycle : Cycle) :
    Obeys handler (run handler interval lastTick state signal before) cycle
      (run handler interval lastTick state signal (before ++ [cycle])) := by
  obtain ⟨hfree, hrun⟩ := run_append hwaiting [cycle]
  rw [hrun, run_singleton hfree]
  generalize run handler interval lastTick state signal before = reached at hwaiting hfree
  obtain ⟨state', signal', happenings, outcome⟩ := reached
  cases hwaiting
  exact (runCycle_course handler interval _ state' cycle hfree).obeys signal' happenings

theorem run_append_of_ended {before : List Cycle}
    (hended : (run handler interval lastTick state signal before).outcome ≠ .waiting)
    (rest : List Cycle) :
    run handler interval lastTick state signal (before ++ rest)
      = run handler interval lastTick state signal before := by
  induction before generalizing lastTick state signal with
  | nil =>
    cases hsignal : signal.requested with
    | true => rw [run_of_requested _ _ _ _ hsignal, run_of_requested _ _ _ _ hsignal]
    | false => exact absurd (by rw [run_nil_of_free _ _ _ _ hsignal]) hended
  | cons cycle before ih =>
    cases hsignal : signal.requested with
    | true => rw [run_of_requested _ _ _ _ hsignal, run_of_requested _ _ _ _ hsignal]
    | false =>
      rw [run_cons_of_free _ _ _ _ _ hsignal] at hended
      rw [List.cons_append, run_cons_of_free _ _ _ _ _ hsignal,
        run_cons_of_free _ _ _ _ _ hsignal]
      generalize runCycle handler interval lastTick state signal cycle = ended at hended ⊢
      obtain ⟨lastTick', state', signal', happenings, _ | outcome⟩ := ended
      · simp only [ih hended]
      · rfl

/-- What one cycle can leave, and every later cycle after it, holds of a run. -/
theorem run_induction {motive : Nat → σ → List Cycle → List Happening → σ → Prop}
    (nothing : ∀ lastTick state cycles, motive lastTick state cycles [] state)
    (ends : ∀ {lastTick state cycle ended}, Course handler interval lastTick state cycle ended →
      ∀ cycles, motive lastTick state (cycle :: cycles) ended.happenings ended.state)
    (goesOn : ∀ {lastTick state cycle ended}, Course handler interval lastTick state cycle ended →
      ∀ cycles happenings final, motive ended.lastTick ended.state cycles happenings final →
        motive lastTick state (cycle :: cycles) (ended.happenings ++ happenings) final)
    (lastTick : Nat) (state : σ) (signal : StopSignal) (cycles : List Cycle) :
    motive lastTick state cycles (run handler interval lastTick state signal cycles).happenings
      (run handler interval lastTick state signal cycles).state := by
  induction cycles generalizing lastTick state signal with
  | nil =>
    cases hsignal : signal.requested with
    | true => rw [run_of_requested _ _ _ _ hsignal]; exact nothing lastTick state []
    | false => rw [run_nil_of_free _ _ _ _ hsignal]; exact nothing lastTick state []
  | cons cycle cycles ih =>
    cases hsignal : signal.requested with
    | true => rw [run_of_requested _ _ _ _ hsignal]; exact nothing lastTick state _
    | false =>
      -- the signal matters no more once it is known which way the cycle went
      have hcourse := runCycle_course handler interval lastTick state cycle hsignal
      rw [run_cons_of_free _ _ _ _ _ hsignal]
      generalize runCycle handler interval lastTick state signal cycle = ended at hcourse ⊢
      obtain ⟨lastTick', state', signal', happenings, _ | outcome⟩ := ended
      · exact goesOn hcourse cycles _ _ (ih lastTick' state' signal')
      · exact ends hcourse cycles

/-- The state is what the handler made of all that happened. -/
theorem state_run (lastTick : Nat) (state : σ) (signal : StopSignal) (cycles : List Cycle) :
    (run handler interval lastTick state signal cycles).state
      = (run handler interval lastTick state signal cycles).happenings.foldl handler.hear
        state := by
  refine run_induction (motive := fun _ state _ happenings final =>
    final = happenings.foldl handler.hear state) ?_ ?_ ?_ lastTick state signal cycles
  · intro _ _ _
    rfl
  · intro _ _ _ _ hcourse _
    exact hcourse.state_eq
  · intro _ _ _ _ hcourse _ _ _ hlater
    rw [List.foldl_append, ← hcourse.state_eq, hlater]

end ServerLoop

def Cycle.readings (cycle : Cycle) : List Nat :=
  [cycle.checkedAt, cycle.tickedAt, cycle.restedAt]

namespace Happening

/-- Right before every tick the socket was found empty. -/
def EmptiedFirst (happenings : List Happening) : Prop :=
  ∀ front time back, happenings = front ++ .ticked time :: back → front.getLast? = some .emptied

theorem EmptiedFirst.nil : EmptiedFirst [] := by
  intro front time back h
  simp at h

theorem EmptiedFirst.append {first rest : List Happening} (hfirst : EmptiedFirst first)
    (hrest : EmptiedFirst rest) : EmptiedFirst (first ++ rest) := by
  intro front time back h
  -- the tick stands in the second part, or it is in the first with the second behind it
  rcases List.append_eq_append_iff.mp h with ⟨between, rfl, hcut⟩ | ⟨between, hcut, htick⟩
  · have hlast := hrest between time back hcut
    rw [List.getLast?_append, hlast, Option.some_or]
  · cases between with
    | nil => cases hrest [] time back htick.symm
    | cons happening between =>
      obtain ⟨rfl, rfl⟩ := List.cons.inj htick
      exact hfirst front time between hcut

theorem EmptiedFirst.isPrefix {first full : List Happening} (hfull : EmptiedFirst full)
    (h : first <+: full) : EmptiedFirst first := by
  obtain ⟨rest, rfl⟩ := h
  intro front time back hfirst
  exact hfull front time (back ++ rest) (by simp [hfirst])

theorem emptiedFirst_fullCourse (cycle : Cycle) : EmptiedFirst cycle.fullCourse := by
  apply EmptiedFirst.append
  · intro front time back h
    have htick : .ticked time ∈ cycle.deliveries := by simp [h]
    simp [Cycle.deliveries] at htick
  · intro front time back h
    rcases front with _ | ⟨happening, _ | ⟨_, front⟩⟩
    · simp at h
    · simp [← (List.cons.inj h).1]
    · simp at h

end Happening

namespace ServerLoop

variable {σ : Type} {handler : Handler σ} {interval : Nat}

theorem emptiedFirst_run (lastTick : Nat) (state : σ) (signal : StopSignal)
    (cycles : List Cycle) :
    Happening.EmptiedFirst (run handler interval lastTick state signal cycles).happenings := by
  refine run_induction (motive := fun _ _ _ happenings _ => Happening.EmptiedFirst happenings)
    ?_ ?_ ?_ lastTick state signal cycles
  · intro _ _ _
    exact .nil
  · intro _ _ _ _ hcourse _
    exact (Happening.emptiedFirst_fullCourse _).isPrefix hcourse.isPrefix
  · intro _ _ _ _ hcourse _ _ _ hlater
    exact ((Happening.emptiedFirst_fullCourse _).isPrefix hcourse.isPrefix).append hlater

/-- A cycle ticks once at most, and then the interval has passed. -/
theorem Course.tickTimes_cases {lastTick : Nat} {state : σ} {cycle : Cycle} {ended : CycleEnd σ}
    (h : Course handler interval lastTick state cycle ended) :
    Happening.tickTimes ended.happenings = [] ∧ ended.lastTick = lastTick
    ∨ Happening.tickTimes ended.happenings = [cycle.tickedAt] ∧ ended.lastTick = cycle.tickedAt
      ∧ interval ≤ cycle.checkedAt - lastTick := by
  cases h with
  | unwoken | calledOff => exact .inl ⟨rfl, rfl⟩
  | cutShort => exact .inl ⟨cycle.tickTimes_deliveries, rfl⟩
  | early =>
    left
    rw [Happening.tickTimes_append, Cycle.tickTimes_deliveries]
    exact ⟨rfl, rfl⟩
  | refused _ _ hdue | ticked _ _ hdue =>
    right
    rw [Cycle.fullCourse, Happening.tickTimes_append, Cycle.tickTimes_deliveries]
    exact ⟨rfl, rfl, hdue⟩

/-- Each time is at least the interval later than the one before. -/
def Spaced (interval : Nat) (times : List Nat) : Prop :=
  times.IsChain fun last time => last + interval ≤ time

/-- The clock never runs backwards, neither between cycles nor in them. -/
def Forward (start : Nat) (cycles : List Cycle) : Prop :=
  (start :: cycles.flatMap Cycle.readings).Pairwise (· ≤ ·)

theorem Forward.cons {lastTick : Nat} {cycle : Cycle} {cycles : List Cycle}
    (h : Forward lastTick (cycle :: cycles)) :
    lastTick ≤ cycle.checkedAt ∧ cycle.checkedAt ≤ cycle.tickedAt
    ∧ Forward lastTick cycles ∧ Forward cycle.tickedAt cycles := by
  simp only [Forward, List.flatMap_cons, Cycle.readings, List.cons_append, List.nil_append,
    List.pairwise_cons, List.mem_cons] at h ⊢
  obtain ⟨hlast, hchecked, hticked, hrested, hlater⟩ := h
  refine ⟨hlast _ (.inl rfl), hchecked _ (.inl rfl), ⟨?_, hlater⟩, ?_, hlater⟩
  · intro reading hreading
    exact hlast reading (.inr (.inr (.inr hreading)))
  · intro reading hreading
    exact hticked reading (.inr hreading)

theorem Course.spaced {lastTick : Nat} {state : σ} {cycle : Cycle} {cycles : List Cycle}
    {ended : CycleEnd σ} (h : Course handler interval lastTick state cycle ended)
    (hclock : Forward lastTick (cycle :: cycles)) {later : List Nat}
    (hlater : Forward ended.lastTick cycles → Spaced interval (ended.lastTick :: later)) :
    Spaced interval (lastTick :: (Happening.tickTimes ended.happenings ++ later)) := by
  -- the tick is stamped no earlier than the check that found the interval passed
  obtain ⟨hchecked, hticked, hkept, hmoved⟩ := hclock.cons
  rcases h.tickTimes_cases with ⟨htimes, hlast⟩ | ⟨htimes, hlast, hdue⟩
  · rw [htimes, List.nil_append]
    rw [hlast] at hlater
    exact hlater hkept
  · rw [htimes, List.singleton_append]
    rw [hlast] at hlater
    exact List.isChain_cons_cons.mpr ⟨by omega, hlater hmoved⟩

theorem spaced_run (lastTick : Nat) (state : σ) (signal : StopSignal) (cycles : List Cycle) :
    Forward lastTick cycles →
    Spaced interval (lastTick
      :: Happening.tickTimes (run handler interval lastTick state signal cycles).happenings) := by
  refine run_induction (motive := fun lastTick _ cycles happenings _ => Forward lastTick cycles →
    Spaced interval (lastTick :: Happening.tickTimes happenings)) ?_ ?_ ?_
    lastTick state signal cycles
  · intro lastTick _ _ _
    exact .singleton lastTick
  · intro _ _ _ ended hcourse cycles hclock
    have hspaced := hcourse.spaced hclock fun _ => List.IsChain.singleton ended.lastTick
    rwa [List.append_nil] at hspaced
  · intro _ _ _ _ hcourse _ happenings _ hlater hclock
    rw [Happening.tickTimes_append]
    exact hcourse.spaced hclock hlater

/-- A loop that was asked to stop beforehand calls nobody. In a cycle that it begins it obeys, and
once it has ended nothing follows. Every tick comes right after the socket was found empty, and at
least the interval after the tick before it or the start. -/
theorem stops_when_asked (handler : Handler σ) (interval start : Nat) (state : σ)
    (signal : StopSignal) :
    (signal.requested = true → ∀ cycles,
      run handler interval start state signal cycles = ⟨state, signal, [], .stopped⟩)
    ∧ (∀ before cycle, (run handler interval start state signal before).outcome = .waiting →
      Obeys handler (run handler interval start state signal before) cycle
        (run handler interval start state signal (before ++ [cycle])))
    ∧ (∀ before after, (run handler interval start state signal before).outcome ≠ .waiting →
      run handler interval start state signal (before ++ after)
        = run handler interval start state signal before)
    ∧ ∀ cycles,
      Happening.EmptiedFirst (run handler interval start state signal cycles).happenings
      ∧ (Forward start cycles → Spaced interval (start
        :: Happening.tickTimes (run handler interval start state signal cycles).happenings))
      ∧ (run handler interval start state signal cycles).state
        = (run handler interval start state signal cycles).happenings.foldl handler.hear
          state := by
  refine ⟨?_, ?_, ?_, ?_⟩
  · intro hrequested cycles
    exact run_of_requested handler interval start state hrequested cycles
  · intro before cycle hwaiting
    exact run_obeys hwaiting cycle
  · intro before after hended
    exact run_append_of_ended hended after
  · intro cycles
    exact ⟨emptiedFirst_run start state signal cycles, spaced_run start state signal cycles,
      state_run start state signal cycles⟩

/-- Counts datagrams, and asks for the stop at the first. -/
def hasty : Handler Nat where
  onDatagram _ count := (count + 1, count == 0)
  onTick _ count := ⟨count, true, false⟩

def busyCycle : Cycle :=
  { receives := [.datagram (.v4 ⟨.localhost, 40000⟩) 1 [7], .failed .connectionReset,
      .datagram (.v4 ⟨.localhost, 40000⟩) 1 [8], .failed .wouldBlock]
    checkedAt := 5, tickedAt := 6, restedAt := 6 }

/-- After the first datagram it is handed the other and ticks, but no other cycle begins. -/
theorem hasty_stops_after_busyCycle :
    run hasty 5 0 0 ⟨true, true⟩ [busyCycle] = ⟨0, ⟨true, true⟩, [], .stopped⟩
    ∧ (run hasty 5 0 0 {} []).outcome = .waiting
    ∧ (run hasty 5 0 0 {} [busyCycle]).happenings.length = 4
    ∧ (run hasty 5 0 0 {} [busyCycle]).outcome ≠ .waiting
    ∧ run hasty 5 0 0 {} [busyCycle, busyCycle] = run hasty 5 0 0 {} [busyCycle]
    ∧ Forward 0 [busyCycle]
    ∧ Spaced 5 (0 :: Happening.tickTimes (run hasty 5 0 0 {} [busyCycle]).happenings) := by
  obtain ⟨-, hobeys, hended, hruns⟩ := stops_when_asked hasty 5 0 0 {}
  have hwaiting : (run hasty 5 0 0 {} []).outcome = .waiting := rfl
  have hstops : (run hasty 5 0 0 {} [busyCycle]).outcome ≠ .waiting :=
    (hobeys [] busyCycle hwaiting).asked_draining (.inr rfl)
  have hclock : Forward 0 [busyCycle] := by
    unfold Forward
    decide
  refine ⟨?_, hwaiting, rfl, hstops, hended [busyCycle] [busyCycle] hstops, hclock,
    (hruns [busyCycle]).2.1 hclock⟩
  exact (stops_when_asked hasty 5 0 0 ⟨true, true⟩).1 rfl [busyCycle]

end ServerLoop

end GridSession
