import GridSession.Net.Serving
import GridSession.Proofs.GameLoop.Run
import GridSession.Proofs.Net.Stopping

namespace GridSession

/-- What a game loop behind a socket is told by a happening. -/
def Happening.input? : Happening → Option GameLoop.Input
  | delivered datagram => some (.datagram datagram)
  | emptied => none
  | ticked time => some (.tick time)

/-- A handler that asks for no stop ends its loop by the answer to a tick only. Any other stop was
asked for outside. -/
theorem ServerLoop.Course.asked_or_refused {σ : Type} {handler : Handler σ}
    {interval lastTick : Nat} {state : σ} {cycle : Cycle} {ended : CycleEnd σ}
    (h : Course handler interval lastTick state cycle ended)
    (hdrained : (cycle.drained handler state).asksToStop = false)
    (hanswer : (cycle.answer handler state).asksToStop = false) {front : List Happening}
    (hstopped : (closed front ended).outcome = .stopped) :
    (∃ phase, cycle.stopsIn phase = true) ∨ (cycle.answer handler state).goesOn = false := by
  cases hopen : ended.outcome with
  | none =>
    -- the cycle left the run open, so only a request in between can have ended it
    have hrequested : ended.signal.requested = true := by
      simpa [closed, hopen] using hstopped
    rw [h.requested_iff hopen, hdrained, hanswer] at hrequested
    left
    rcases hrequested with (hasked | hfalse) | hasked | ⟨-, hasked | hfalse⟩
    · exact ⟨.draining, hasked⟩
    · cases hfalse
    · exact ⟨.resting, hasked⟩
    · exact ⟨.ticking, hasked⟩
    · cases hfalse
  | some outcome =>
    cases h with
    | unwoken | cutShort => cases hstopped
    | calledOff _ hasked => exact .inl ⟨.waiting, hasked⟩
    | refused _ _ _ hrefused => exact .inr hrefused
    | early | ticked => cases hopen

namespace GameLoop

variable {δ : Type} [Role δ]

theorem foldl_hear (happenings : List Happening) (loop : GameLoop δ) :
    happenings.foldl (handler δ).hear loop = loop.run (happenings.filterMap Happening.input?) := by
  induction happenings generalizing loop with
  | nil => rfl
  | cons happening rest ih =>
    rw [List.foldl_cons, ih]
    cases happening <;> rfl

theorem asksToStop_drain (receives : List Receive) (loop : GameLoop δ) :
    (drain (handler δ) receives loop).asksToStop = false := by
  induction receives generalizing loop with
  | nil => rfl
  | cons receive rest ih =>
    cases receive with
    | datagram sender length buffer => exact ih (loop.onDatagram ⟨sender, buffer.take length⟩)
    | failed error => cases error <;> simp [drain, ReceiveError.isTransient, ih]

theorem state_drained (cycle : Cycle) (loop : GameLoop δ) :
    (cycle.drained (handler δ) loop).state
      = loop.run (cycle.deliveries.filterMap Happening.input?) :=
  (cycle.foldl_hear_deliveries (handler δ) loop).symm.trans (foldl_hear ..)

section Served

variable {interval start : Nat} {loop : GameLoop δ} {signal : StopSignal}

/-- A loop behind a socket is what the datagrams that were read and the ticks make of it, in the
order in which they happened. -/
theorem state_served (cycles : List Cycle) :
    let served := ServerLoop.run (handler δ) interval start loop signal cycles
    served.state = loop.run (served.happenings.filterMap Happening.input?) := by
  intro served
  rw [← foldl_hear]
  exact ServerLoop.state_run ..

/-- Nothing that arrives stops the loop. Whoever stopped it asked outside in its last cycle, or it
was the role that refused to go on at the tick of that cycle. -/
theorem asked_or_refused_of_stopped {before : List Cycle} {cycle : Cycle}
    (hwaiting : (ServerLoop.run (handler δ) interval start loop signal before).outcome = .waiting)
    (hstopped : (ServerLoop.run (handler δ) interval start loop signal
      (before ++ [cycle])).outcome = .stopped) :
    (∃ phase, cycle.stopsIn phase = true)
    ∨ (((ServerLoop.run (handler δ) interval start loop signal before).state.run
        (cycle.deliveries.filterMap Happening.input?)).tick cycle.tickedAt).2 = false := by
  obtain ⟨hfree, hrun⟩ := ServerLoop.run_append hwaiting [cycle]
  rw [hrun, ServerLoop.run_singleton hfree] at hstopped
  rw [← state_drained]
  exact (ServerLoop.runCycle_course _ _ _ _ _ hfree).asked_or_refused (asksToStop_drain ..) rfl
    hstopped

end Served

end GameLoop

end GridSession
