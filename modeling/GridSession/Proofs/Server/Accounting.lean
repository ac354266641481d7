import GridSession.Proofs.Server.Outcomes

namespace GridSession

def GameLoop.Input.isDatagram : GameLoop.Input → Bool
  | .datagram _ => true
  | .tick _ => false

/-- The arrival of a frame that is accepted but carries no action. -/
def GameLoop.Input.hasNoAction : GameLoop.Input → Bool
  | .datagram arrived => arrived.hasNoAction
  | .tick _ => false

namespace Server

/-- The datagrams whose end can be seen on a server: those that wait, those that were answered and
those that a complaint tells of. -/
def seen (loop : GameLoop Server) : Nat :=
  loop.inbox.length + loop.transport.sent.length + loop.journal.countP Note.complains

theorem seen_onDatagram (loop : GameLoop Server) (datagram : Datagram) :
    seen (loop.onDatagram datagram) + datagram.hasNoAction.toNat = seen loop + 1 := by
  obtain ⟨hsettled, hignores⟩ := GameLoop.arrival_settled datagram
  rw [GameLoop.onDatagram_eq, seen, seen, List.length_append, List.countP_append]
  dsimp only
  omega

theorem seen_tick (loop : GameLoop Server) (now : Nat) :
    seen (loop.tick now).1 + loop.inbox.countP Event.isAcknowledge = seen loop := by
  obtain ⟨sent, notes, hleaves, hcount, -⟩ := handleAll_settles now loop.inbox loop.counted
  obtain ⟨more, hwork, hquiet, -⟩ :=
    onTick_settles ⟨now, 0⟩ (Station.handleAll now loop.inbox loop.counted)
  have hleft := hleaves.trans hwork
  have hsent : (loop.tick now).1.transport.sent = loop.transport.sent ++ (sent ++ []) :=
    hleft.sent_eq
  have hjournal : (loop.tick now).1.journal = loop.journal ++ (notes ++ more) := hleft.journal_eq
  have hinbox : (loop.tick now).1.inbox = [] := rfl
  rw [seen, seen, hsent, hjournal, hinbox]
  simp only [List.countP_append, List.length_append, List.length_nil, hquiet]
  omega

theorem seen_step (loop : GameLoop Server) (input : GameLoop.Input) :
    seen (loop.step input) + (loop.handedBy input).countP (·.2.isAcknowledge)
        + input.hasNoAction.toNat
      = seen loop + input.isDatagram.toNat := by
  cases input with
  | datagram datagram => exact seen_onDatagram loop datagram
  | tick now =>
    have htick := seen_tick loop now
    rw [GameLoop.handedBy, List.countP_map]
    exact htick

theorem seen_run (loop : GameLoop Server) (inputs : List GameLoop.Input) :
    seen (loop.run inputs) + (loop.handed inputs).countP (·.2.isAcknowledge)
        + inputs.countP GameLoop.Input.hasNoAction
      = seen loop + inputs.countP GameLoop.Input.isDatagram := by
  induction inputs generalizing loop with
  | nil => rfl
  | cons input rest ih =>
    have hstep := seen_step loop input
    have hrest := ih (loop.step input)
    rw [GameLoop.run_cons, GameLoop.handed, List.countP_append, List.countP_cons, List.countP_cons,
      ← Bool.cond_eq_ite, ← Bool.cond_eq_ite]
    change seen (loop.step input) + (loop.handedBy input).countP (·.2.isAcknowledge)
        + (bif input.hasNoAction then 1 else 0)
      = seen loop + (bif input.isDatagram then 1 else 0) at hstep
    omega

/-- In every run of a server the datagrams that arrived are as many as the events that wait, the
datagrams that were sent, the complaints, the acknowledgments that were handled and the frames
without an action together. For what arrived was queued, or one note says that it was not; what was
queued is handled once, in order, or waits; what is handled sends one datagram, or one note says
that it does not; and the server's own work adds nothing to any of this. -/
theorem datagrams_accounted (params : GameParams) (fails : Nat → Bool)
    (inputs : List GameLoop.Input) :
    let start : GameLoop Server := .start params {} { fails }
    let loop := start.run inputs
    (inputs.countP GameLoop.Input.isDatagram
      = loop.inbox.length + loop.transport.sent.length + loop.journal.countP Note.complains
        + (start.handed inputs).countP (·.2.isAcknowledge)
        + inputs.countP GameLoop.Input.hasNoAction)
    ∧ (∀ datagram, ∃ queued notes,
      loop.onDatagram datagram
        = { loop with inbox := loop.inbox ++ queued, journal := loop.journal ++ notes }
      ∧ queued.length + notes.countP Note.complains + notes.countP Note.ignores = 1)
    ∧ (start.handed inputs).map Prod.snd ++ loop.inbox
      = inputs.filterMap GameLoop.Input.event?
    ∧ (∀ moment event (station : Station Server), ∃ sent notes,
      Leaves station (station.handle moment event) sent notes
      ∧ sent.length + notes.countP Note.complains + notes.countP Note.ignores = 1)
    ∧ ∀ moment (station : Station Server), ∃ notes,
      Leaves station (onTick moment station).1 [] notes
      ∧ notes.countP Note.complains + notes.countP Note.ignores = 0 := by
  intro start loop
  refine ⟨?_, ?_, GameLoop.handed_append_inbox start inputs, ?_, ?_⟩
  · -- what was seen is kept equal step by step, and a new loop has seen nothing
    have hseen := seen_run start inputs
    have hnothing : seen start = 0 := rfl
    rw [hnothing, Nat.zero_add] at hseen
    exact hseen.symm
  · intro datagram
    exact ⟨_, _, GameLoop.onDatagram_eq loop datagram, (GameLoop.arrival_settled datagram).1⟩
  · intro moment event station
    obtain ⟨sent, notes, hleaves, hsettles⟩ := handle_settles moment event station
    exact ⟨sent, notes, hleaves, hsettles.settled⟩
  · intro moment station
    obtain ⟨notes, hleaves, hcomplains, hignores⟩ := onTick_settles moment station
    exact ⟨notes, hleaves, by rw [hcomplains, hignores]⟩

end Server

end GridSession
