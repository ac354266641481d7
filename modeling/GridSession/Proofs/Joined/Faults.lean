import GridSession.Proofs.Client.Repeated
import GridSession.Proofs.Joined.Rounds

namespace GridSession

/-- The same faults with every damaged datagram lost. -/
def Faults.undamaged (faults : Faults) : Faults :=
  { faults with lost := faults.lost ++ faults.damaged, damaged := [] }

def Faults.unrepeated (faults : Faults) : Faults :=
  { faults with repeated := [] }

def Conditions.thinned (conditions : Conditions) : Conditions :=
  { conditions with
    requests := conditions.requests.undamaged
    replies := conditions.replies.undamaged.unrepeated }

def Episode.thinned : Episode → Episode
  | .round conditions => .round conditions.thinned
  | .leave index => .leave index

def Round.unwritten (round : Round) : Round :=
  { round with journal := [] }

theorem Round.exists_journal {round other : Round} (h : round.unwritten = other.unwritten) :
    ∃ journal, other = { round with journal } := by
  obtain ⟨clientsGoOn, serverGoesOn, requests, replies, journal⟩ := other
  simp only [unwritten, mk.injEq, and_true] at h
  obtain ⟨rfl, rfl, rfl, rfl⟩ := h
  exact ⟨journal, rfl⟩

namespace Joined

section Heard

variable {sender : SocketAddress}

theorem copies_undamaged (faults : Faults) (number : Nat) :
    faults.undamaged.copies number = faults.copies number :=
  if_congr (by simp [Faults.undamaged]) rfl rfl

theorem copies_unrepeated (faults : Faults) (number : Nat) :
    faults.copies number = faults.unrepeated.copies number
      ∨ faults.copies number = 2 ∧ faults.unrepeated.copies number = 1 := by
  by_cases hlost : number ∈ faults.lost ∨ number ∈ faults.damaged
  · exact .inl ((if_pos hlost).trans (if_pos hlost).symm)
  · have hunrepeated : faults.unrepeated.copies number = 1 :=
      (if_neg hlost).trans (if_neg List.not_mem_nil)
    by_cases hrepeated : number ∈ faults.repeated
    · exact .inr ⟨(if_neg hlost).trans (if_pos hrepeated), hunrepeated⟩
    · exact .inl (((if_neg hlost).trans (if_neg hrepeated)).trans hunrepeated.symm)

/-- Damage is not heard. -/
theorem heardOf_undamaged (faults : Faults) (numbered : List (Outgoing × Nat)) :
    heardOf faults.undamaged sender numbered = heardOf faults sender numbered := by
  simp only [heardOf, copies_undamaged]

theorem heardOf_cons (faults : Faults) (outgoing : Outgoing) (number : Nat)
    (rest : List (Outgoing × Nat)) :
    heardOf faults sender ((outgoing, number) :: rest)
      = (List.replicate (faults.copies number)
          (Event.decoded? ⟨sender, outgoing.bytes⟩).toList).flatten
        ++ heardOf faults sender rest :=
  List.flatMap_cons

/-- Without repetitions the same is heard, but nothing twice in a row. -/
theorem repeats_heardOf (faults : Faults) (numbered : List (Outgoing × Nat)) :
    Repeats (heardOf faults.unrepeated sender numbered) (heardOf faults sender numbered) := by
  induction numbered with
  | nil => exact .nil
  | cons entry rest ih =>
    obtain ⟨outgoing, number⟩ := entry
    rw [heardOf_cons, heardOf_cons]
    refine Repeats.append ?_ ih
    rcases copies_unrepeated faults number with hsame | ⟨htwice, honce⟩
    · rw [hsame]
      exact .refl _
    · rw [htwice, honce]
      cases Event.decoded? ⟨sender, outgoing.bytes⟩ with
      | none => exact .nil
      | some event => exact .twice event .nil

end Heard

/-- Two joined runs, of which the second has no damage and no repeated replies. -/
structure SameButFaults (full thin : Joined) : Prop where
  server : full.server.toStation.SameButJournal thin.server.toStation
  inbox_eq : full.server.inbox = thin.server.inbox
  clients : List.Forall₂ Client.SameButRepeats full.clients thin.clients

section Turns

variable {conditions : Conditions} {full thin : GameLoop Server} {round round' : Round}

theorem hears_same {after after' : GameLoop Server} {events : List Event}
    (hserver : full.toStation.SameButJournal thin.toStation) (hinbox : full.inbox = thin.inbox)
    (hfull : full.Hears events after) (hthin : thin.Hears events after') :
    after.toStation.SameButJournal after'.toStation ∧ after.inbox = after'.inbox := by
  refine ⟨(hfull.same.trans hserver).trans hthin.same.symm, ?_⟩
  rw [hfull.inbox_eq, hthin.inbox_eq, hinbox]

theorem cleared_same {δ : Type} {loop twin : GameLoop δ}
    (h : loop.toStation.SameButJournal twin.toStation) :
    loop.cleared.toStation.SameButJournal twin.cleared.toStation := by
  refine ⟨h.driver_eq, h.game_eq, ?_⟩
  change (loop.transport.take).2 = (twin.transport.take).2
  rw [h.transport_eq]

/-- A turn without damage shows the same, and the server hears the same. -/
theorem clientTurn_thinned {client twin : GameLoop Client} {clients : List (GameLoop Client)}
    (hagree : Agreement ⟨full, client :: clients⟩) (hclient : Client.SameButRepeats client twin)
    (hserver : full.toStation.SameButJournal thin.toStation) (hinbox : full.inbox = thin.inbox)
    (hround : round.unwritten = round'.unwritten) (index : Nat) :
    let turn := clientTurn conditions index client full round
    let turn' := clientTurn conditions.thinned index twin thin round'
    Client.SameButRepeats turn.1 turn'.1
      ∧ (turn.2.1.toStation.SameButJournal turn'.2.1.toStation
        ∧ turn.2.1.inbox = turn'.2.1.inbox)
      ∧ turn.2.2.unwritten = turn'.2.2.unwritten := by
  intro turn turn'
  obtain ⟨journal, rfl⟩ := Round.exists_journal hround
  by_cases hidle : index ∈ conditions.idle
  · have hturn : turn = _ := clientTurn_of_idle hidle
    have hturn' : turn' = _ := clientTurn_of_idle hidle
    rw [hturn, hturn']
    exact ⟨hclient, ⟨hserver, hinbox⟩, rfl⟩
  · have hturn : turn = _ := clientTurn_of_awake hidle
    have hturn' : turn' = _ := clientTurn_of_awake hidle
    obtain ⟨htick, hanswer⟩ := hclient.tick conditions.now
    have hsent : (client.tick conditions.now).1.transport.sent
        = (twin.tick conditions.now).1.transport.sent :=
      congrArg Transport.sent htick.same.transport_eq
    have hcarries := (hagree.clients client List.mem_cons_self).sent_carries hagree.honest.table
      conditions.now
    have hidle' : index ∉ conditions.thinned.idle := hidle
    have hcarries' : ∀ outgoing ∈ (twin.tick conditions.thinned.now).1.transport.sent,
        Frame.Carries (Event.Names (Server.Assigns full.game)) outgoing.bytes := by
      change ∀ outgoing ∈ (twin.tick conditions.now).1.transport.sent, _
      rwa [← hsent]
    have hfull := clientTurn_hears_requests hidle hcarries full round
    have hthin := clientTurn_hears_requests hidle' hcarries' thin { round with journal }
    -- damaged requests are not heard, and the others keep their numbers
    rw [hsent, htick.same.driver_eq] at hfull
    rw [show conditions.thinned.requests = conditions.requests.undamaged from rfl,
      heardOf_undamaged] at hthin
    refine ⟨?_, hears_same hserver hinbox hfull hthin, ?_⟩
    · rw [hturn, hturn']
      exact ⟨cleared_same htick.same, htick.repeats⟩
    · rw [hturn, hturn']
      simp only [Round.unwritten]
      rw [hsent, hanswer]
      rfl

theorem clientTurns_thinned (conditions : Conditions) {clients twins : List (GameLoop Client)}
    (hclients : List.Forall₂ Client.SameButRepeats clients twins)
    (hagree : Agreement ⟨full, clients⟩)
    (hserver : full.toStation.SameButJournal thin.toStation) (hinbox : full.inbox = thin.inbox)
    (hround : round.unwritten = round'.unwritten) (index : Nat) :
    let turns := clientTurns conditions index clients full round
    let turns' := clientTurns conditions.thinned index twins thin round'
    SameButFaults ⟨turns.2.1, turns.1⟩ ⟨turns'.2.1, turns'.1⟩
      ∧ turns.2.2.unwritten = turns'.2.2.unwritten := by
  induction hclients generalizing full thin round round' index with
  | nil => exact ⟨⟨hserver, hinbox, .nil⟩, hround⟩
  | @cons client twin rest others hclient _ ih =>
    obtain ⟨hturn, ⟨hserver', hinbox'⟩, hround'⟩ :=
      clientTurn_thinned hagree hclient hserver hinbox hround index
    have hagree' := clientTurn_agreement conditions index round hagree
    obtain ⟨hrest, hrounds⟩ := ih
      ⟨hagree'.honest, hagree'.named,
        fun other hmem => hagree'.clients other (List.mem_cons_of_mem _ hmem)⟩
      hserver' hinbox' hround' (index + 1)
    exact ⟨⟨hrest.server, hrest.inbox_eq, .cons hturn hrest.clients⟩, hrounds⟩

theorem receiveAll_thinned {client twin : GameLoop Client} {sent : List Outgoing}
    (hframes : ∀ outgoing ∈ sent, Frame.Carries (fun _ => True) outgoing.bytes)
    (h : Client.SameButRepeats client twin) (faults : Faults) :
    Client.SameButRepeats (receiveAll (arrivalsFrom faults 0 sent) client)
      (receiveAll (arrivalsFrom faults.undamaged.unrepeated 0 sent) twin) := by
  have hfull := receiveAll_hears_replies hframes faults client
  have hthin := receiveAll_hears_replies hframes faults.undamaged.unrepeated twin
  have hkind : isFor twin = isFor client := by
    funext target
    rw [isFor, isFor, h.same.driver_eq]
  rw [hkind, ← h.same.driver_eq] at hthin
  refine ⟨(hfull.same.trans h.same).trans hthin.same.symm, ?_⟩
  rw [hfull.inbox_eq, hthin.inbox_eq, ← heardOf_undamaged faults]
  exact h.repeats.append (repeats_heardOf ..)

theorem serverTurn_thinned (conditions : Conditions) {clients twins : List (GameLoop Client)}
    (h : SameButFaults ⟨full, clients⟩ ⟨thin, twins⟩) (hagree : Agreement ⟨full, clients⟩)
    (hround : round.unwritten = round'.unwritten) :
    let turn := serverTurn conditions clients full round
    let turn' := serverTurn conditions.thinned twins thin round'
    SameButFaults turn.1 turn'.1 ∧ turn.2.unwritten = turn'.2.unwritten := by
  intro turn turn'
  obtain ⟨journal, rfl⟩ := Round.exists_journal hround
  obtain ⟨hsame, hanswer⟩ := Server.overlooks.tick_same h.server h.inbox_eq conditions.now
  -- both servers send the same replies, which then suffer the same losses
  have hsent : (full.tick conditions.now).1.transport.sent
      = (thin.tick conditions.now).1.transport.sent := congrArg Transport.sent hsame.transport_eq
  have hframes := Honest.sent_carries (hagree.serverTick conditions.now).honest
  have hturn : turn = _ := serverTurn_eq ..
  have hturn' : turn' = _ := serverTurn_eq ..
  rw [hturn, hturn']
  refine ⟨⟨cleared_same hsame, rfl, ?_⟩, ?_⟩
  · change List.Forall₂ Client.SameButRepeats
      (clients.map (receiveAll (arrivalsFrom conditions.replies 0
        (full.tick conditions.now).1.transport.sent)))
      (twins.map (receiveAll (arrivalsFrom conditions.thinned.replies 0
        (thin.tick conditions.now).1.transport.sent)))
    rw [← hsent, List.forall₂_map_left_iff, List.forall₂_map_right_iff]
    exact h.clients.imp fun client twin hclient =>
      receiveAll_thinned hframes hclient conditions.replies
  · simp only [Round.unwritten]
    rw [hsent, hanswer]
    rfl

end Turns

section Forall₂

variable {α β : Type} {related : α → β → Prop} {first : List α} {second : List β}

theorem forall₂_getElem? (h : List.Forall₂ related first second) (index : Nat) :
    (first[index]? = none ∧ second[index]? = none)
      ∨ ∃ a b, first[index]? = some a ∧ second[index]? = some b ∧ related a b := by
  induction h generalizing index with
  | nil => exact .inl ⟨rfl, rfl⟩
  | @cons a b rest others hrelated _ ih =>
    cases index with
    | zero => exact .inr ⟨a, b, rfl, rfl, hrelated⟩
    | succ index => exact ih index

theorem forall₂_set (h : List.Forall₂ related first second) {a : α} {b : β}
    (hrelated : related a b) (index : Nat) :
    List.Forall₂ related (first.set index a) (second.set index b) := by
  induction h generalizing index with
  | nil => exact .nil
  | cons hhead htail ih =>
    cases index with
    | zero => exact .cons hrelated htail
    | succ index => exact .cons hhead (ih index)

end Forall₂

section Runs

variable {full thin : Joined}

theorem round_thinned (h : SameButFaults full thin) (hagree : Agreement full)
    (conditions : Conditions) :
    SameButFaults (full.round conditions).1 (thin.round conditions.thinned).1
      ∧ (full.round conditions).2.unwritten = (thin.round conditions.thinned).2.unwritten := by
  obtain ⟨hturns, hround⟩ := clientTurns_thinned conditions h.clients hagree h.server
    h.inbox_eq (rfl : ({} : Round).unwritten = ({} : Round).unwritten) 0
  exact serverTurn_thinned conditions hturns (clientTurns_agreement conditions 0 {} hagree) hround

theorem disconnect_thinned {client twin : GameLoop Client}
    (h : Client.SameButRepeats client twin) :
    Client.SameButRepeats
      { client with toStation := Client.disconnect client.toStation }.takeJournal.2
      { twin with toStation := Client.disconnect twin.toStation }.takeJournal.2 := by
  obtain ⟨hdriver, hgame, htransport⟩ := Client.overlooks.obey h.same Client.Order.disconnect
  exact ⟨⟨hdriver, hgame, htransport⟩, h.repeats⟩

theorem leave_thinned (h : SameButFaults full thin) (index : Nat) :
    SameButFaults (full.disconnect index).1 (thin.disconnect index).1 := by
  unfold disconnect
  rcases forall₂_getElem? h.clients index with
    ⟨hnone, hnone'⟩ | ⟨client, twin, hclient, htwin, hsame⟩
  · rw [hnone, hnone']
    exact h
  · rw [hclient, htwin]
    exact ⟨h.server, h.inbox_eq, forall₂_set h.clients (disconnect_thinned hsame) index⟩

theorem play_thinned (h : SameButFaults full thin) (hagree : Agreement full)
    (history : List Episode) :
    SameButFaults (play history full).1 (play (history.map Episode.thinned) thin).1
      ∧ (play history full).2.map Round.unwritten
        = (play (history.map Episode.thinned) thin).2.map Round.unwritten := by
  induction history generalizing full thin with
  | nil => exact ⟨h, rfl⟩
  | cons episode rest ih =>
    cases episode with
    | round conditions =>
      obtain ⟨hround, hshown⟩ := round_thinned h hagree conditions
      obtain ⟨hrest, hrounds⟩ := ih hround (hagree.round conditions)
      exact ⟨hrest, List.cons_eq_cons.mpr ⟨hshown, hrounds⟩⟩
    | leave index => exact ih (leave_thinned h index) (hagree.leave index)

/-- Faults reduce to losses and repeated requests. In a session of a new server and new clients,
losing every datagram that would be damaged and repeating no reply changes nothing but what is
written down and what waits at the clients: all loops are in the same state, with the same game, and
the rounds showed the same requests, replies and answers. -/
theorem faults_reduce_to_losses (params : GameParams) (configs : List ClientConfig)
    (history : List Episode) :
    let full := play history (start params configs)
    let thin := play (history.map Episode.thinned) (start params configs)
    full.2.map Round.unwritten = thin.2.map Round.unwritten
    ∧ full.1.server.toStation.SameButJournal thin.1.server.toStation
    ∧ full.1.server.inbox = thin.1.server.inbox
    ∧ List.Forall₂ (fun client twin => client.toStation.SameButJournal twin.toStation)
      full.1.clients thin.1.clients := by
  intro full thin
  have hstart : SameButFaults (start params configs) (start params configs) := by
    exact ⟨.refl _, rfl, List.forall₂_same.mpr fun client _ => ⟨.refl _, .refl _⟩⟩
  obtain ⟨hsame, hrounds⟩ := play_thinned hstart (start_agreement params configs) history
  exact ⟨hrounds, hsame.server, hsame.inbox_eq, hsame.clients.imp fun _ _ h => h.same⟩

end Runs

end Joined

end GridSession
