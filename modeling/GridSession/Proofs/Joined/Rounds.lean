import GridSession.Proofs.Frame.Spoiled
import GridSession.Proofs.GameLoop.Omissions
import GridSession.Proofs.Joined.Agreement

namespace GridSession

/-- What happens to joined loops: a round, or a client leaves for good. -/
inductive Episode where
  | round (conditions : Conditions)
  | leave (index : Nat)

def Joined.play : List Episode → Joined → Joined × List Round
  | [], joined => (joined, [])
  | .round conditions :: rest, joined =>
    let (joined, round) := joined.round conditions
    let (joined, rounds) := play rest joined
    (joined, round :: rounds)
  | .leave index :: rest, joined => play rest (joined.disconnect index).1

/-- How often a datagram arrives intact. -/
def Faults.copies (faults : Faults) (number : Nat) : Nat :=
  if number ∈ faults.lost ∨ number ∈ faults.damaged then 0
  else if number ∈ faults.repeated then 2
  else 1

namespace GameLoop

variable {δ : Type}

def cleared (loop : GameLoop δ) : GameLoop δ :=
  loop.takeSent.2.takeJournal.2

structure Hears (before : GameLoop δ) (events : List Event) (after : GameLoop δ) : Prop where
  same : after.toStation.SameButJournal before.toStation
  inbox_eq : after.inbox = before.inbox ++ events
  journal : after.journal = [] ∨ after.journal = before.journal

namespace Hears

variable {before middle after : GameLoop δ} {events more : List Event}

theorem refl (loop : GameLoop δ) : Hears loop [] loop :=
  ⟨.refl _, (List.append_nil _).symm, .inr rfl⟩

theorem trans (h : Hears before events middle) (hmore : Hears middle more after) :
    Hears before (events ++ more) after := by
  refine ⟨hmore.same.trans h.same, ?_, ?_⟩
  · rw [hmore.inbox_eq, h.inbox_eq, List.append_assoc]
  · rcases hmore.journal with hnone | hkept
    · exact .inl hnone
    · exact h.journal.imp hkept.trans hkept.trans

end Hears

end GameLoop

theorem Client.Agrees.of_same {assigned : UInt32 → IPv4Endpoint → Prop} {address : IPv4Endpoint}
    {station after : Station Client} (h : Agrees assigned address station)
    (hsame : after.SameButJournal station) : Agrees assigned address after := by
  obtain ⟨journal, rfl⟩ := hsame.symm.exists_journal
  exact ⟨h.clientAddress_eq, h.playerId, h.fresh, h.loggedIn, h.ids, h.sent⟩

namespace Joined

def heard (sender : SocketAddress) (arrivals : List Bytes) : List Event :=
  arrivals.filterMap fun bytes => Event.decoded? ⟨sender, bytes⟩

def heardOf (faults : Faults) (sender : SocketAddress) (numbered : List (Outgoing × Nat)) :
    List Event :=
  numbered.flatMap fun (outgoing, number) =>
    (List.replicate (faults.copies number)
      (Event.decoded? ⟨sender, outgoing.bytes⟩).toList).flatten

section Feed

variable {δ : Type} {sender : SocketAddress}

theorem feed_eq (sender : SocketAddress) (loop : GameLoop δ) (arrivals : List Bytes) :
    feed sender loop arrivals
      = { loop with
          inbox := loop.inbox ++ heard sender arrivals
          journal := loop.journal
            ++ arrivals.flatMap fun bytes => GameLoop.arrivalNotes ⟨sender, bytes⟩ } := by
  induction arrivals generalizing loop with
  | nil => simp [feed, heard]
  | cons bytes rest ih =>
    rw [feed, List.foldl_cons, ← feed, GameLoop.onDatagram_eq, ih]
    cases hevent : Event.decoded? ⟨sender, bytes⟩ <;> simp [heard, hevent]

theorem feed_hears (sender : SocketAddress) (loop : GameLoop δ) (arrivals : List Bytes) :
    loop.Hears (heard sender arrivals) (feed sender loop arrivals).takeJournal.2 := by
  rw [feed_eq]
  exact ⟨⟨rfl, rfl, rfl⟩, rfl, .inl rfl⟩

theorem heard_arrivals {P : Event → Prop} {bytes : Bytes} (h : Frame.Carries P bytes)
    (faults : Faults) (number : Nat) :
    heard sender (faults.arrivals number bytes)
      = (List.replicate (faults.copies number)
        (Event.decoded? ⟨sender, bytes⟩).toList).flatten := by
  have hspoiled := h.decoded?_last sender
  unfold Faults.arrivals Faults.copies
  by_cases hlost : number ∈ faults.lost
  · simp [hlost, heard]
  · by_cases hdamaged : number ∈ faults.damaged
    · split_ifs <;> simp_all [heard]
    · cases hevent : Event.decoded? ⟨sender, bytes⟩ <;> split_ifs <;>
        simp_all [heard, List.replicate]

theorem heard_arrivalsFrom {P : Event → Prop} {sent : List Outgoing}
    (h : ∀ outgoing ∈ sent, Frame.Carries P outgoing.bytes) (faults : Faults) (first : Nat)
    (sender : SocketAddress) (kind : SocketAddress → Bool) :
    heard sender (((arrivalsFrom faults first sent).filter (kind ·.target)).map Outgoing.bytes)
      = heardOf faults sender ((sent.zipIdx first).filter (kind ·.1.target)) := by
  induction sent generalizing first with
  | nil => rfl
  | cons outgoing rest ih =>
    have hrest := ih (fun other hmem => h other (List.mem_cons_of_mem _ hmem)) (first + 1)
    have hfirst : heard sender (faults.arrivals first outgoing.bytes)
        = (List.replicate (faults.copies first)
          (Event.decoded? ⟨sender, outgoing.bytes⟩).toList).flatten :=
      heard_arrivals (h outgoing List.mem_cons_self) faults first
    unfold arrivalsFrom heardOf at hrest ⊢
    rw [List.zipIdx_cons, List.flatMap_cons, List.filter_append, List.map_append, heard,
      List.filterMap_append, ← heard, ← heard, hrest, List.filter_cons]
    -- a reply to somebody else counts, so that the later ones keep their numbers
    cases hkind : kind outgoing.target with
    | true => simp [hkind, List.filter_map, Function.comp_def, hfirst]
    | false => simp [hkind, List.filter_map, Function.comp_def, heard]

end Feed

theorem mem_heardOf {faults : Faults} {sender : SocketAddress} {numbered : List (Outgoing × Nat)}
    {event : Event} (h : event ∈ heardOf faults sender numbered) :
    ∃ outgoing ∈ numbered.map Prod.fst, event ∈ Event.decoded? ⟨sender, outgoing.bytes⟩ := by
  obtain ⟨⟨outgoing, number⟩, hmem, hcopies⟩ := List.mem_flatMap.mp h
  obtain ⟨copy, hcopy, hevent⟩ := List.mem_flatten.mp hcopies
  rw [List.eq_of_mem_replicate hcopy] at hevent
  exact ⟨outgoing, List.mem_map_of_mem hmem, Option.mem_toList.mp hevent⟩

theorem forall_mem_heardOf {P : Event → Prop} {faults : Faults} {sender : SocketAddress}
    {numbered : List (Outgoing × Nat)}
    (h : ∀ outgoing ∈ numbered.map Prod.fst, Frame.Carries P outgoing.bytes) :
    ∀ event ∈ heardOf faults sender numbered, P event := by
  intro event hmem
  obtain ⟨outgoing, hsent, hevent⟩ := mem_heardOf hmem
  exact (h outgoing hsent).decoded sender event hevent

section ClientTurn

variable {conditions : Conditions} {index : Nat} {client : GameLoop Client}
  {server : GameLoop Server} {round : Round}

theorem clientTurn_of_idle (h : index ∈ conditions.idle) :
    clientTurn conditions index client server round
      = (client, server, { round with clientsGoOn := round.clientsGoOn ++ [none] }) :=
  if_pos h

theorem clientTurn_of_awake (h : index ∉ conditions.idle) :
    let ticked := (client.tick conditions.now).1
    let sent := ticked.transport.sent
    let fed := feed (.v4 ticked.driver.config.clientAddress) server
      ((arrivalsFrom conditions.requests round.requests.length sent).map Outgoing.bytes)
    clientTurn conditions index client server round
      = (ticked.cleared, fed.takeJournal.2, { round with
        clientsGoOn := round.clientsGoOn ++ [some (client.tick conditions.now).2]
        requests := round.requests ++ sent.map (⟨index, ·⟩)
        journal := round.journal ++ ticked.journal ++ fed.journal }) :=
  if_neg h

theorem clientTurns_cons (rest : List (GameLoop Client)) :
    clientTurns conditions index (client :: rest) server round
      = (let turn := clientTurn conditions index client server round
        let turns := clientTurns conditions (index + 1) rest turn.2.1 turn.2.2
        (turn.1 :: turns.1, turns.2)) :=
  rfl

end ClientTurn

section Deliver

def receiveAll (replies : List Outgoing) (client : GameLoop Client) : GameLoop Client :=
  replies.foldl (fun client reply => (receiveReply reply client).1) client

def isFor (client : GameLoop Client) (target : SocketAddress) : Bool :=
  target == .v4 client.driver.config.clientAddress

theorem deliverReplies_fst (replies : List Outgoing) (clients : List (GameLoop Client)) :
    (deliverReplies replies clients).1 = clients.map (receiveAll replies) := by
  induction replies generalizing clients with
  | nil => exact (List.map_id' clients).symm
  | cons reply rest ih =>
    change (deliverReplies rest ((clients.map (receiveReply reply)).map Prod.fst)).1 = _
    rw [ih, List.map_map, List.map_map]
    rfl

theorem receiveReply_of_for {reply : Outgoing} {client : GameLoop Client}
    (h : isFor client reply.target = true) :
    client.Hears (heard client.driver.config.serverAddress [reply.bytes])
      (receiveReply reply client).1 := by
  rw [receiveReply, if_pos (beq_iff_eq.mp h)]
  exact feed_hears client.driver.config.serverAddress client [reply.bytes]

theorem receiveReply_of_not_for {reply : Outgoing} {client : GameLoop Client}
    (h : isFor client reply.target = false) : (receiveReply reply client).1 = client := by
  rw [receiveReply, if_neg (beq_eq_false_iff_ne.mp h)]

theorem receiveAll_hears (replies : List Outgoing) (client : GameLoop Client) :
    client.Hears
      (heard client.driver.config.serverAddress
        ((replies.filter (isFor client ·.target)).map Outgoing.bytes))
      (receiveAll replies client) := by
  induction replies generalizing client with
  | nil => exact .refl client
  | cons reply rest ih =>
    have hrest := ih (receiveReply reply client).1
    cases hfor : isFor client reply.target with
    | true =>
      have hfirst := receiveReply_of_for hfor
      have hconfig : (receiveReply reply client).1.driver.config = client.driver.config :=
        congrArg Client.config hfirst.same.driver_eq
      -- receiving does not change who the client is, so the later replies are sorted alike
      have hkind : isFor (receiveReply reply client).1 = isFor client := by
        funext target
        rw [isFor, isFor, hconfig]
      rw [hconfig, hkind] at hrest
      have hboth := hfirst.trans hrest
      rw [heard, heard, ← List.filterMap_append] at hboth
      rw [List.filter_cons, if_pos hfor]
      exact hboth
    | false =>
      rw [receiveReply_of_not_for hfor] at hrest
      rw [List.filter_cons, if_neg (ne_true_of_eq_false hfor), receiveAll, List.foldl_cons,
        receiveReply_of_not_for hfor]
      exact hrest

theorem receiveAll_hears_replies {P : Event → Prop} {sent : List Outgoing}
    (hframes : ∀ outgoing ∈ sent, Frame.Carries P outgoing.bytes) (faults : Faults)
    (client : GameLoop Client) :
    client.Hears
      (heardOf faults client.driver.config.serverAddress
        ((sent.zipIdx 0).filter (isFor client ·.1.target)))
      (receiveAll (arrivalsFrom faults 0 sent) client) := by
  rw [← heard_arrivalsFrom hframes]
  exact receiveAll_hears ..

end Deliver

theorem serverTurn_eq (conditions : Conditions) (clients : List (GameLoop Client))
    (server : GameLoop Server) (round : Round) :
    let ticked := (server.tick conditions.now).1
    let sent := ticked.transport.sent
    let arrivals := arrivalsFrom conditions.replies 0 sent
    serverTurn conditions clients server round
      = (⟨ticked.cleared, clients.map (receiveAll arrivals)⟩, { round with
        serverGoesOn := (server.tick conditions.now).2
        replies := sent
        journal := round.journal ++ ticked.journal ++ (deliverReplies arrivals clients).2 }) := by
  intro ticked sent arrivals
  rw [← deliverReplies_fst]
  rfl

theorem clientTurn_hears_requests {P : Event → Prop} {conditions : Conditions} {index : Nat}
    {client : GameLoop Client} (hidle : index ∉ conditions.idle)
    (hframes : ∀ outgoing ∈ (client.tick conditions.now).1.transport.sent,
      Frame.Carries P outgoing.bytes)
    (server : GameLoop Server) (round : Round) :
    server.Hears
      (heardOf conditions.requests
        (.v4 (client.tick conditions.now).1.driver.config.clientAddress)
        ((client.tick conditions.now).1.transport.sent.zipIdx round.requests.length))
      (clientTurn conditions index client server round).2.1 := by
  have hheard := heard_arrivalsFrom hframes conditions.requests round.requests.length
    (.v4 (client.tick conditions.now).1.driver.config.clientAddress) (fun _ => true)
  rw [List.filter_true, List.filter_true] at hheard
  rw [clientTurn_of_awake hidle, ← hheard]
  exact feed_hears ..

/-- In the turn of a client the server does nothing but hear. -/
theorem clientTurn_hears (conditions : Conditions) (index : Nat) (client : GameLoop Client)
    (server : GameLoop Server) (round : Round) :
    ∃ events, server.Hears events (clientTurn conditions index client server round).2.1 := by
  by_cases hidle : index ∈ conditions.idle
  · rw [clientTurn_of_idle hidle]
    exact ⟨[], .refl server⟩
  · rw [clientTurn_of_awake hidle]
    exact ⟨_, feed_hears ..⟩

theorem clientTurns_hears (conditions : Conditions) (index : Nat)
    (clients : List (GameLoop Client)) (server : GameLoop Server) (round : Round) :
    ∃ events, server.Hears events (clientTurns conditions index clients server round).2.1 := by
  induction clients generalizing index server round with
  | nil => exact ⟨[], .refl server⟩
  | cons client rest ih =>
    obtain ⟨events, hturn⟩ := clientTurn_hears conditions index client server round
    obtain ⟨more, hrest⟩ := ih (index + 1) (clientTurn conditions index client server round).2.1
      (clientTurn conditions index client server round).2.2
    exact ⟨events ++ more, hturn.trans hrest⟩

section Agreement

open Server (Assigns)

variable {server after : GameLoop Server} {clients : List (GameLoop Client)}
  {events : List Event}

theorem Agreement.hears (h : Agreement ⟨server, clients⟩) (hhears : server.Hears events after)
    (hnamed : ∀ event ∈ events, event.Names (Assigns server.game)) :
    Agreement ⟨after, clients⟩ := by
  obtain ⟨⟨htable, hsent, hquiet⟩, hinbox, hclients⟩ := h
  obtain ⟨⟨-, hgame, htransport⟩, hwaiting, hjournal⟩ := hhears
  have hsilent : Server.Quiet after.toStation := by
    rcases hjournal with hnone | hkept
    · intro note hmem
      rw [hnone] at hmem
      exact absurd hmem List.not_mem_nil
    · intro note hmem
      rw [hkept] at hmem
      exact hquiet note hmem
  refine ⟨⟨?_, ?_, hsilent⟩, ?_, ?_⟩
  · rw [hgame]
    exact htable
  · rw [hgame, htransport]
    exact hsent
  · change ∀ event ∈ after.inbox, event.Names (Assigns after.game)
    rw [hgame, hwaiting]
    intro event hmem
    exact (List.mem_append.mp hmem).elim (hinbox event) (hnamed event)
  · change ∀ client ∈ clients, InAgreement after.game client
    rw [hgame]
    exact hclients

theorem InAgreement.hears {game : Game} {client after : GameLoop Client}
    (h : InAgreement game client) (hhears : client.Hears events after)
    (hgranted : ∀ event ∈ events,
      event.Grants (Assigns game) client.driver.config.clientAddress) :
    InAgreement game after := by
  refine .of_agrees (h.agrees.of_same hhears.same) ?_
  rw [hhears.inbox_eq]
  intro event hmem
  exact (List.mem_append.mp hmem).elim (h.granted event) (hgranted event)

theorem InAgreement.cleared {game : Game} {client : GameLoop Client}
    (h : InAgreement game client) : InAgreement game client.cleared := by
  obtain ⟨⟨haddress, hplayerId, hfresh, hloggedIn, hids, -⟩, hinbox⟩ := h
  exact ⟨⟨haddress, hplayerId, hfresh, hloggedIn, hids, nofun⟩, hinbox⟩

theorem Agreement.cleared (h : Agreement ⟨server, clients⟩) :
    Agreement ⟨server.cleared, clients⟩ :=
  ⟨⟨h.honest.table, nofun, nofun⟩, h.named, h.clients⟩

/-- All that a client in agreement sends in its tick are frames, whose pings name sessions. -/
theorem InAgreement.sent_carries {game : Game} {client : GameLoop Client}
    (htable : Server.Table game) (h : InAgreement game client) (now : Nat) :
    ∀ outgoing ∈ (client.tick now).1.transport.sent,
      Frame.Carries (Event.Names (Assigns game)) outgoing.bytes :=
  (h.tick htable now).agrees.sent

theorem clientTurn_agreement {client : GameLoop Client} (conditions : Conditions) (index : Nat)
    (round : Round) (h : Agreement ⟨server, client :: clients⟩) :
    Agreement ⟨(clientTurn conditions index client server round).2.1,
      (clientTurn conditions index client server round).1 :: clients⟩ := by
  by_cases hidle : index ∈ conditions.idle
  · rw [clientTurn_of_idle hidle]
    exact h
  · rw [clientTurn_of_awake hidle]
    have hclient := h.clients client List.mem_cons_self
    have hcarries := hclient.sent_carries h.honest.table conditions.now
    have hhears := clientTurn_hears_requests hidle hcarries server round
    rw [clientTurn_of_awake hidle] at hhears
    refine Agreement.hears ⟨h.honest, h.named, fun other hmem => ?_⟩ hhears
      (forall_mem_heardOf (by rwa [List.zipIdx_map_fst]))
    rcases List.mem_cons.mp hmem with rfl | hold
    · exact (hclient.tick h.honest.table conditions.now).cleared
    · exact h.clients other (List.mem_cons_of_mem _ hold)

theorem clientTurns_agreement (conditions : Conditions) (index : Nat) (round : Round)
    (h : Agreement ⟨server, clients⟩) :
    Agreement ⟨(clientTurns conditions index clients server round).2.1,
      (clientTurns conditions index clients server round).1⟩ := by
  induction clients generalizing index server round with
  | nil => exact h
  | cons client rest ih =>
    have hturn := clientTurn_agreement conditions index round h
    have hrest := ih (index + 1) (clientTurn conditions index client server round).2.2
      ⟨hturn.honest, hturn.named,
        fun other hmem => hturn.clients other (List.mem_cons_of_mem _ hmem)⟩
    refine ⟨hrest.honest, hrest.named, fun other hmem => ?_⟩
    rcases List.mem_cons.mp hmem with rfl | hold
    · -- the turns of the others leave the server's game as it is
      obtain ⟨events, hhears⟩ := clientTurns_hears conditions (index + 1) rest
        (clientTurn conditions index client server round).2.1
        (clientTurn conditions index client server round).2.2
      have hfirst := hturn.clients _ List.mem_cons_self
      rw [← hhears.same.game_eq] at hfirst
      exact hfirst
    · exact hrest.clients other hold

/-- All that an honest server sends are frames. -/
theorem Honest.sent_carries (h : Server.Honest server.toStation) :
    ∀ outgoing ∈ server.transport.sent, Frame.Carries (fun _ => True) outgoing.bytes := by
  intro outgoing hmem
  obtain ⟨endpoint, -, hcarries⟩ := h.sent outgoing hmem
  exact hcarries.mono fun _ _ => trivial

theorem serverTurn_agreement (conditions : Conditions) (round : Round)
    (h : Agreement ⟨server, clients⟩) :
    Agreement (serverTurn conditions clients server round).1 := by
  rw [serverTurn_eq]
  have hticked := h.serverTick conditions.now
  refine ⟨hticked.cleared.honest, hticked.cleared.named, fun other hmem => ?_⟩
  obtain ⟨client, hclient, rfl⟩ := List.mem_map.mp hmem
  refine (hticked.clients client hclient).hears
    (receiveAll_hears_replies (Honest.sent_carries hticked.honest) ..)
    (forall_mem_heardOf fun outgoing hsent => ?_)
  -- what is addressed to the client grants sessions of its address
  obtain ⟨⟨sent, number⟩, hnumbered, rfl⟩ := List.mem_map.mp hsent
  obtain ⟨hnumbered, hfor⟩ := List.mem_filter.mp hnumbered
  obtain ⟨endpoint, htarget, hcarries⟩ :=
    hticked.honest.sent sent (List.fst_mem_of_mem_zipIdx hnumbered)
  have haddress := htarget.symm.trans (beq_iff_eq.mp hfor)
  cases haddress
  exact hcarries

variable {joined : Joined}

theorem Agreement.round (h : Agreement joined) (conditions : Conditions) :
    Agreement (joined.round conditions).1 :=
  serverTurn_agreement conditions _ (clientTurns_agreement conditions 0 {} h)

theorem Agreement.leave (h : Agreement joined) (index : Nat) :
    Agreement (joined.disconnect index).1 := by
  unfold Joined.disconnect
  cases hclient : joined.clients[index]? with
  | none => exact h
  | some client =>
    have hagrees := h.clients client (List.mem_of_getElem? hclient)
    refine h.set_client index (.of_agrees (hagrees.agrees.disconnect.of_same ?_) hagrees.granted)
    exact ⟨rfl, rfl, rfl⟩

theorem Agreement.play (h : Agreement joined) (history : List Episode) :
    Agreement (Joined.play history joined).1 := by
  induction history generalizing joined with
  | nil => exact h
  | cons episode rest ih =>
    cases episode with
    | round conditions => exact ih (h.round conditions)
    | leave index => exact ih (h.leave index)

theorem start_agreement (params : GameParams) (configs : List ClientConfig) :
    Agreement (start params configs) := by
  refine Fresh.agreement ⟨⟨params, fun _ => false, rfl⟩, fun client hmem => ?_⟩
  obtain ⟨config, -, rfl⟩ := List.mem_map.mp hmem
  exact ⟨{}, config, fun _ => false, rfl⟩

end Agreement

end Joined

end GridSession
