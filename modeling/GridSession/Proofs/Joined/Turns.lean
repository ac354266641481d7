import GridSession.Proofs.Client.Entry
import GridSession.Proofs.Client.Schedule
import GridSession.Proofs.Joined.Rounds
import GridSession.Proofs.Server.Replies

namespace GridSession

def Faults.Spares (faults : Faults) (count : Nat) : Prop :=
  ∀ number < count, number ∉ faults.lost ∧ number ∉ faults.damaged

theorem Faults.Spares.copies_ne_zero {faults : Faults} {count number : Nat}
    (h : faults.Spares count) (hnumber : number < count) : faults.copies number ≠ 0 := by
  obtain ⟨hlost, hdamaged⟩ := h number hnumber
  rw [copies, if_neg (not_or.mpr ⟨hlost, hdamaged⟩)]
  split_ifs <;> decide

theorem Client.InStep.of_same {config : ClientConfig} {station after : Station Client}
    (h : InStep config station) (hdriver : after.driver = station.driver)
    (hgame : after.game = station.game)
    (hjournal : after.journal = [] ∨ after.journal = station.journal) : InStep config after := by
  obtain ⟨hconfig, hfresh, hloggedIn, hown, hnot⟩ := h
  rw [← hdriver] at hconfig hfresh hloggedIn hown
  rw [← hgame] at hown
  refine ⟨hconfig, hfresh, hloggedIn, hown, fun id => ?_⟩
  rcases hjournal with hnone | hkept
  · rw [hnone]
    exact List.not_mem_nil
  · rw [hkept]
    exact hnot id

theorem Client.InStep.own_config {config : ClientConfig} {station : Station Client}
    (h : InStep config station) : InStep station.driver.config station := by
  rw [h.config_eq]
  exact h

/-- No send fails, and what was sent was taken. -/
structure Transport.Ready (transport : Transport) : Prop where
  works : transport.fails = fun _ => false
  sent_eq : transport.sent = []

theorem GameLoop.ready_cleared {δ : Type} {loop : GameLoop δ}
    (hworks : loop.transport.fails = fun _ => false) : loop.cleared.transport.Ready :=
  ⟨hworks, rfl⟩

namespace Joined

section Clients

variable (conditions : Conditions) (first : Nat) (clients : List (GameLoop Client))
  (server : GameLoop Server) (round : Round)

def turned (index : Nat) (client : GameLoop Client) : GameLoop Client :=
  if index ∈ conditions.idle then client else (client.tick conditions.now).1.cleared

def requestsOf (index : Nat) (client : GameLoop Client) : List Request :=
  if index ∈ conditions.idle then []
  else (client.tick conditions.now).1.transport.sent.map (⟨index, ·⟩)

theorem client_clientTurn (index : Nat) (client : GameLoop Client) :
    (clientTurn conditions index client server round).1 = turned conditions index client := by
  unfold turned
  split_ifs with hidle
  · rw [clientTurn_of_idle hidle]
  · rw [clientTurn_of_awake hidle]

theorem requests_clientTurn (index : Nat) (client : GameLoop Client) :
    (clientTurn conditions index client server round).2.2.requests
      = round.requests ++ requestsOf conditions index client := by
  unfold requestsOf
  split_ifs with hidle
  · rw [clientTurn_of_idle hidle, List.append_nil]
  · rw [clientTurn_of_awake hidle]

theorem clients_clientTurns :
    (clientTurns conditions first clients server round).1
      = clients.mapIdx fun index => turned conditions (first + index) := by
  induction clients generalizing first server round with
  | nil => rfl
  | cons client rest ih =>
    rw [clientTurns_cons, List.mapIdx_cons]
    dsimp only
    rw [client_clientTurn, ih]
    simp only [Nat.add_assoc, Nat.add_comm 1]
    rfl

theorem requests_clientTurns :
    (clientTurns conditions first clients server round).2.2.requests
      = round.requests
        ++ (clients.mapIdx fun index => requestsOf conditions (first + index)).flatten := by
  induction clients generalizing first server round with
  | nil => exact (List.append_nil _).symm
  | cons client rest ih =>
    rw [clientTurns_cons, List.mapIdx_cons, List.flatten_cons]
    dsimp only
    rw [ih, requests_clientTurn, List.append_assoc]
    simp only [Nat.add_assoc, Nat.add_comm 1]
    rfl

end Clients

section Round

variable {conditions : Conditions} {joined : Joined} {index : Nat}

def listened (joined : Joined) (conditions : Conditions) : GameLoop Server :=
  (clientTurns conditions 0 joined.clients joined.server {}).2.1

theorem round_eq (joined : Joined) (conditions : Conditions) :
    joined.round conditions
      = (let turns := clientTurns conditions 0 joined.clients joined.server {}
        serverTurn conditions turns.1 (joined.listened conditions) turns.2.2) :=
  rfl

theorem server_round (joined : Joined) (conditions : Conditions) :
    (joined.round conditions).1.server
      = ((joined.listened conditions).tick conditions.now).1.cleared := by
  rw [round_eq, serverTurn_eq]

theorem replies_round (joined : Joined) (conditions : Conditions) :
    (joined.round conditions).2.replies
      = ((joined.listened conditions).tick conditions.now).1.transport.sent := by
  rw [round_eq, serverTurn_eq]

theorem listened_hears (joined : Joined) (conditions : Conditions) :
    ∃ events, joined.server.Hears events (joined.listened conditions) :=
  clientTurns_hears ..

/-- What a round shows of requests is what the clients sent in their ticks. -/
theorem mem_requests_round_iff {request : Request} :
    request ∈ (joined.round conditions).2.requests
      ↔ request.client ∉ conditions.idle ∧ ∃ client, joined.clients[request.client]? = some client
        ∧ request.outgoing ∈ (client.tick conditions.now).1.transport.sent := by
  have hrequests : (joined.round conditions).2.requests
      = (joined.clients.mapIdx fun index => requestsOf conditions (0 + index)).flatten :=
    requests_clientTurns ..
  -- what a round shows is what each turn sent, in the order of the clients
  rw [hrequests, List.mem_flatten]
  constructor
  · rintro ⟨requests, hmem, hrequest⟩
    obtain ⟨index, hlt, rfl⟩ := List.mem_mapIdx.mp hmem
    rw [Nat.zero_add, requestsOf] at hrequest
    split_ifs at hrequest with hidle
    · cases hrequest
    · obtain ⟨outgoing, hsent, rfl⟩ := List.mem_map.mp hrequest
      exact ⟨hidle, _, List.getElem?_eq_getElem hlt, hsent⟩
  · rintro ⟨hidle, client, hclient, hsent⟩
    obtain ⟨hlt, hget⟩ := List.getElem?_eq_some_iff.mp hclient
    refine ⟨_, List.mem_mapIdx.mpr ⟨request.client, hlt, rfl⟩, ?_⟩
    rw [hget, Nat.zero_add, requestsOf, if_neg hidle]
    exact List.mem_map.mpr ⟨request.outgoing, hsent, rfl⟩

def replied (joined : Joined) (conditions : Conditions) (client : GameLoop Client) :
    GameLoop Client :=
  receiveAll (arrivalsFrom conditions.replies 0 (joined.round conditions).2.replies) client

theorem replied_hears (joined : Joined) (conditions : Conditions) (client : GameLoop Client) :
    ∃ events, client.Hears events (joined.replied conditions client) :=
  ⟨_, receiveAll_hears ..⟩

theorem driver_replied (joined : Joined) (conditions : Conditions) (client : GameLoop Client) :
    (joined.replied conditions client).driver = client.driver :=
  (receiveAll_hears ..).same.driver_eq

/-- A client after a round: its turn was taken, and it got the replies to it. -/
theorem getElem?_clients_round (joined : Joined) (conditions : Conditions) (index : Nat) :
    (joined.round conditions).1.clients[index]?
      = joined.clients[index]?.map fun client =>
        joined.replied conditions (turned conditions index client) := by
  have hclients : (joined.round conditions).1.clients
      = (joined.clients.mapIdx fun index => turned conditions (0 + index)).map
        (joined.replied conditions) := by
    unfold replied
    rw [← clients_clientTurns, round_eq, serverTurn_eq]
  rw [hclients, List.getElem?_map, List.getElem?_mapIdx, Option.map_map, Nat.zero_add]
  rfl

variable {client : GameLoop Client}

theorem getElem?_clients_round_of_idle (hclient : joined.clients[index]? = some client)
    (hidle : index ∈ conditions.idle) :
    (joined.round conditions).1.clients[index]? = some (joined.replied conditions client) := by
  rw [getElem?_clients_round, hclient, Option.map_some, turned, if_pos hidle]

theorem getElem?_clients_round_of_awake (hclient : joined.clients[index]? = some client)
    (hidle : index ∉ conditions.idle) :
    (joined.round conditions).1.clients[index]?
      = some (joined.replied conditions (client.tick conditions.now).1.cleared) := by
  rw [getElem?_clients_round, hclient, Option.map_some, turned, if_neg hidle]

end Round

section Heard

variable {faults : Faults} {sender : SocketAddress} {outgoing : Outgoing} {event : Event}

theorem mem_heardOf_of_copies {numbered : List (Outgoing × Nat)} {number : Nat}
    (hmem : (outgoing, number) ∈ numbered) (hcopies : faults.copies number ≠ 0)
    (hevent : event ∈ Event.decoded? ⟨sender, outgoing.bytes⟩) :
    event ∈ heardOf faults sender numbered := by
  have hcopy : (Event.decoded? ⟨sender, outgoing.bytes⟩).toList ∈
      List.replicate (faults.copies number) (Event.decoded? ⟨sender, outgoing.bytes⟩).toList :=
    List.mem_replicate.mpr ⟨hcopies, rfl⟩
  exact List.mem_flatMap.mpr ⟨(outgoing, number), hmem,
    List.mem_flatten.mpr ⟨_, hcopy, Option.mem_toList.mpr hevent⟩⟩

theorem mem_inbox_receiveAll {P : Event → Prop} {sent : List Outgoing}
    (hframes : ∀ outgoing ∈ sent, Frame.Carries P outgoing.bytes)
    (hspares : faults.Spares sent.length) {client : GameLoop Client} (hmem : outgoing ∈ sent)
    (hfor : outgoing.target = .v4 client.driver.config.clientAddress)
    (hevent : event ∈ Event.decoded? ⟨client.driver.config.serverAddress, outgoing.bytes⟩) :
    event ∈ (receiveAll (arrivalsFrom faults 0 sent) client).inbox := by
  obtain ⟨number, hnumber⟩ := List.mem_iff_getElem?.mp hmem
  obtain ⟨hlt, -⟩ := List.getElem?_eq_some_iff.mp hnumber
  have hnumbered : (outgoing, number) ∈ (sent.zipIdx 0).filter (isFor client ·.1.target) :=
    List.mem_filter.mpr ⟨List.mk_mem_zipIdx_iff_getElem?.mpr hnumber, beq_iff_eq.mpr hfor⟩
  rw [(receiveAll_hears_replies hframes faults client).inbox_eq]
  exact List.mem_append_right _
    (mem_heardOf_of_copies hnumbered (hspares.copies_ne_zero hlt) hevent)

variable {conditions : Conditions} {clients : List (GameLoop Client)} {client : GameLoop Client}

theorem mem_inbox_clientTurns {P : Event → Prop} {index first : Nat} {server : GameLoop Server}
    {round : Round} (hclient : clients[index]? = some client)
    (hidle : first + index ∉ conditions.idle)
    (hframes : ∀ outgoing ∈ (client.tick conditions.now).1.transport.sent,
      Frame.Carries P outgoing.bytes)
    (hspares : conditions.requests.Spares
      (clientTurns conditions first clients server round).2.2.requests.length)
    (hsent : outgoing ∈ (client.tick conditions.now).1.transport.sent)
    (hevent : event ∈ Event.decoded?
      ⟨.v4 (client.tick conditions.now).1.driver.config.clientAddress, outgoing.bytes⟩) :
    event ∈ (clientTurns conditions first clients server round).2.1.inbox := by
  induction clients generalizing first index server round with
  | nil => cases hclient
  | cons head rest ih =>
    rw [clientTurns_cons] at hspares ⊢
    cases index with
    | zero =>
      obtain rfl : head = client := Option.some.inj hclient
      rw [Nat.add_zero] at hidle
      obtain ⟨events, hlater⟩ := clientTurns_hears conditions (first + 1) rest
        (clientTurn conditions first head server round).2.1
        (clientTurn conditions first head server round).2.2
      obtain ⟨number, hnumber⟩ := List.mem_iff_getElem?.mp hsent
      obtain ⟨hlt, -⟩ := List.getElem?_eq_some_iff.mp hnumber
      have hnumbered : (outgoing, round.requests.length + number)
          ∈ (head.tick conditions.now).1.transport.sent.zipIdx round.requests.length := by
        refine List.mk_mem_zipIdx_iff_le_and_getElem?_sub.mpr ⟨Nat.le_add_right _ _, ?_⟩
        rwa [Nat.add_sub_cancel_left]
      -- the requests after it leave it its number
      have hcopies : conditions.requests.copies (round.requests.length + number) ≠ 0 := by
        refine hspares.copies_ne_zero ?_
        rw [requests_clientTurns, requests_clientTurn, requestsOf, if_neg hidle]
        simp only [List.length_append, List.length_map]
        omega
      dsimp only
      rw [hlater.inbox_eq, (clientTurn_hears_requests hidle hframes server round).inbox_eq]
      exact List.mem_append_left _
        (List.mem_append_right _ (mem_heardOf_of_copies hnumbered hcopies hevent))
    | succ index =>
      refine ih hclient ?_ hspares
      rwa [Nat.add_assoc, Nat.add_comm 1]

theorem clientTurns_hears_of {P : Event → Prop}
    (hframes : ∀ client ∈ clients, ∀ outgoing ∈ (client.tick conditions.now).1.transport.sent,
      Frame.Carries P outgoing.bytes)
    (first : Nat) (server : GameLoop Server) (round : Round) :
    ∃ events, server.Hears events (clientTurns conditions first clients server round).2.1
      ∧ ∀ event ∈ events, P event := by
  induction clients generalizing first server round with
  | nil => exact ⟨[], .refl server, fun _ hmem => absurd hmem List.not_mem_nil⟩
  | cons client rest ih =>
    obtain ⟨events, hrest, hevents⟩ :=
      ih (fun other hmem => hframes other (List.mem_cons_of_mem _ hmem)) (first + 1)
        (clientTurn conditions first client server round).2.1
        (clientTurn conditions first client server round).2.2
    by_cases hidle : first ∈ conditions.idle
    · rw [clientTurn_of_idle hidle] at hrest
      rw [clientTurns_cons, clientTurn_of_idle hidle]
      exact ⟨events, hrest, hevents⟩
    · have hsent := hframes client List.mem_cons_self
      refine ⟨_, (clientTurn_hears_requests hidle hsent server round).trans hrest, ?_⟩
      intro event hmem
      rcases List.mem_append.mp hmem with hfirst | hlater
      · exact forall_mem_heardOf (by rwa [List.zipIdx_map_fst]) event hfirst
      · exact hevents event hlater

end Heard

/-- What holds between the rounds of a session: server and clients agree, the table is that of the
logins so far, nothing waits at the server, and all loops are ready to send. -/
structure Settled (limit : Nat) (joined : Joined) : Prop where
  agreement : Agreement joined
  records : ∃ earlier, Server.Records limit earlier joined.server.game
  inbox_eq : joined.server.inbox = []
  server : joined.server.transport.Ready
  clients : ∀ client ∈ joined.clients,
    client.transport.Ready ∧ Client.InStep client.driver.config client.toStation

section Settled

variable {limit : Nat} {joined : Joined} {config : ClientConfig} {client after : GameLoop Client}
  {events : List Event}

theorem inStep_hears (h : Client.InStep config client.toStation)
    (hhears : client.Hears events after) : Client.InStep config after.toStation :=
  h.of_same hhears.same.driver_eq hhears.same.game_eq hhears.journal

theorem inStep_turned (h : Client.InStep config client.toStation) (conditions : Conditions)
    (index : Nat) : Client.InStep config (turned conditions index client).toStation := by
  unfold turned
  split_ifs
  · exact h
  · exact (Client.tick_inStep h conditions.now).1.of_same rfl rfl (.inl rfl)

theorem ready_turned (h : Client.InStep config client.toStation) (hready : client.transport.Ready)
    (conditions : Conditions) (index : Nat) :
    (turned conditions index client).transport.Ready := by
  unfold turned
  split_ifs
  · exact hready
  · exact GameLoop.ready_cleared ((Client.fails_tick h conditions.now).trans hready.works)

theorem Settled.listened_ready (h : Settled limit joined) (conditions : Conditions) :
    (joined.listened conditions).transport.Ready := by
  obtain ⟨events, hhears⟩ := joined.listened_hears conditions
  rw [hhears.same.transport_eq]
  exact h.server

theorem Settled.listened_records (h : Settled limit joined) (conditions : Conditions) :
    ∃ earlier, Server.Records limit earlier (joined.listened conditions).game := by
  obtain ⟨events, hhears⟩ := joined.listened_hears conditions
  rw [hhears.same.game_eq]
  exact h.records

theorem Settled.round (h : Settled limit joined) (conditions : Conditions) :
    Settled limit (joined.round conditions).1 := by
  obtain ⟨earlier, hrecords⟩ := h.listened_records conditions
  obtain ⟨hanswered, htransport⟩ := Server.tick_answers hrecords conditions.now
  refine ⟨h.agreement.round conditions, ?_, ?_, ?_, fun client hmem => ?_⟩
  · rw [server_round]
    exact ⟨_, hanswered⟩
  · rw [server_round]
    rfl
  · rw [server_round]
    apply GameLoop.ready_cleared
    rw [htransport, Transport.fails_sendAll, (h.listened_ready conditions).works]
  · obtain ⟨index, hclient⟩ := List.mem_iff_getElem?.mp hmem
    rw [getElem?_clients_round] at hclient
    -- a client after the round is one from before it that took its turn and then its replies
    obtain ⟨before, hbefore, rfl⟩ := Option.map_eq_some_iff.mp hclient
    obtain ⟨hready, hinStep⟩ := h.clients before (List.mem_of_getElem? hbefore)
    obtain ⟨events, hheard⟩ := joined.replied_hears conditions (turned conditions index before)
    have hafter := inStep_hears (inStep_turned hinStep conditions index) hheard
    refine ⟨?_, hafter.own_config⟩
    rw [hheard.same.transport_eq]
    exact ready_turned hinStep hready conditions index

def addresses (joined : Joined) : List IPv4Endpoint :=
  joined.clients.map fun client => client.driver.config.clientAddress

theorem Settled.asksFor (h : Settled limit joined) (conditions : Conditions) :
    ∀ client ∈ joined.clients, ∀ outgoing ∈ (client.tick conditions.now).1.transport.sent,
      Frame.Carries (Event.AsksFor joined.addresses) outgoing.bytes := by
  intro client hmem
  obtain ⟨hready, hinStep⟩ := h.clients client hmem
  exact Client.tick_asksFor hinStep hready.sent_eq (List.mem_map.mpr ⟨client, hmem, rfl⟩)
    conditions.now

theorem Settled.listened_asksFor (h : Settled limit joined) (conditions : Conditions) :
    ∀ event ∈ (joined.listened conditions).inbox, event.AsksFor joined.addresses := by
  obtain ⟨events, hhears, hevents⟩ :=
    clientTurns_hears_of (h.asksFor conditions) 0 joined.server {}
  rw [listened, hhears.inbox_eq, h.inbox_eq]
  exact hevents

theorem Settled.mem_listened (h : Settled limit joined) {conditions : Conditions} {index : Nat}
    (hclient : joined.clients[index]? = some client) (hidle : index ∉ conditions.idle)
    (hspares : conditions.requests.Spares (joined.round conditions).2.requests.length)
    {outgoing : Outgoing} (hsent : outgoing ∈ (client.tick conditions.now).1.transport.sent)
    {event : Event}
    (hevent : event ∈ Event.decoded? ⟨.v4 client.driver.config.clientAddress, outgoing.bytes⟩) :
    event ∈ (joined.listened conditions).inbox := by
  have hmem := List.mem_of_getElem? hclient
  have hconfig : (client.tick conditions.now).1.driver.config = client.driver.config :=
    (Client.tick_inStep (h.clients client hmem).2 conditions.now).1.config_eq
  rw [← hconfig] at hevent
  refine mem_inbox_clientTurns hclient ?_ (h.asksFor conditions client hmem) hspares hsent hevent
  rwa [Nat.zero_add]

/-- The replies of a round are those to the events that arrived. -/
theorem Settled.replies_eq (h : Settled limit joined) (conditions : Conditions) :
    ∃ earlier, Server.Records limit earlier (joined.listened conditions).game
      ∧ (joined.round conditions).2.replies
        = Server.replies limit earlier
          ((joined.listened conditions).inbox.map (conditions.now, ·)) := by
  obtain ⟨hworks, hsent⟩ := h.listened_ready conditions
  obtain ⟨earlier, hrecords⟩ := h.listened_records conditions
  refine ⟨earlier, hrecords, ?_⟩
  rw [replies_round, (Server.tick_answers hrecords conditions.now).2, Transport.sent_sendAll,
    hsent, List.nil_append]
  rw [hworks]
  exact fun _ _ => rfl

theorem Settled.replies_carry (h : Settled limit joined) (conditions : Conditions) :
    ∀ outgoing ∈ (joined.round conditions).2.replies,
      Frame.Carries (fun _ => True) outgoing.bytes := by
  rw [replies_round]
  exact Honest.sent_carries
    ((clientTurns_agreement conditions 0 {} h.agreement).serverTick conditions.now).honest

theorem Settled.leave (h : Settled limit joined) (index : Nat) :
    Settled limit (joined.disconnect index).1 := by
  have hagreement := h.agreement.leave index
  unfold Joined.disconnect at hagreement ⊢
  cases hclient : joined.clients[index]? with
  | none => exact h
  | some client =>
    rw [hclient] at hagreement
    refine ⟨hagreement, h.records, h.inbox_eq, h.server, fun other hmem => ?_⟩
    rcases List.mem_or_eq_of_mem_set hmem with hold | rfl
    · exact h.clients other hold
    · -- leaving sends nothing
      obtain ⟨hready, hinStep⟩ := h.clients client (List.mem_of_getElem? hclient)
      have hleft := Client.disconnect_inStep hinStep
      constructor
      · change (Client.disconnect client.toStation).transport.Ready
        rwa [Client.transport_disconnect]
      · have hafter : Client.InStep client.driver.config
            { Client.disconnect client.toStation with journal := [] } :=
          hleft.of_same rfl rfl (.inl rfl)
        exact hafter.own_config

theorem Settled.play (h : Settled limit joined) (history : List Episode) :
    Settled limit (Joined.play history joined).1 := by
  induction history generalizing joined with
  | nil => exact h
  | cons episode rest ih =>
    cases episode with
    | round conditions => exact ih (h.round conditions)
    | leave index => exact ih (h.leave index)

theorem start_settled (params : GameParams) (configs : List ClientConfig) :
    Settled params.maxPlayers.toNat (start params configs) := by
  refine ⟨start_agreement params configs, ⟨[], .ofParams params⟩, rfl, ⟨rfl, rfl⟩, ?_⟩
  intro client hmem
  obtain ⟨config, -, rfl⟩ := List.mem_map.mp hmem
  exact ⟨⟨rfl, rfl⟩, Client.start_inStep {} config fun _ => false⟩

end Settled

end Joined

end GridSession
