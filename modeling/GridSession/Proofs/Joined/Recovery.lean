import GridSession.Proofs.Joined.Turns
import GridSession.Proofs.Server.Capacity

namespace GridSession

def Episode.Passes (index : Nat) : Episode → Prop
  | .round conditions => index ∈ conditions.idle
  | .leave other => other ≠ index

namespace Joined

def Played (params : GameParams) (joined : Joined) : Prop :=
  ∃ configs history, (play history (start params configs)).1 = joined

def IsLoginTo (address : IPv4Endpoint) (reply : Outgoing) : Prop :=
  reply.target = .v4 address ∧ reply.isLogin = true

instance (address : IPv4Endpoint) (reply : Outgoing) : Decidable (IsLoginTo address reply) :=
  inferInstanceAs (Decidable (_ ∧ _))

/-- A round in which a client gets through. It is not idle, nothing is lost or damaged, and an
attempt is due. Its login can be read, and so can a login reply to its address if there is one. -/
structure Clean (index : Nat) (client : Client) (conditions : Conditions) (shown : Round) :
    Prop where
  awake : index ∉ conditions.idle
  requests_spared : conditions.requests.Spares shown.requests.length
  replies_spared : conditions.replies.Spares shown.replies.length
  due : ∀ last ∈ client.lastLoginAttempt, last + 500000000 ≤ conditions.now
  request_readable : ∀ request ∈ shown.requests, request.client = index →
    request.outgoing.isLogin = true → request.outgoing.isReadable = true
  reply_readable :
    (∃ request ∈ shown.requests, request.client = index ∧ request.outgoing.isLogin = true) →
    (∃ reply ∈ shown.replies, IsLoginTo client.config.clientAddress reply) →
    ∃ reply ∈ shown.replies, IsLoginTo client.config.clientAddress reply
      ∧ reply.isReadable = true

/-- A client that is in, or that waits to be told of its session. -/
structure Informed (config : ClientConfig) (client : GameLoop Client) : Prop where
  config_eq : client.driver.config = config
  stayed : client.driver.state ≠ .disconnected
  told : client.driver.state = .fresh → ∃ event ∈ client.inbox, event.Tells

/-- The address has a session, or there is room for one of every client. -/
def Admits (limit : Nat) (joined : Joined) (address : IPv4Endpoint) : Prop :=
  some (.v4 address) ∈ joined.server.game.roster.sessions.map Session.endpoint
    ∨ joined.server.game.roster.size + joined.clients.length ≤ limit

variable {limit : Nat} {joined : Joined} {index : Nat} {client : GameLoop Client}
  {config : ClientConfig} {conditions : Conditions}

theorem Played.settled {params : GameParams} (h : Played params joined) :
    Settled params.maxPlayers.toNat joined := by
  obtain ⟨configs, history, rfl⟩ := h
  exact (start_settled params configs).play history

section Asking

theorem Clean.heard (h : Settled limit joined)
    (hclient : joined.clients[index]? = some client)
    (hclean : Clean index client.driver conditions (joined.round conditions).2)
    (hfresh : (client.tick conditions.now).1.driver.state = .fresh) :
    (∃ request ∈ (joined.round conditions).2.requests,
      request.client = index ∧ request.outgoing.isLogin = true)
    ∧ ∃ received : Received Login,
      received.envelope.payload.returnTo = client.driver.config.clientAddress
        ∧ .login received ∈ (joined.listened conditions).inbox := by
  obtain ⟨hready, hinStep⟩ := h.clients client (List.mem_of_getElem? hclient)
  -- a new client whose retry is due asks, and nothing else is on its way
  obtain ⟨id, hsent⟩ := Client.tick_asks hinStep hfresh hclean.due hready.works
  rw [hready.sent_eq, List.nil_append] at hsent
  let login : Envelope Login := .ofPayload { returnTo := client.driver.config.clientAddress } id
  let asked : Request := ⟨index, ⟨client.driver.config.serverAddress, Frame.wrap login.body⟩⟩
  have hmem : asked.outgoing ∈ (client.tick conditions.now).1.transport.sent := by
    rw [hsent]
    exact List.mem_singleton_self _
  have hshown : asked ∈ (joined.round conditions).2.requests :=
    mem_requests_round_iff.mpr ⟨hclean.awake, client, hclient, hmem⟩
  have hlogin : asked.outgoing.isLogin = true := Outgoing.isLogin_wrap_body ..
  have hreadable := hclean.request_readable asked hshown rfl hlogin
  exact ⟨⟨asked, hshown, rfl, hlogin⟩, ⟨_, login.stamped⟩, rfl,
    h.mem_listened hclient hclean.awake hclean.requests_spared hmem
      (Event.decoded?_of_isReadable hreadable _)⟩

theorem Settled.exists_reply (h : Settled limit joined) {received : Received Login}
    (hheard : .login received ∈ (joined.listened conditions).inbox)
    (hroom : Admits limit joined received.envelope.payload.returnTo) :
    ∃ reply ∈ (joined.round conditions).2.replies,
      IsLoginTo received.envelope.payload.returnTo reply := by
  obtain ⟨earlier, hrecords, hreplies⟩ := h.replies_eq conditions
  obtain ⟨events, hhears⟩ := joined.listened_hears conditions
  rw [hreplies]
  refine Server.exists_reply_of_room hrecords (h.listened_asksFor conditions) hheard ?_ _
  rwa [hhears.same.game_eq, addresses, List.length_map]

theorem Settled.tells (h : Settled limit joined) (hlimit : limit < 4294967295)
    (hspares : conditions.replies.Spares (joined.round conditions).2.replies.length)
    {reply : Outgoing} (hreply : reply ∈ (joined.round conditions).2.replies)
    (hlogin : IsLoginTo client.driver.config.clientAddress reply)
    (hreadable : reply.isReadable = true) :
    ∃ event ∈ (joined.replied conditions client).inbox, event.Tells := by
  obtain ⟨earlier, -, hreplies⟩ := h.replies_eq conditions
  obtain ⟨event, hevent, htells⟩ := Server.tells_of_mem_replies hlimit (hreplies ▸ hreply)
    hlogin.2 hreadable client.driver.config.serverAddress
  exact ⟨event, mem_inbox_receiveAll (h.replies_carry conditions) hspares hreply hlogin.1 hevent,
    htells⟩

/-- A client that asks in a clean round is told of its session at the end of it. -/
theorem Clean.told_of_asked (h : Settled limit joined) (hlimit : limit < 4294967295)
    (hclient : joined.clients[index]? = some client)
    (hclean : Clean index client.driver conditions (joined.round conditions).2)
    (hroom : Admits limit joined client.driver.config.clientAddress)
    (hfresh : (client.tick conditions.now).1.driver.state = .fresh) :
    ∃ event ∈ (joined.replied conditions (client.tick conditions.now).1.cleared).inbox,
      event.Tells := by
  obtain ⟨hasked, received, haddress, hheard⟩ := hclean.heard h hclient hfresh
  rw [← haddress] at hroom
  have hreply := h.exists_reply hheard hroom
  rw [haddress] at hreply
  obtain ⟨reply, hmem, hlogin, hreadable⟩ := hclean.reply_readable hasked hreply
  have hconfig : (client.tick conditions.now).1.cleared.driver.config = client.driver.config :=
    (Client.tick_inStep (h.clients client (List.mem_of_getElem? hclient)).2
      conditions.now).1.config_eq
  rw [← hconfig] at hlogin
  exact h.tells hlimit hclean.replies_spared hmem hlogin hreadable

/-- A clean round informs a new client whose address is admitted. -/
theorem Clean.informed (h : Settled limit joined) (hlimit : limit < 4294967295)
    (hclient : joined.clients[index]? = some client) (hfresh : client.driver.state = .fresh)
    (hclean : Clean index client.driver conditions (joined.round conditions).2)
    (hroom : Admits limit joined client.driver.config.clientAddress) :
    ∃ after, (joined.round conditions).1.clients[index]? = some after
      ∧ Informed client.driver.config after := by
  obtain ⟨-, hinStep⟩ := h.clients client (List.mem_of_getElem? hclient)
  obtain ⟨hticked, hadvances⟩ := Client.tick_inStep hinStep conditions.now
  have hdriver : (joined.replied conditions (client.tick conditions.now).1.cleared).driver
      = (client.tick conditions.now).1.driver := driver_replied ..
  refine ⟨_, getElem?_clients_round_of_awake hclient hclean.awake, ?_, ?_, ?_⟩
  · rw [hdriver]
    exact hticked.config_eq
  · rw [hdriver]
    -- a tick leaves the client new or takes it in, but never makes it leave
    cases hadvances with
    | stays hstate _ =>
      rw [hstate, hfresh]
      nofun
    | enters _ _ hafter =>
      rw [hafter.1]
      nofun
  · rw [hdriver]
    exact hclean.told_of_asked h hlimit hclient hroom

end Asking

section Waiting

theorem Informed.hears {after : GameLoop Client} {events : List Event}
    (h : Informed config client) (hhears : client.Hears events after) :
    Informed config after := by
  obtain ⟨hconfig, hstayed, htold⟩ := h
  refine ⟨?_, ?_, fun hfresh => ?_⟩
  · rwa [hhears.same.driver_eq]
  · rwa [hhears.same.driver_eq]
  · rw [hhears.same.driver_eq] at hfresh
    obtain ⟨event, hmem, htells⟩ := htold hfresh
    rw [hhears.inbox_eq]
    exact ⟨event, List.mem_append_left _ hmem, htells⟩

theorem Informed.round (h : Informed config client) (hclient : joined.clients[index]? = some client)
    (hidle : index ∈ conditions.idle) :
    ∃ after, (joined.round conditions).1.clients[index]? = some after ∧ Informed config after := by
  obtain ⟨events, hhears⟩ := joined.replied_hears conditions client
  exact ⟨_, getElem?_clients_round_of_idle hclient hidle, h.hears hhears⟩

theorem Informed.leave (h : Informed config client) (hclient : joined.clients[index]? = some client)
    {leaver : Nat} (hother : leaver ≠ index) :
    ∃ after, (joined.disconnect leaver).1.clients[index]? = some after
      ∧ Informed config after := by
  refine ⟨client, ?_, h⟩
  unfold Joined.disconnect
  cases joined.clients[leaver]? with
  | none => exact hclient
  | some left => exact (List.getElem?_set_ne hother).trans hclient

theorem Informed.waits {waiting : List Episode}
    (hwaiting : ∀ episode ∈ waiting, episode.Passes index)
    (h : ∃ client, joined.clients[index]? = some client ∧ Informed config client) :
    ∃ client, (play waiting joined).1.clients[index]? = some client ∧ Informed config client := by
  induction waiting generalizing joined with
  | nil => exact h
  | cons episode rest ih =>
    obtain ⟨client, hclient, hinformed⟩ := h
    have hpasses := hwaiting episode List.mem_cons_self
    have hrest : ∀ other ∈ rest, other.Passes index :=
      fun other hmem => hwaiting other (List.mem_cons_of_mem _ hmem)
    cases episode with
    | round conditions => exact ih hrest (hinformed.round hclient hpasses)
    | leave leaver => exact ih hrest (hinformed.leave hclient hpasses)

theorem Informed.tick (hinformed : Informed config client) (h : Settled limit joined)
    (hclient : client ∈ joined.clients) (now : Nat) :
    (client.tick now).1.driver.state = .loggedIn := by
  obtain ⟨-, hinStep⟩ := h.clients client hclient
  have hagree := h.agreement.clients client hclient
  cases (Client.tick_inStep hinStep now).2 with
  | enters _ _ hafter => exact hafter.1
  | stays hstate _ =>
    cases hbefore : client.driver.state with
    | loggedIn => exact hstate.trans hbefore
    | disconnected => exact absurd hbefore hinformed.stayed
    | fresh =>
      have hticked := Client.tick_of_tells
        (fun _ _ hid hother => hid.id_eq h.agreement.honest.table hother) hinStep hagree.agrees
        hagree.granted (hinformed.told hbefore) now
      exact absurd (hstate.trans hbefore) hticked

theorem Informed.enters (hinformed : Informed config client) (h : Settled limit joined)
    (hclient : joined.clients[index]? = some client) (hidle : index ∉ conditions.idle) :
    ∃ entered, (joined.round conditions).1.clients[index]? = some entered
      ∧ entered.driver.state = .loggedIn ∧ entered.driver.config = config := by
  have hmem := List.mem_of_getElem? hclient
  obtain ⟨hticked, -⟩ := Client.tick_inStep (h.clients client hmem).2 conditions.now
  -- what it gets at the end of the round does not change who it is
  have hdriver : (joined.replied conditions (client.tick conditions.now).1.cleared).driver
      = (client.tick conditions.now).1.driver := driver_replied ..
  refine ⟨_, getElem?_clients_round_of_awake hclient hidle, ?_, ?_⟩
  · rw [hdriver]
    exact hinformed.tick h hmem conditions.now
  · rw [hdriver]
    exact hticked.config_eq.trans hinformed.config_eq

/-- A client that is logged in has the id of the player that the server has for its address. -/
theorem Settled.exists_withEndpoint? (h : Settled limit joined) (hclient : client ∈ joined.clients)
    (hstate : client.driver.state = .loggedIn) :
    ∃ player, joined.server.game.roster.withEndpoint? (.v4 client.driver.config.clientAddress)
        = some player
      ∧ client.driver.playerId = some player.id := by
  have hagrees := (h.agreement.clients client hclient).agrees
  obtain ⟨id, hid⟩ := hagrees.loggedIn hstate
  obtain ⟨player, hfound, rfl⟩ :=
    (hagrees.playerId id hid).2.exists_withEndpoint? h.agreement.honest.table
  exact ⟨player, hfound, hid⟩

end Waiting

section Silence

/-- A client that a tick does not leave new has sent no login in it. -/
theorem Settled.never_asks (h : Settled limit joined)
    (hclient : ∀ client, joined.clients[index]? = some client → index ∉ conditions.idle →
      (client.tick conditions.now).1.driver.state ≠ .fresh) :
    ∀ request ∈ (joined.round conditions).2.requests, request.client = index →
      request.outgoing.isLogin = false := by
  rintro request hmem rfl
  obtain ⟨hidle, client, hget, hsent⟩ := mem_requests_round_iff.mp hmem
  obtain ⟨hready, hinStep⟩ := h.clients client (List.mem_of_getElem? hget)
  exact Client.tick_never_asks hinStep hready.sent_eq (hclient client hget hidle) _ hsent

def Entered (index : Nat) (joined : Joined) : Prop :=
  ∀ client, joined.clients[index]? = some client → client.driver.state ≠ .fresh

theorem Entered.round (h : Settled limit joined) (hentered : Entered index joined)
    (conditions : Conditions) : Entered index (joined.round conditions).1 := by
  intro after hafter
  rw [getElem?_clients_round] at hafter
  obtain ⟨client, hclient, rfl⟩ := Option.map_eq_some_iff.mp hafter
  obtain ⟨-, hinStep⟩ := h.clients client (List.mem_of_getElem? hclient)
  rw [driver_replied]
  unfold turned
  split_ifs
  · exact hentered client hclient
  · exact Client.tick_ne_fresh hinStep (hentered client hclient) conditions.now

theorem Entered.leave (hentered : Entered index joined) (leaver : Nat) :
    Entered index (joined.disconnect leaver).1 := by
  intro after hafter
  unfold Joined.disconnect at hafter
  cases hleaver : joined.clients[leaver]? with
  | none =>
    rw [hleaver] at hafter
    exact hentered after hafter
  | some client =>
    rw [hleaver] at hafter
    by_cases hsame : leaver = index
    · subst hsame
      obtain ⟨hlt, -⟩ := List.getElem?_eq_some_iff.mp hleaver
      obtain rfl := Option.some.inj ((List.getElem?_set_self hlt).symm.trans hafter)
      -- whoever leaves is not new any more
      change (Client.disconnect client.toStation).driver.state ≠ .fresh
      rw [Client.driver_disconnect]
      nofun
    · exact hentered after ((List.getElem?_set_ne hsame).symm.trans hafter)

theorem Entered.never_asks (h : Settled limit joined) (hentered : Entered index joined)
    (later : List Episode) :
    ∀ round ∈ (play later joined).2, ∀ request ∈ round.requests, request.client = index →
      request.outgoing.isLogin = false := by
  induction later generalizing joined with
  | nil => exact fun _ hmem => absurd hmem List.not_mem_nil
  | cons episode rest ih =>
    cases episode with
    | leave leaver => exact ih (h.leave leaver) (hentered.leave leaver)
    | round conditions =>
      intro round hmem
      rcases List.mem_cons.mp hmem with rfl | hrest
      · refine h.never_asks fun client hclient _ => ?_
        obtain ⟨-, hinStep⟩ := h.clients client (List.mem_of_getElem? hclient)
        exact Client.tick_ne_fresh hinStep (hentered client hclient) conditions.now
      · exact ih (h.round conditions) (hentered.round h conditions) round hrest

end Silence

/-- In every state of a session whose server has fewer places than there are ids, a client that is
new and has a session at the server, or for which there is room even if all clients are new, needs
one clean round. Whatever happens while it waits afterwards, its next tick finds it logged in as the
player that the server has for its address, and in that tick and later it sends no login. -/
theorem recovers_in_clean_round {params : GameParams} (hplayed : Played params joined)
    (hlimit : params.maxPlayers.toNat < 4294967295)
    (hclient : joined.clients[index]? = some client) (hfresh : client.driver.state = .fresh)
    (hroom : (∃ player, joined.server.game.roster.withEndpoint?
        (.v4 client.driver.config.clientAddress) = some player)
      ∨ joined.server.game.roster.size + joined.clients.length ≤ params.maxPlayers.toNat)
    (hclean : Clean index client.driver conditions (joined.round conditions).2)
    {waiting : List Episode} (hwaiting : ∀ episode ∈ waiting, episode.Passes index)
    {next : Conditions} (hnext : index ∉ next.idle) (later : List Episode) :
    let informed := (play waiting (joined.round conditions).1).1
    let entry := informed.round next
    (∃ entered player, entry.1.clients[index]? = some entered
      ∧ entered.driver.state = .loggedIn
      ∧ entry.1.server.game.roster.withEndpoint? (.v4 client.driver.config.clientAddress)
        = some player
      ∧ entered.driver.playerId = some player.id)
    ∧ ∀ round ∈ entry.2 :: (play later entry.1).2, ∀ request ∈ round.requests,
      request.client = index → request.outgoing.isLogin = false := by
  intro informed entry
  have hsettled := hplayed.settled
  have hadmits : Admits params.maxPlayers.toNat joined client.driver.config.clientAddress := by
    refine hroom.imp_left fun ⟨player, hfound⟩ => ?_
    by_contra habsent
    rw [Roster.withEndpoint?_eq_none_iff.mpr habsent] at hfound
    cases hfound
  have hinformed : Settled params.maxPlayers.toNat informed :=
    (hsettled.round conditions).play waiting
  -- the grant waits with the client until a round in which it is not idle
  obtain ⟨waiter, hwaiter, hready⟩ := Informed.waits hwaiting
    (hclean.informed hsettled hlimit hclient hfresh hadmits)
  obtain ⟨entered, hentered, hstate, hconfig⟩ := hready.enters hinformed hwaiter hnext
  have hafter := hinformed.round next
  refine ⟨?_, fun round hround => ?_⟩
  · obtain ⟨player, hfound, hid⟩ :=
      hafter.exists_withEndpoint? (List.mem_of_getElem? hentered) hstate
    rw [hconfig] at hfound
    exact ⟨entered, player, hentered, hstate, hfound, hid⟩
  · rcases List.mem_cons.mp hround with rfl | hlater
    · -- in the round in which it enters, the grant is handled before it could ask
      refine hinformed.never_asks fun other hother _ => ?_
      obtain rfl := Option.some.inj (hwaiter.symm.trans hother)
      rw [hready.tick hinformed (List.mem_of_getElem? hwaiter)]
      nofun
    · refine Entered.never_asks hafter (fun other hother => ?_) later round hlater
      obtain rfl := Option.some.inj (hentered.symm.trans hother)
      rw [hstate]
      nofun

/-- A session in which the reply to the first login was lost. -/
def unanswered : Joined :=
  (play [.round { now := 0, replies := { lost := [0] } }]
    (start {} [⟨⟨.localhost, 40000⟩, .v4 ⟨.localhost, 8088⟩⟩])).1

theorem unanswered_recovers :
    let clean : Conditions := { now := 500000000, requests := { repeated := [0] } }
    let waiting : List Episode := [.round { now := 500000001, idle := [0] }]
    let next : Conditions := { now := 500000002 }
    Played {} unanswered
    ∧ ∃ client, unanswered.clients[0]? = some client ∧ client.driver.state = .fresh
      ∧ Clean 0 client.driver clean (unanswered.round clean).2
      ∧ let entry := (play waiting (unanswered.round clean).1).1.round next
        ∃ entered player, entry.1.clients[0]? = some entered
        ∧ entered.driver.state = .loggedIn
        ∧ entry.1.server.game.roster.withEndpoint? (.v4 client.driver.config.clientAddress)
          = some player
        ∧ entered.driver.playerId = some player.id := by
  intro clean waiting next
  have hplayed : Played {} unanswered := ⟨_, _, rfl⟩
  have hdriver : unanswered.clients[0]?.map (fun client => client.driver)
      = some ⟨⟨⟨.localhost, 40000⟩, .v4 ⟨.localhost, 8088⟩⟩, .fresh, none, some 0, 1, none⟩ := by
    decide +kernel
  obtain ⟨client, hclient, hclient'⟩ := Option.map_eq_some_iff.mp hdriver
  have hclean : Clean 0 client.driver clean (unanswered.round clean).2 := by
    rw [hclient']
    refine ⟨List.not_mem_nil, fun _ _ => ⟨List.not_mem_nil, List.not_mem_nil⟩,
      fun _ _ => ⟨List.not_mem_nil, List.not_mem_nil⟩, ?_, ?_, fun _ _ => ?_⟩
    · rintro last ⟨⟩
      decide
    · decide +kernel
    · decide +kernel
  refine ⟨hplayed, client, hclient, ?_, hclean, ?_⟩
  · rw [hclient']
  · have hwaiting : ∀ episode ∈ waiting, episode.Passes 0 :=
      List.forall_mem_singleton.mpr List.mem_cons_self
    have hnext : 0 ∉ next.idle := List.not_mem_nil
    exact (recovers_in_clean_round hplayed (by decide) hclient (by rw [hclient'])
      (.inr (by decide +kernel)) hclean hwaiting hnext []).1

end Joined

end GridSession
