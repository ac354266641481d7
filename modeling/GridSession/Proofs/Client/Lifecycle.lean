import GridSession.Proofs.Client.Conduct
import GridSession.Proofs.Client.Requests
import GridSession.Proofs.Client.Run

namespace GridSession

def ClientState.rank : ClientState → Nat
  | .fresh => 0
  | .loggedIn => 1
  | .disconnected => 2

theorem ClientState.rank_le_disconnected (state : ClientState) :
    state.rank ≤ ClientState.disconnected.rank := by
  cases state <;> decide

/-- Nobody becomes new again. -/
theorem ClientState.ne_fresh_of_rank_le {before after : ClientState}
    (h : before.rank ≤ after.rank) (hnot : before ≠ .fresh) : after ≠ .fresh := by
  rintro rfl
  cases before with
  | fresh => exact hnot rfl
  | loggedIn => exact absurd h (by decide)
  | disconnected => exact absurd h (by decide)

theorem Roster.exists_get?_iff {roster : Roster} {id : UInt32} {endpoint : Option SocketAddress} :
    (∃ player, roster.get? id = some player ∧ player.endpoint = endpoint)
      ↔ ∃ session ∈ roster.sessions, session.id = id ∧ session.endpoint = endpoint := by
  constructor
  · rintro ⟨player, hfound, hendpoint⟩
    exact ⟨player.session, mem_sessions_of_get? hfound, (get?_eq_some_iff.mp hfound).2, hendpoint⟩
  · rintro ⟨session, hmem, rfl, hendpoint⟩
    obtain ⟨player, hfound, hsession⟩ := exists_get?_of_mem_sessions hmem
    exact ⟨player, hfound, (congrArg Session.endpoint hsession).trans hendpoint⟩

namespace Client

/-- A client has a player from when it logs in, and the table has that player with the client's
address. So it was never missed. -/
structure InStep (config : ClientConfig) (station : Station Client) : Prop where
  config_eq : station.driver.config = config
  fresh : station.driver.state = .fresh → station.driver.playerId = none
  loggedIn : station.driver.state = .loggedIn → ∃ id, station.driver.playerId = some id
  own : ∀ id, station.driver.playerId = some id → id ≠ noPlayer
    ∧ ∃ player, station.game.roster.get? id = some player
      ∧ player.endpoint = some (.v4 config.clientAddress)
  not_missed : ∀ id, .ownPlayerMissing id ∉ station.journal

/-- What handling events can make of a client: it stays what it is, or a new one enters under an id
that is that of a player. -/
inductive Advances (before after : Client) : Prop where
  | stays (hstate : after.state = before.state) (hplayerId : after.playerId = before.playerId)
  | enters {id : UInt32} (hid : id ≠ noPlayer)
    (hbefore : before.state = .fresh ∧ before.playerId = none)
    (hafter : after.state = .loggedIn ∧ after.playerId = some id)

/-- What becomes of a client in the long run: it never goes back, and what player it has is settled
when it is not new any more. -/
structure Follows (before after : Client) : Prop where
  rank_le : before.state.rank ≤ after.state.rank
  playerId_eq : before.state ≠ .fresh → after.playerId = before.playerId

/-- What a client may send in a tick that leaves it as `client`: nothing, or one login if it is new,
or one ping for its player if it is logged in. -/
inductive Emits (client : Client) : List Outgoing → Prop where
  | nothing : Emits client []
  | login (hstate : client.state = .fresh) (id : UInt32) :
    Emits client [⟨client.config.serverAddress, Frame.wrap
      (Envelope.ofPayload { returnTo := client.config.clientAddress : Login } id).body⟩]
  | ping (hstate : client.state = .loggedIn) {playerId : UInt32}
    (hplayerId : client.playerId = some playerId) (lastAckId : UInt64) (id : UInt32) :
    Emits client [⟨client.config.serverAddress, Frame.wrap
      (Envelope.ofPayload { playerId, lastAckId : Ping } id).body⟩]

namespace Follows

variable {before middle after : Client}

theorem refl (client : Client) : Follows client client :=
  ⟨Nat.le_refl _, fun _ => rfl⟩

theorem trans (h : Follows before middle) (hmore : Follows middle after) :
    Follows before after := by
  refine ⟨Nat.le_trans h.rank_le hmore.rank_le, fun hnot => ?_⟩
  rw [hmore.playerId_eq (ClientState.ne_fresh_of_rank_le h.rank_le hnot), h.playerId_eq hnot]

end Follows

namespace Advances

variable {before middle after : Client}

theorem trans (h : Advances before middle) (hmore : Advances middle after) :
    Advances before after := by
  cases h with
  | stays hstate hplayerId =>
    cases hmore with
    | stays hstate' hplayerId' => exact .stays (hstate'.trans hstate) (hplayerId'.trans hplayerId)
    | enters hid hmiddle hafter =>
      exact .enters hid ⟨hstate ▸ hmiddle.1, hplayerId ▸ hmiddle.2⟩ hafter
  | enters hid hbefore hmiddle =>
    cases hmore with
    | stays hstate' hplayerId' =>
      exact .enters hid hbefore ⟨hstate'.trans hmiddle.1, hplayerId'.trans hmiddle.2⟩
    | enters hid' hfresh hafter =>
      -- who has entered is not new any more
      rw [hmiddle.1] at hfresh
      cases hfresh.1

theorem follows (h : Advances before after) : Follows before after := by
  cases h with
  | stays hstate hplayerId =>
    exact ⟨Nat.le_of_eq (congrArg ClientState.rank hstate.symm), fun _ => hplayerId⟩
  | enters hid hbefore hafter =>
    refine ⟨?_, fun hnot => absurd hbefore.1 hnot⟩
    rw [hbefore.1]
    exact Nat.zero_le _

end Advances

variable {config : ClientConfig} {station : Station Client}

section InStep

theorem InStep.tell (h : InStep config station) {note : Note}
    (hnote : ∀ id, note ≠ .ownPlayerMissing id) : InStep config (station.tell note) where
  config_eq := h.config_eq
  fresh := h.fresh
  loggedIn := h.loggedIn
  own := h.own
  not_missed id hmem := by
    rcases List.mem_append.mp hmem with hold | hnew
    · exact h.not_missed id hold
    · exact hnote id (List.mem_singleton.mp hnew).symm

theorem InStep.register (h : InStep config station) {roster : Roster} {player : Player}
    (hplayers : roster.players = station.game.roster.players ++ [player]) :
    InStep config { station with game := { station.game with roster } } where
  config_eq := h.config_eq
  fresh := h.fresh
  loggedIn := h.loggedIn
  own id hplayerId := by
    obtain ⟨hid, own, hfound, hendpoint⟩ := h.own id hplayerId
    obtain ⟨hmem, rfl⟩ := Roster.get?_eq_some_iff.mp hfound
    refine ⟨hid, own, Roster.get?_eq_some_iff.mpr ⟨?_, rfl⟩, hendpoint⟩
    change own ∈ roster.players
    rw [hplayers]
    exact List.mem_append_left _ hmem
  not_missed := h.not_missed

theorem enter_inStep (h : InStep config station) (hfresh : station.driver.state = .fresh)
    (now : Nat) {session : UInt32} (hsession : session ≠ noPlayer) :
    InStep config (enter now session station)
      ∧ Advances station.driver (enter now session station).driver := by
  rcases enter_cases now session station with ⟨-, henter⟩ | ⟨-, roster, hplayers, henter⟩
  · rw [henter]
    exact ⟨h.tell nofun, .stays rfl rfl⟩
  · let own := Player.joining session (some (.v4 station.driver.config.clientAddress)) now
    have hentered : InStep config
        { station with
          game := { station.game with roster }
          driver := { station.driver with state := .loggedIn, playerId := some session } } := by
      refine ⟨h.config_eq, nofun, fun _ => ⟨session, rfl⟩, ?_, h.not_missed⟩
      rintro id ⟨⟩
      -- the player it enters with is the one at the end of the table
      have hmem : own ∈ roster.players := by
        rw [hplayers]
        exact List.mem_append_right _ (List.mem_singleton.mpr rfl)
      refine ⟨hsession, own, Roster.get?_eq_some_iff.mpr ⟨hmem, rfl⟩, ?_⟩
      rw [← h.config_eq]
      rfl
    rw [henter]
    exact ⟨hentered.tell nofun, .enters hsession ⟨hfresh, h.fresh hfresh⟩ ⟨rfl, rfl⟩⟩

theorem registerRemote_inStep (h : InStep config station) (now : Nat) (session : UInt32) :
    InStep config (registerRemote now session station)
      ∧ (registerRemote now session station).driver = station.driver := by
  rcases registerRemote_cases now session station with
    ⟨-, hremote⟩ | ⟨-, -, hremote⟩ | ⟨-, -, roster, hplayers, hremote⟩
  · rw [hremote]
    exact ⟨h.tell nofun, rfl⟩
  · rw [hremote]
    exact ⟨h.tell nofun, rfl⟩
  · rw [hremote]
    exact ⟨(h.register hplayers).tell nofun, rfl⟩

theorem onLogin_inStep (h : InStep config station) (moment : Moment) (received : Received Login) :
    InStep config (onLogin moment received station)
      ∧ Advances station.driver (onLogin moment received station).driver := by
  rcases onLogin_cases moment received station with
    ⟨-, hlogin⟩ | ⟨hsession, hfresh, hlogin⟩ | ⟨-, -, hlogin⟩ | ⟨-, -, hlogin⟩
  · rw [hlogin]
    exact ⟨h.tell nofun, .stays rfl rfl⟩
  · rw [hlogin]
    exact enter_inStep h hfresh moment.now hsession
  · obtain ⟨hinStep, hdriver⟩ :=
      registerRemote_inStep h moment.now received.envelope.payload.session
    rw [hlogin, hdriver]
    exact ⟨hinStep, .stays rfl rfl⟩
  · rw [hlogin]
    exact ⟨h.tell nofun, .stays rfl rfl⟩

theorem handle_inStep (h : InStep config station) (moment : Moment) (event : Event) :
    InStep config (station.handle moment event)
      ∧ Advances station.driver (station.handle moment event).driver := by
  have htold : InStep config (station.tell (.handling event.action event.sender)) := h.tell nofun
  cases event with
  | login received => exact onLogin_inStep htold moment received
  | ping received => exact ⟨htold.tell nofun, .stays rfl rfl⟩
  | acknowledge received => exact ⟨htold.tell nofun, .stays rfl rfl⟩

/-- However many events are handled, the client enters once at most. -/
theorem handleAll_inStep (h : InStep config station) (now : Nat) (events : List Event) :
    InStep config (Station.handleAll now events station)
      ∧ Advances station.driver (Station.handleAll now events station).driver := by
  refine Station.handleAll_induction
    (P := fun after => InStep config after ∧ Advances station.driver after.driver)
    (fun event _ moment after hafter => ?_) now ⟨h, .stays rfl rfl⟩
  obtain ⟨hinStep, hadvances⟩ := handle_inStep hafter.1 moment event
  exact ⟨hinStep, hafter.2.trans hadvances⟩

theorem disconnect_inStep (h : InStep config station) : InStep config (disconnect station) := by
  unfold disconnect
  split_ifs
  · exact h
  · have hleft : InStep config
        { station with driver := { station.driver with state := .disconnected } } :=
      ⟨h.config_eq, nofun, nofun, h.own, h.not_missed⟩
    exact hleft.tell nofun

theorem driver_disconnect (station : Station Client) :
    (disconnect station).driver = { station.driver with state := .disconnected } := by
  unfold disconnect
  split_ifs with hstate
  · rw [← hstate]
  · rfl

end InStep

section OnTick

/-- The client's own work depends on its state alone, and on whether it is due. -/
theorem onTick_cases (h : InStep config station) (moment : Moment) :
    (onTick moment station).1 = station
    ∨ (station.driver.state = .fresh
      ∧ (onTick moment station).1 = attemptLogin moment.now station)
    ∨ (station.driver.state = .loggedIn ∧ ∃ player ∈ station.game.roster.players,
      station.driver.playerId = some player.id
        ∧ (onTick moment station).1 = attemptPing moment.now player station) := by
  unfold onTick
  cases hstate : station.driver.state with
  | fresh =>
    dsimp only
    rw [tryLogin_eq]
    split_ifs
    · exact .inr (.inl ⟨rfl, rfl⟩)
    · exact .inl rfl
  | loggedIn =>
    -- a client that is logged in has its own player, so it never finds it missing
    obtain ⟨id, hplayerId⟩ := h.loggedIn hstate
    obtain ⟨-, player, hfound, -⟩ := h.own id hplayerId
    obtain ⟨hmem, rfl⟩ := Roster.get?_eq_some_iff.mp hfound
    dsimp only
    rw [tryPing_eq moment.now hmem hplayerId]
    split_ifs
    · exact .inr (.inr ⟨rfl, player, hmem, hplayerId, rfl⟩)
    · exact .inl rfl
  | disconnected => exact .inl rfl

theorem goesOn_onTick_iff (moment : Moment) (station : Station Client) :
    (onTick moment station).2 = true ↔ station.driver.state ≠ .disconnected := by
  unfold onTick
  cases station.driver.state with
  | fresh => exact iff_of_true rfl nofun
  | loggedIn => exact iff_of_true rfl nofun
  | disconnected => exact iff_of_false nofun fun hne => hne rfl

theorem InStep.of_works {after : Station Client} {note : Note} (h : InStep config station)
    (hworks : Works station after)
    (hsessions : after.game.roster.sessions = station.game.roster.sessions)
    (hjournal : after.journal = station.journal ++ [note])
    (hnote : ∀ id, note ≠ .ownPlayerMissing id) : InStep config after where
  config_eq := hworks.config_eq.trans h.config_eq
  fresh := by
    rw [hworks.state_eq, hworks.playerId_eq]
    exact h.fresh
  loggedIn := by
    rw [hworks.state_eq, hworks.playerId_eq]
    exact h.loggedIn
  own := by
    rw [hworks.playerId_eq]
    simp only [Roster.exists_get?_iff, hsessions]
    simpa only [Roster.exists_get?_iff] using h.own
  not_missed := by
    rw [hjournal]
    exact (h.tell hnote).not_missed

theorem onTick_inStep (h : InStep config station) (moment : Moment) :
    InStep config (onTick moment station).1 := by
  have hworks := onTick_works moment station
  rcases onTick_cases h moment with hwork | ⟨-, hwork⟩ | ⟨-, player, hmem, -, hwork⟩
  · rw [hwork]
    exact h
  · obtain ⟨note, hjournal, hnote⟩ := journal_attemptLogin moment.now station
    rw [hwork] at hworks ⊢
    exact h.of_works hworks rfl hjournal hnote
  · obtain ⟨note, hjournal, hnote⟩ := journal_attemptPing moment.now player station
    rw [hwork] at hworks ⊢
    exact h.of_works hworks (sessions_attemptPing hmem) hjournal hnote

theorem onTick_emits (h : InStep config station) (moment : Moment) :
    ∃ emitted, (onTick moment station).1.transport.sent = station.transport.sent ++ emitted
      ∧ Emits (onTick moment station).1.driver emitted := by
  rcases onTick_cases h moment with hwork | ⟨hstate, hwork⟩ | ⟨hstate, player, -, hid, hwork⟩
  · exact ⟨[], by rw [hwork, List.append_nil], .nothing⟩
  · rw [hwork]
    rcases station.transport.sent_send_cases station.driver.loginRequest with hsent | hsent
    · exact ⟨[], hsent.trans (List.append_nil _).symm, .nothing⟩
    · refine ⟨_, hsent, .login ?_ _⟩
      exact hstate
  · rw [hwork, transport_attemptPing]
    rcases station.transport.sent_send_cases (station.driver.pingRequest player) with hsent | hsent
    · exact ⟨[], hsent.trans (List.append_nil _).symm, .nothing⟩
    · refine ⟨_, hsent, .ping ?_ ?_ _ _⟩
      · exact hstate
      · exact hid

theorem Emits.not_login {client : Client} {emitted : List Outgoing} (h : Emits client emitted)
    (hstate : client.state = .loggedIn) :
    ∀ outgoing ∈ emitted, ∀ login : Envelope Login, outgoing.bytes ≠ Frame.wrap login.body := by
  intro outgoing hmem login hbytes
  cases h with
  | nothing => cases hmem
  | login hfresh id =>
    rw [hstate] at hfresh
    cases hfresh
  | ping _ hplayerId lastAckId id =>
    rw [List.mem_singleton.mp hmem] at hbytes
    exact absurd (Envelope.code_eq_of_wrap_body hbytes) (by decide)

end OnTick

section Run

variable {loop : GameLoop Client}

theorem start_inStep (params : GameParams) (config : ClientConfig) (fails : Nat → Bool) :
    InStep config (GameLoop.start params ({ config } : Client) { fails }).toStation where
  config_eq := rfl
  fresh _ := rfl
  loggedIn h := nomatch h
  own _ h := nomatch h
  not_missed _ h := absurd h List.not_mem_nil

theorem InStep.counted (h : InStep config loop.toStation) : InStep config loop.counted :=
  ⟨h.config_eq, h.fresh, h.loggedIn, h.own, h.not_missed⟩

theorem onDatagram_inStep (h : InStep config loop.toStation) (datagram : Datagram) :
    InStep config (loop.onDatagram datagram).toStation := by
  rw [GameLoop.onDatagram_eq]
  refine ⟨h.config_eq, h.fresh, h.loggedIn, h.own, fun id hmem => ?_⟩
  rcases List.mem_append.mp hmem with hold | hnew
  · exact h.not_missed id hold
  · rcases GameLoop.mem_arrivalNotes hnew with
      ⟨error, hnote⟩ | ⟨message, hnote⟩ | hnote | ⟨action, error, hnote⟩
    · cases hnote
    · cases hnote
    · cases hnote
    · cases hnote

theorem driver_onDatagram (loop : GameLoop Client) (datagram : Datagram) :
    (loop.onDatagram datagram).driver = loop.driver := by
  rw [GameLoop.onDatagram_eq]

theorem tick_inStep (h : InStep config loop.toStation) (now : Nat) :
    InStep config (loop.tick now).1.toStation ∧ Advances loop.driver (loop.tick now).1.driver := by
  obtain ⟨hinStep, hadvances⟩ := handleAll_inStep h.counted now loop.inbox
  have hworks := onTick_works ⟨now, 0⟩ (Station.handleAll now loop.inbox loop.counted)
  exact ⟨onTick_inStep hinStep ⟨now, 0⟩,
    hadvances.trans (.stays hworks.state_eq hworks.playerId_eq)⟩

theorem tick_emits (h : InStep config loop.toStation) (now : Nat) :
    ∃ emitted, (loop.tick now).1.transport.sent = loop.transport.sent ++ emitted
      ∧ Emits (loop.tick now).1.driver emitted := by
  have htransport : (Station.handleAll now loop.inbox loop.counted).transport = loop.transport :=
    transport_handleAll now loop.inbox loop.counted
  rw [← htransport]
  exact onTick_emits (handleAll_inStep h.counted now loop.inbox).1 ⟨now, 0⟩

theorem goesOn_tick_iff (loop : GameLoop Client) (now : Nat) :
    (loop.tick now).2 = true ↔ (loop.tick now).1.driver.state ≠ .disconnected := by
  have hworks := onTick_works ⟨now, 0⟩ (Station.handleAll now loop.inbox loop.counted)
  rw [show (loop.tick now).1.driver.state = _ from hworks.state_eq]
  exact goesOn_onTick_iff ..

theorem step_inStep (h : InStep config loop.toStation) (input : Input) :
    InStep config (step loop input).toStation ∧ Follows loop.driver (step loop input).driver := by
  cases input with
  | datagram arrived =>
    refine ⟨onDatagram_inStep h arrived, ?_⟩
    rw [step, driver_onDatagram]
    exact .refl _
  | tick now => exact ⟨(tick_inStep h now).1, (tick_inStep h now).2.follows⟩
  | disconnect =>
    refine ⟨disconnect_inStep h, ?_⟩
    have hdriver : (step loop .disconnect).driver = { loop.driver with state := .disconnected } :=
      driver_disconnect loop.toStation
    rw [hdriver]
    exact ⟨loop.driver.state.rank_le_disconnected, fun _ => rfl⟩

theorem run_inStep (h : InStep config loop.toStation) (inputs : List Input) :
    InStep config (run loop inputs).toStation ∧ Follows loop.driver (run loop inputs).driver := by
  refine run_induction
    (P := fun after => InStep config after.toStation ∧ Follows loop.driver after.driver)
    (fun after input hafter => ?_) inputs ⟨h, .refl _⟩
  obtain ⟨hinStep, hfollows⟩ := step_inStep hafter.1 input
  exact ⟨hinStep, hafter.2.trans hfollows⟩

/-- In every state that a client reaches, between the events of a tick as well, a new client has no
player, a logged in one has one, and the table has it with the client's address. A client never goes
back. To disconnect it changes its state alone, an event can make it enter if it is new, and nothing
else changes state or player. A tick sends nothing, or one login if it leaves the client new, or one
ping if it leaves it logged in, and goes on unless it leaves it disconnected. -/
theorem lifecycle_of_run (params : GameParams) (config : ClientConfig) (fails : Nat → Bool)
    (inputs later : List Input) :
    let loop := run (.start params ({ config } : Client) { fails }) inputs
    InStep config loop.toStation
    ∧ Follows loop.driver (run loop later).driver
    ∧ (∀ datagram, (loop.onDatagram datagram).driver = loop.driver)
    ∧ (leave loop).driver = { loop.driver with state := .disconnected }
    ∧ (∀ now taken, let station := Station.handleAll now (loop.inbox.take taken) loop.counted
      InStep config station
      ∧ (∀ moment event, Advances station.driver (station.handle moment event).driver)
      ∧ ∀ moment, (onTick moment station).1.driver.state = station.driver.state
        ∧ (onTick moment station).1.driver.playerId = station.driver.playerId)
    ∧ ∀ now, let (after, goesOn) := loop.tick now
      Advances loop.driver after.driver
      ∧ (∃ emitted, after.transport.sent = loop.transport.sent ++ emitted
        ∧ Emits after.driver emitted
        ∧ (after.driver.state = .loggedIn →
          ∀ outgoing ∈ emitted, ∀ login : Envelope Login, outgoing.bytes ≠ Frame.wrap login.body))
      ∧ (goesOn = true ↔ after.driver.state ≠ .disconnected) := by
  intro loop
  have hinStep : InStep config loop.toStation :=
    (run_inStep (start_inStep params config fails) inputs).1
  refine ⟨hinStep, (run_inStep hinStep later).2, driver_onDatagram loop, driver_disconnect _,
    fun now taken => ?_, fun now => ⟨(tick_inStep hinStep now).2, ?_, goesOn_tick_iff loop now⟩⟩
  · have hstation := (handleAll_inStep hinStep.counted now (loop.inbox.take taken)).1
    exact ⟨hstation, fun moment event => (handle_inStep hstation moment event).2,
      fun moment => ⟨(onTick_works moment _).state_eq, (onTick_works moment _).playerId_eq⟩⟩
  · obtain ⟨emitted, hsent, hemits⟩ := tick_emits hinStep now
    exact ⟨emitted, hsent, hemits, hemits.not_login⟩

def firstGrant : Received Login :=
  ⟨.v4 ⟨.localhost, 7⟩,
    (Envelope.ofPayload { session := 1, returnTo := ⟨.localhost, 40000⟩ }).stamped⟩

def granted : GameLoop Client :=
  run (.start {} ({ config := ⟨⟨.localhost, 40000⟩, .v4 ⟨.localhost, 7⟩⟩ } : Client)
    { fails := fun _ => false })
    [.datagram ⟨firstGrant.sender, Frame.wrap firstGrant.envelope.body⟩]

theorem inbox_granted : granted.inbox = [.login firstGrant] := by
  simp only [granted, run, List.foldl_cons, List.foldl_nil, step, GameLoop.onDatagram_eq]
  decide

/-- A client that is told of its session before its first tick never asks for one. -/
theorem granted_never_asks :
    granted.driver.state = .fresh ∧ (granted.tick 5).1.driver.state = .loggedIn
    ∧ (granted.tick 5).1.driver.playerId = some 1
    ∧ (granted.tick 5).1.transport.sent.length = 1
    ∧ ∀ outgoing ∈ (granted.tick 5).1.transport.sent, ∀ login : Envelope Login,
      outgoing.bytes ≠ Frame.wrap login.body := by
  have hclient : granted.driver.state = .fresh ∧ granted.transport.sent = [] := by
    simp only [granted, run, List.foldl_cons, List.foldl_nil, step, GameLoop.onDatagram_eq]
    exact ⟨rfl, rfl⟩
  have hafter : (granted.tick 5).1.driver.state = .loggedIn
      ∧ (granted.tick 5).1.driver.playerId = some 1
      ∧ (granted.tick 5).1.transport.sent.length = 1 := by
    rw [GameLoop.tick_eq, inbox_granted]
    decide
  obtain ⟨-, -, -, -, -, hticks⟩ := lifecycle_of_run {} ⟨⟨.localhost, 40000⟩, .v4 ⟨.localhost, 7⟩⟩
    (fun _ => false) [.datagram ⟨firstGrant.sender, Frame.wrap firstGrant.envelope.body⟩] []
  obtain ⟨-, ⟨emitted, hsent, -, hnot⟩, -⟩ := hticks 5
  refine ⟨hclient.1, hafter.1, hafter.2.1, hafter.2.2, ?_⟩
  change (granted.tick 5).1.transport.sent = granted.transport.sent ++ emitted at hsent
  rw [hclient.2, List.nil_append] at hsent
  rw [hsent]
  exact hnot hafter.1

end Run

end Client

end GridSession
