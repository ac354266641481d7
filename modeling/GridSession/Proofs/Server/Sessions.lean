import GridSession.Proofs.Server.Reply

namespace GridSession

namespace Server

variable {station : Station Server}

theorem Table.enlists_of_sessions_eq {game after : Game} {event : Nat × Event} (h : Table game)
    (hsessions : after.roster.sessions = game.roster.sessions)
    (hmaxPlayers : after.maxPlayers = game.maxPlayers)
    (hnext : after.nextPlayerId = game.nextPlayerId)
    (henlist : enlist game.maxPlayers.toNat game.roster.sessions event = game.roster.sessions) :
    Enlists game [event] after := by
  have hsize : after.roster.size = game.roster.size := by
    rw [← Roster.length_sessions, hsessions, Roster.length_sessions]
  refine ⟨?_, hmaxPlayers, ?_⟩
  · rw [hsessions, List.foldl_cons, List.foldl_nil, henlist]
  · rw [hnext, hsize, h.nextPlayerId_eq]

theorem Table.enlists_of_opened {game after : Game} {received : Received Login} {now : Nat}
    (h : Table game)
    (hnew : some (.v4 received.envelope.payload.returnTo)
      ∉ game.roster.sessions.map Session.endpoint)
    (hroom : game.roster.size < game.maxPlayers.toNat)
    (hsessions : after.roster.sessions = game.roster.sessions
      ++ [⟨game.nextPlayerId, some (.v4 received.envelope.payload.returnTo), now⟩])
    (hmaxPlayers : after.maxPlayers = game.maxPlayers)
    (hnext : after.nextPlayerId = game.nextPlayerId + 1) :
    Enlists game [(now, .login received)] after := by
  have hlimit : game.roster.sessions.length < game.maxPlayers.toNat := by
    rwa [Roster.length_sessions]
  have hsize : after.roster.size = game.roster.size + 1 := by
    rw [← Roster.length_sessions, hsessions, List.length_append, Roster.length_sessions,
      List.length_singleton]
  refine ⟨?_, hmaxPlayers, ?_⟩
  · rw [hsessions, h.nextPlayerId_eq, ← Roster.length_sessions]
    exact (enlist_login_of_room now hnew hlimit).symm
  · rw [hsize, hnext, UInt32.ofNat_add _ 1, ← h.nextPlayerId_eq]
    rfl

theorem onLogin_enlists (h : Table station.game) (moment : Moment) (received : Received Login) :
    Enlists station.game [(moment.now, .login received)]
      (onLogin moment received station).game := by
  rcases onLogin_cases h moment received with
    ⟨player, hmem, hendpoint, hlogin⟩ | ⟨-, hfull, hlogin⟩ | ⟨hnew, hroom, roster, hplayers, hlogin⟩
  · -- `enlist` opens no session for an endpoint that has one
    rw [hlogin]
    refine h.enlists_of_sessions_eq (sessions_answerLogin hmem rfl) maxPlayers_answerLogin
      nextPlayerId_answerLogin (if_pos (.inl ?_))
    rw [Roster.map_endpoint_sessions]
    exact List.mem_map.mpr ⟨player, hmem, hendpoint⟩
  · -- nor in a full table
    rw [hlogin]
    have hlimit : station.game.maxPlayers.toNat ≤ station.game.roster.sessions.length := by
      rw [Roster.length_sessions]
      exact hfull
    exact h.enlists_of_sessions_eq rfl rfl rfl (if_pos (.inr hlimit))
  · have hmem := joining_mem_opened hplayers
    rw [hlogin]
    apply h.enlists_of_opened hnew hroom
    · rw [sessions_answerLogin hmem rfl, sessions_opened hplayers]
    · exact maxPlayers_answerLogin
    · exact nextPlayerId_answerLogin

theorem onPing_enlists (h : Table station.game) (moment : Moment) (received : Received Ping) :
    Enlists station.game [(moment.now, .ping received)] (onPing moment received station).game := by
  rcases onPing_cases moment received station with
    ⟨-, hping⟩ | ⟨-, hping⟩ | ⟨-, player, hfound, hping⟩
  · rw [hping]
    exact h.enlists_of_sessions_eq rfl rfl rfl rfl
  · rw [hping]
    exact h.enlists_of_sessions_eq rfl rfl rfl rfl
  · rw [hping]
    exact h.enlists_of_sessions_eq (sessions_serve (Roster.get?_eq_some_iff.mp hfound).1 rfl)
      maxPlayers_serve nextPlayerId_serve rfl

/-- Handling an event changes the table as `enlist` says. -/
theorem handle_enlists (h : Table station.game) (moment : Moment) (event : Event) :
    Enlists station.game [(moment.now, event)] (station.handle moment event).game := by
  have htold : Table (station.tell (.handling event.action event.sender)).game := h
  cases event with
  | login received => exact onLogin_enlists htold moment received
  | ping received => exact onPing_enlists htold moment received
  | acknowledge received => exact h.enlists_of_sessions_eq rfl rfl rfl rfl

theorem handleAll_enlists (h : Table station.game) (now : Nat) (events : List Event) :
    Enlists station.game (events.map (now, ·)) (Station.handleAll now events station).game := by
  induction events generalizing station with
  | nil => exact .refl h
  | cons event rest ih =>
    have hhandled := handle_enlists h ⟨now, rest.length⟩ event
    exact hhandled.trans (ih (hhandled.table h))

theorem game_onTick (moment : Moment) (station : Station Server) :
    (onTick moment station).1.game = station.game := by
  unfold onTick
  dsimp only
  split_ifs <;> rfl

variable {loop : GameLoop Server}

theorem game_tick (now : Nat) :
    (loop.tick now).1.game = (Station.handleAll now loop.inbox loop.counted).game :=
  game_onTick ..

theorem tick_enlists (h : Table loop.game) (now : Nat) :
    Enlists loop.game (loop.inbox.map (now, ·)) (loop.tick now).1.game := by
  have hcounted : Table loop.counted.game := ⟨h.1, h.2, h.3⟩
  have hhandled := handleAll_enlists hcounted now loop.inbox
  rw [game_tick]
  exact ⟨hhandled.1, hhandled.2, hhandled.3⟩

theorem step_enlists (h : Table loop.game) (input : GameLoop.Input) :
    Enlists loop.game (loop.handedBy input) (loop.step input).game := by
  cases input with
  | datagram datagram =>
    rw [GameLoop.step, GameLoop.onDatagram_eq]
    exact .refl h
  | tick now => exact tick_enlists h now

/-- A run makes of the table what `enlist` makes of the events it handled. -/
theorem run_enlists (h : Table loop.game) (inputs : List GameLoop.Input) :
    Enlists loop.game (loop.handed inputs) (loop.run inputs).game := by
  induction inputs generalizing loop with
  | nil => exact .refl h
  | cons input rest ih =>
    have hstep := step_enlists h input
    exact hstep.trans (ih (hstep.table h))

/-- A kept session is found under its id ever after. -/
theorem Enlists.exists_get? {game after : Game} {events : List (Nat × Event)}
    (h : Enlists game events after) {id : UInt32} {player : Player}
    (hfound : game.roster.get? id = some player) :
    ∃ kept, after.roster.get? id = some kept ∧ kept.session = player.session := by
  have hmem := h.sessions_prefix.subset (Roster.mem_sessions_of_get? hfound)
  obtain ⟨kept, hkept, hsession⟩ := Roster.exists_get?_of_mem_sessions hmem
  refine ⟨kept, ?_, hsession⟩
  rwa [← (Roster.get?_eq_some_iff.mp hfound).2]

theorem Table.exists_get?_iff {game : Game} (h : Table game) (id : UInt32) :
    (∃ player, game.roster.get? id = some player)
      ↔ 1 ≤ id.toNat ∧ id.toNat ≤ game.roster.size := by
  have hlimit : game.maxPlayers.toNat < UInt32.size := game.maxPlayers.toNat_lt
  have hsize := h.size_le
  rw [← Roster.length_sessions, ← h.numbered.mem_ids_iff (by rw [Roster.length_sessions]; omega)]
  constructor
  · rintro ⟨player, hfound⟩
    rw [← (Roster.get?_eq_some_iff.mp hfound).2]
    exact List.mem_map_of_mem (Roster.mem_sessions_of_get? hfound)
  · intro hmem
    obtain ⟨session, hsession, rfl⟩ := List.mem_map.mp hmem
    obtain ⟨player, hfound, -⟩ := Roster.exists_get?_of_mem_sessions hsession
    exact ⟨player, hfound⟩

theorem Table.toNat_nextPlayerId {game : Game} (h : Table game) :
    game.nextPlayerId.toNat = (game.roster.size + 1) % 4294967296 := by
  rw [h.nextPlayerId_eq, UInt32.toNat_ofNat']

theorem Table.endpoint_v4 {game : Game} (h : Table game) {player : Player}
    (hmem : player ∈ game.roster.players) : ∃ endpoint, player.endpoint = some (.v4 endpoint) :=
  h.numbered.endpoint_v4 player.session (List.mem_map_of_mem hmem)

theorem game_handle_login_of_full {moment : Moment} {received : Received Login} {limit : UInt32}
    (h : station.game.enroll (.v4 received.envelope.payload.returnTo) moment.now
      = .error (.serverFull limit)) :
    (station.handle moment (.login received)).game = station.game := by
  have henroll : (station.tell (.handling .login received.sender)).game.enroll
      (.v4 received.envelope.payload.returnTo) moment.now = .error (.serverFull limit) := h
  change (onLogin moment received (station.tell (.handling .login received.sender))).game = _
  unfold onLogin
  simp only [henroll]
  rfl

/-- In every state that a server reaches the sessions are numbered from one on without a gap, as
many as there is room for at most, each of an endpoint of its own; they stay for good as they are;
and they are those of the endpoints in the order in which these were first let in. -/
theorem table_of_run (params : GameParams) (fails : Nat → Bool)
    (inputs later : List GameLoop.Input) :
    let start : GameLoop Server := .start params {} { fails }
    let game := (start.run inputs).game
    let after := (start.run (inputs ++ later)).game
    game.roster.size ≤ params.maxPlayers.toNat
    ∧ (∀ id, (∃ player, game.roster.get? id = some player)
      ↔ 1 ≤ id.toNat ∧ id.toNat ≤ game.roster.size)
    ∧ (∀ id player, game.roster.get? id = some player → player.id = id)
    ∧ game.nextPlayerId.toNat = (game.roster.size + 1) % 4294967296
    ∧ (∀ player ∈ game.roster.players, ∃ endpoint, player.endpoint = some (.v4 endpoint))
    ∧ (game.roster.players.map Player.endpoint).Nodup
    ∧ (∀ id player, game.roster.get? id = some player →
      ∃ kept, after.roster.get? id = some kept ∧ kept.id = player.id
        ∧ kept.endpoint = player.endpoint ∧ kept.connectedAt = player.connectedAt)
    ∧ game.roster.sessions = (start.handed inputs).foldl (enlist params.maxPlayers.toNat) []
    ∧ ∀ (station : Station Server) (moment : Moment) (received : Received Login) (limit : UInt32),
      station.game.enroll (.v4 received.envelope.payload.returnTo) moment.now
        = .error (.serverFull limit) →
      (station.handle moment (.login received)).game.nextPlayerId = station.game.nextPlayerId := by
  intro start game after
  -- what is said of one state is read off its table, and the rest off the way there
  have hstart : Table start.game := .ofParams params
  have hrun : Enlists start.game (start.handed inputs) game := run_enlists hstart inputs
  have htable : Table game := hrun.table hstart
  have hlater : Enlists game ((start.run inputs).handed later) after := by
    rw [show after = ((start.run inputs).run later).game by rw [← GameLoop.run_append]]
    exact run_enlists htable later
  have hlimit : game.maxPlayers = params.maxPlayers := hrun.maxPlayers_eq
  refine ⟨?_, htable.exists_get?_iff, fun _ _ h => (Roster.get?_eq_some_iff.mp h).2,
    htable.toNat_nextPlayerId, fun _ hmem => htable.endpoint_v4 hmem, ?_, ?_, hrun.sessions_eq, ?_⟩
  · rw [← hlimit]
    exact htable.size_le
  · rw [← Roster.map_endpoint_sessions]
    exact htable.numbered.nodup_endpoints
  · intro id player hfound
    obtain ⟨kept, hkept, hsession⟩ := hlater.exists_get? hfound
    exact ⟨kept, hkept, congrArg Session.id hsession, congrArg Session.endpoint hsession,
      congrArg Session.connectedAt hsession⟩
  · intro station moment received limit hfull
    rw [game_handle_login_of_full hfull]

end Server

end GridSession
