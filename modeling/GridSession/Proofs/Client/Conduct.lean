import GridSession.Proofs.GameLoop.Run
import GridSession.Proofs.Player.Sessions
import GridSession.Role.Client

namespace GridSession

theorem Roster.players_replace_of_joined {roster grown : Roster} {player joined : Player}
    (hplayers : grown.players = roster.players ++ [joined]) (hid : joined.id = player.id)
    (habsent : player.id ∉ roster.ids) :
    (grown.replace player).players = roster.players ++ [player] := by
  have hothers : ∀ other ∈ roster.players,
      (if other.id = player.id then player else other) = other := by
    intro other hmem
    refine if_neg fun hsame => habsent ?_
    rw [← hsame]
    exact List.mem_map_of_mem hmem
  unfold replace
  dsimp only
  rw [hplayers, List.map_append, List.map_singleton, if_pos hid, List.map_congr_left hothers,
    List.map_id']

/-- A player is registered at the end of the roster, unless its id is taken. -/
theorem Game.register?_cases (game : Game) (id : UInt32) (now : Nat) :
    (id ∈ game.roster.ids ∧ game.register? id now = none)
    ∨ (id ∉ game.roster.ids
      ∧ ∃ roster : Roster, roster.players = game.roster.players ++ [.joining id none now]
        ∧ game.register? id now = some ({ game with roster }, .joining id none now)) := by
  by_cases hmem : id ∈ game.roster.ids
  · refine .inl ⟨hmem, ?_⟩
    have hinsert : game.roster.insert? (.joining id none now) = none := dif_pos hmem
    rw [register?, hinsert]
    rfl
  · obtain ⟨grown, hinsert, hplayers⟩ :=
      Roster.insert?_eq_some (Player.joining id none now) hmem
    refine .inr ⟨hmem, grown, hplayers, ?_⟩
    rw [register?, hinsert]
    rfl

namespace Client

def loginRequest (client : Client) : Outgoing :=
  ⟨client.config.serverAddress, Frame.wrap (Envelope.ofPayload
    { returnTo := client.config.clientAddress : Login } client.loginAttempts).body⟩

def nextPing (player : Player) : Envelope Ping :=
  .ofPayload { playerId := player.id, lastAckId := player.ackCount.toUInt64 } player.nextMessage

def pingRequest (client : Client) (player : Player) : Outgoing :=
  ⟨client.config.serverAddress, Frame.wrap (nextPing player).body⟩

def loginNote (client : Client) : Except SendError Unit → Note
  | .ok () => .loginAttemptSent client.loginAttempts client.config.serverAddress
  | .error error => .loginAttemptFailed client.config.serverAddress error

def attemptLogin (now : Nat) (station : Station Client) : Station Client :=
  let client := station.driver
  let (result, transport) := station.transport.send client.loginRequest
  { station with
    transport
    driver := { client with
      lastLoginAttempt := some now, loginAttempts := client.loginAttempts + 1 } }.tell
    (client.loginNote result)

def attemptPing (now : Nat) (player : Player) (station : Station Client) : Station Client :=
  let client := station.driver
  let station := { station with driver := { client with lastPing := some now } }
  (station.sendTracked player.takeMessageId.2 client.config.serverAddress (nextPing player)).1

variable {station : Station Client} {now : Nat}

theorem journal_attemptLogin (now : Nat) (station : Station Client) :
    ∃ note, (attemptLogin now station).journal = station.journal ++ [note]
      ∧ ∀ id, note ≠ .ownPlayerMissing id := by
  let result := (station.transport.send station.driver.loginRequest).1
  refine ⟨station.driver.loginNote result, rfl, fun id => ?_⟩
  cases result with
  | ok => nofun
  | error error => nofun

theorem journal_attemptPing (now : Nat) (player : Player) (station : Station Client) :
    ∃ note, (attemptPing now player station).journal = station.journal ++ [note]
      ∧ ∀ id, note ≠ .ownPlayerMissing id := by
  refine ⟨_, rfl, fun id => ?_⟩
  rcases Player.note_sendTracked player.takeMessageId.2 station.transport
    station.driver.config.serverAddress (nextPing player) with hnote | ⟨error, hnote⟩
  · rw [hnote]
    nofun
  · rw [hnote]
    nofun

section AttemptPing

variable {player : Player}

theorem sessions_attemptPing (hmem : player ∈ station.game.roster.players) :
    (attemptPing now player station).game.roster.sessions = station.game.roster.sessions :=
  Roster.sessions_replace hmem (Player.session_sendTracked ..)

theorem transport_attemptPing :
    (attemptPing now player station).transport
      = (station.transport.send (station.driver.pingRequest player)).2 :=
  Player.transport_sendTracked ..

end AttemptPing

theorem tryLogin_eq (now : Nat) (station : Station Client) :
    tryLogin now station
      = if isDue station.driver.lastLoginAttempt now loginRetryInterval then
          attemptLogin now station
        else station := by
  unfold tryLogin attemptLogin loginRequest
  simp only [Envelope.toBytes?_eq, ite_not]
  congr 1
  rcases station.transport.send_cases _ with ⟨after, hsend, -⟩ | ⟨error, after, hsend, -⟩
  · rw [hsend]
    rfl
  · rw [hsend]
    rfl

theorem tryPing_eq (now : Nat) {player : Player} (hmem : player ∈ station.game.roster.players)
    (hplayerId : station.driver.playerId = some player.id) :
    tryPing now station
      = if isDue station.driver.lastPing now pingInterval then attemptPing now player station
        else station := by
  have hfound : station.game.roster.get? player.id = some player :=
    Roster.get?_eq_some_iff.mpr ⟨hmem, rfl⟩
  unfold tryPing attemptPing
  simp only [hplayerId, hfound, ite_not]
  rfl

/-- A client enters under a session unless that is taken. Its own player has its own address. -/
theorem enter_cases (now : Nat) (session : UInt32) (station : Station Client) :
    let client := station.driver
    (session ∈ station.game.roster.ids
      ∧ enter now session station = station.tell (.sessionTaken session))
    ∨ (session ∉ station.game.roster.ids
      ∧ ∃ roster : Roster, roster.players = station.game.roster.players
          ++ [.joining session (some (.v4 client.config.clientAddress)) now]
        ∧ enter now session station
          = { station with
              game := { station.game with roster }
              driver := { client with state := .loggedIn, playerId := some session } }.tell
            (.loggedIn client.config.serverAddress session)) := by
  intro client
  rcases station.game.register?_cases session now with
    ⟨htaken, hregister⟩ | ⟨habsent, grown, hplayers, hregister⟩
  · refine .inl ⟨htaken, ?_⟩
    simp only [enter, hregister]
  · let own := Player.joining session (some (.v4 client.config.clientAddress)) now
    refine .inr ⟨habsent, grown.replace own, ?_, ?_⟩
    · exact Roster.players_replace_of_joined hplayers rfl habsent
    · simp only [enter, hregister]
      rfl

/-- A session that is not the client's own is registered unless it is taken. -/
theorem registerRemote_cases (now : Nat) (session : UInt32) (station : Station Client) :
    (station.driver.playerId = some session
      ∧ registerRemote now session station = station.tell (.ownLoginRepeated session))
    ∨ (station.driver.playerId ≠ some session ∧ session ∈ station.game.roster.ids
      ∧ registerRemote now session station = station.tell (.remotePlayerTaken session))
    ∨ (station.driver.playerId ≠ some session ∧ session ∉ station.game.roster.ids
      ∧ ∃ roster : Roster,
        roster.players = station.game.roster.players ++ [.joining session none now]
        ∧ registerRemote now session station
          = { station with game := { station.game with roster } }.tell
            (.remotePlayerRegistered session)) := by
  unfold registerRemote
  by_cases hown : station.driver.playerId = some session
  · exact .inl ⟨hown, if_pos hown⟩
  · rw [if_neg hown]
    rcases station.game.register?_cases session now with
      ⟨htaken, hregister⟩ | ⟨habsent, grown, hplayers, hregister⟩
    · rw [hregister]
      exact .inr (.inl ⟨hown, htaken, rfl⟩)
    · rw [hregister]
      exact .inr (.inr ⟨hown, habsent, grown, hplayers, rfl⟩)

/-- What a client does with a login is decided by the session in it and by the client's state. -/
theorem onLogin_cases (moment : Moment) (received : Received Login) (station : Station Client) :
    let session := received.envelope.payload.session
    (session = noSession
      ∧ onLogin moment received station = station.tell (.loginWithoutSession received.sender))
    ∨ (session ≠ noSession ∧ station.driver.state = .fresh
      ∧ onLogin moment received station = enter moment.now session station)
    ∨ (session ≠ noSession ∧ station.driver.state = .loggedIn
      ∧ onLogin moment received station = registerRemote moment.now session station)
    ∨ (session ≠ noSession ∧ station.driver.state = .disconnected
      ∧ onLogin moment received station = station.tell (.loginWhileDisconnected session)) := by
  intro session
  unfold onLogin
  dsimp only
  by_cases hsession : received.envelope.payload.hasSession
  · have hne : session ≠ noSession := bne_iff_ne.mp hsession
    rw [if_neg (not_not.mpr hsession)]
    cases hstate : station.driver.state with
    | fresh => exact .inr (.inl ⟨hne, rfl, rfl⟩)
    | loggedIn => exact .inr (.inr (.inl ⟨hne, rfl, rfl⟩))
    | disconnected => exact .inr (.inr (.inr ⟨hne, rfl, rfl⟩))
  · rw [if_pos hsession]
    exact .inl ⟨by simpa [Login.hasSession] using hsession, rfl⟩

theorem transport_enter (now : Nat) (session : UInt32) (station : Station Client) :
    (enter now session station).transport = station.transport := by
  unfold enter
  dsimp only
  split <;> rfl

theorem transport_registerRemote (now : Nat) (session : UInt32) (station : Station Client) :
    (registerRemote now session station).transport = station.transport := by
  unfold registerRemote
  split_ifs
  · rfl
  · split <;> rfl

theorem transport_handle (moment : Moment) (event : Event) (station : Station Client) :
    (station.handle moment event).transport = station.transport := by
  let told := station.tell (.handling event.action event.sender)
  cases event with
  | login received =>
    change (onLogin moment received told).transport = told.transport
    rcases onLogin_cases moment received told with
      ⟨-, hlogin⟩ | ⟨-, -, hlogin⟩ | ⟨-, -, hlogin⟩ | ⟨-, -, hlogin⟩
    · rw [hlogin]
      rfl
    · rw [hlogin, transport_enter]
    · rw [hlogin, transport_registerRemote]
    · rw [hlogin]
      rfl
  | ping received => rfl
  | acknowledge received => rfl

theorem transport_handleAll (now : Nat) (events : List Event) (station : Station Client) :
    (Station.handleAll now events station).transport = station.transport := by
  refine Station.handleAll_induction (P := fun after => after.transport = station.transport)
    (fun event _ moment after hafter => ?_) now rfl
  rw [transport_handle, hafter]

end Client

end GridSession
