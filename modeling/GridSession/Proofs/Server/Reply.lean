import GridSession.Proofs.Server.Admission

namespace GridSession

namespace Server

/-- Touches a player, takes a message id from it and sends it the reply under that id. -/
def serve {α : Type} [Payload α] (now : Nat) (player : Player) (target : SocketAddress)
    (reply : UInt32 → Envelope α) (station : Station Server) : Station Server × Bool :=
  let (id, player) := (player.touch now).takeMessageId
  station.sendTracked player target (reply id)

section Serve

variable {α : Type} [Payload α] {now : Nat} {player : Player} {target : SocketAddress}
  {reply : UInt32 → Envelope α} {station : Station Server}

theorem sessions_serve {other : Player} (hmem : other ∈ station.game.roster.players)
    (hsession : player.session = other.session) :
    (serve now player target reply station).1.game.roster.sessions
      = station.game.roster.sessions := by
  apply Roster.sessions_replace hmem
  rw [Player.session_sendTracked]
  exact hsession

theorem maxPlayers_serve :
    (serve now player target reply station).1.game.maxPlayers = station.game.maxPlayers := rfl

theorem nextPlayerId_serve :
    (serve now player target reply station).1.game.nextPlayerId = station.game.nextPlayerId := rfl

theorem eq_or_mem_of_mem_players_serve {other : Player}
    (h : other ∈ (serve now player target reply station).1.game.roster.players) :
    other = ((player.touch now).takeMessageId.2.sendTracked station.transport target
        (reply player.nextMessage)).player
      ∨ (other.id ≠ player.id ∧ other ∈ station.game.roster.players) := by
  let served := ((player.touch now).takeMessageId.2.sendTracked station.transport target
    (reply player.nextMessage)).player
  have hsession : served.session = player.session := Player.session_sendTracked ..
  have hid : served.id = player.id := congrArg Session.id hsession
  obtain ⟨old, hold, hother⟩ := List.mem_map.mp h
  by_cases hsame : old.id = served.id
  · exact .inl ((if_pos hsame).symm.trans hother).symm
  · obtain rfl : old = other := (if_neg hsame).symm.trans hother
    exact .inr ⟨hid ▸ hsame, hold⟩

theorem mem_players_serve {other : Player}
    (h : other ∈ (serve now player target reply station).1.game.roster.players) :
    (other.session = player.session ∧ other.nextMessage = player.nextMessage + 1
        ∧ other.lastMessage = now)
      ∨ (other.id ≠ player.id ∧ other ∈ station.game.roster.players) := by
  refine (eq_or_mem_of_mem_players_serve h).imp_left ?_
  rintro rfl
  exact ⟨Player.session_sendTracked .., Player.nextMessage_sendTracked ..,
    Player.lastMessage_sendTracked ..⟩

theorem transport_serve :
    (serve now player target reply station).1.transport
      = (station.transport.send ⟨target, Frame.wrap (reply player.nextMessage).body⟩).2 :=
  Player.transport_sendTracked ..

theorem mem_sent_serve {outgoing : Outgoing}
    (h : outgoing ∈ (serve now player target reply station).1.transport.sent) :
    outgoing ∈ station.transport.sent
      ∨ outgoing = ⟨target, Frame.wrap (reply player.nextMessage).body⟩ := by
  rw [transport_serve] at h
  exact Transport.mem_sent_send h

theorem mem_journal_serve {note : Note}
    (h : note ∈ (serve now player target reply station).1.journal) :
    note ∈ station.journal
      ∨ note = .messageSent (Payload.action α) (reply player.nextMessage).message.id player.id
        target
      ∨ ∃ error, note = .sendingFailed (Payload.action α) player.id target error := by
  rcases List.mem_append.mp h with hold | hnew
  · exact .inl hold
  · rw [List.mem_singleton.mp hnew]
    exact .inr (Player.note_sendTracked ..)

end Serve

/-- The reply to a login tells the player's id and repeats the endpoint that the login named. -/
def loginReply (player : Player) (received : Received Login) (id : UInt32) : Envelope Login :=
  .ofPayload { session := player.id, returnTo := received.envelope.payload.returnTo } id

/-- The reply to a ping repeats what the ping last saw acknowledged. -/
def pingReply (received : Received Ping) (id : UInt32) : Envelope Acknowledge :=
  .ofPayload { ackedId := received.envelope.payload.lastAckId } id

def answerLogin (moment : Moment) (received : Received Login) (player : Player)
    (station : Station Server) : Station Server :=
  let endpoint := SocketAddress.v4 received.envelope.payload.returnTo
  let (served, delivered) :=
    serve moment.now player endpoint (loginReply player received) station
  if delivered then served.tell (.loginReplySent player.id endpoint) else served

section AnswerLogin

variable {moment : Moment} {received : Received Login} {player : Player} {station : Station Server}

theorem game_answerLogin :
    (answerLogin moment received player station).game
      = (serve moment.now player (.v4 received.envelope.payload.returnTo)
        (loginReply player received) station).1.game := by
  unfold answerLogin
  dsimp only
  split_ifs <;> rfl

theorem sessions_answerLogin {other : Player} (hmem : other ∈ station.game.roster.players)
    (hsession : player.session = other.session) :
    (answerLogin moment received player station).game.roster.sessions
      = station.game.roster.sessions := by
  rw [game_answerLogin]
  exact sessions_serve hmem hsession

theorem maxPlayers_answerLogin :
    (answerLogin moment received player station).game.maxPlayers = station.game.maxPlayers := by
  rw [game_answerLogin, maxPlayers_serve]

theorem nextPlayerId_answerLogin :
    (answerLogin moment received player station).game.nextPlayerId
      = station.game.nextPlayerId := by
  rw [game_answerLogin, nextPlayerId_serve]

theorem transport_answerLogin :
    (answerLogin moment received player station).transport
      = (serve moment.now player (.v4 received.envelope.payload.returnTo)
        (loginReply player received) station).1.transport := by
  unfold answerLogin
  dsimp only
  split_ifs <;> rfl

theorem mem_journal_answerLogin {note : Note}
    (h : note ∈ (answerLogin moment received player station).journal) :
    note ∈ (serve moment.now player (.v4 received.envelope.payload.returnTo)
        (loginReply player received) station).1.journal
      ∨ note = .loginReplySent player.id (.v4 received.envelope.payload.returnTo) := by
  unfold answerLogin at h
  dsimp only at h
  split_ifs at h
  · rcases List.mem_append.mp h with hold | hnew
    · exact .inl hold
    · exact .inr (List.mem_singleton.mp hnew)
  · exact .inl h

end AnswerLogin

variable {station : Station Server}

def opened (endpoint : SocketAddress) (roster : Roster) (station : Station Server) :
    Station Server :=
  { station with
    game := { station.game with roster, nextPlayerId := station.game.nextPlayerId + 1 } }.tell
      (.playerCreated station.game.nextPlayerId endpoint)

section Opened

variable {endpoint : SocketAddress} {roster : Roster} {now : Nat}

theorem joining_mem_opened (hplayers : roster.players = station.game.roster.players
      ++ [.joining station.game.nextPlayerId (some endpoint) now]) :
    Player.joining station.game.nextPlayerId (some endpoint) now
      ∈ (opened endpoint roster station).game.roster.players := by
  change _ ∈ roster.players
  rw [hplayers]
  exact List.mem_append_right _ (List.mem_singleton.mpr rfl)

theorem sessions_opened (hplayers : roster.players = station.game.roster.players
      ++ [.joining station.game.nextPlayerId (some endpoint) now]) :
    (opened endpoint roster station).game.roster.sessions
      = station.game.roster.sessions ++ [⟨station.game.nextPlayerId, some endpoint, now⟩] := by
  rw [Roster.sessions, opened, Station.tell, hplayers, List.map_append]
  rfl

end Opened

/-- A login resumes the session of its endpoint, is refused by a full table, or opens a session. -/
theorem onLogin_cases (h : Table station.game) (moment : Moment) (received : Received Login) :
    let endpoint := SocketAddress.v4 received.envelope.payload.returnTo
    let joining := Player.joining station.game.nextPlayerId (some endpoint) moment.now
    (∃ player ∈ station.game.roster.players, player.endpoint = some endpoint
      ∧ onLogin moment received station
        = answerLogin moment received player (station.tell (.playerReturned player.id endpoint)))
    ∨ (some endpoint ∉ station.game.roster.sessions.map Session.endpoint
      ∧ station.game.maxPlayers.toNat ≤ station.game.roster.size
      ∧ onLogin moment received station = station.tell (.loginRejected endpoint received.sender
        (.serverFull station.game.maxPlayers)))
    ∨ (some endpoint ∉ station.game.roster.sessions.map Session.endpoint
      ∧ station.game.roster.size < station.game.maxPlayers.toNat
      ∧ ∃ roster : Roster, roster.players = station.game.roster.players ++ [joining]
        ∧ onLogin moment received station
          = answerLogin moment received joining (opened endpoint roster station)) := by
  intro endpoint joining
  rcases Game.enroll_cases station.game endpoint moment.now with
    ⟨player, hfound, henroll⟩ | ⟨habsent, hfull, henroll⟩ | ⟨-, hroom, player, hget, -⟩
    | ⟨habsent, hroom, -, roster, hplayers, henroll⟩
  · obtain ⟨hmem, hendpoint⟩ := Roster.withEndpoint?_eq_some hfound
    refine .inl ⟨player, hmem, hendpoint, ?_⟩
    simp only [onLogin, henroll, endpoint]
    rfl
  · rw [← Roster.map_endpoint_sessions] at habsent
    refine .inr (.inl ⟨habsent, hfull, ?_⟩)
    simp only [onLogin, henroll, endpoint]
  · -- no player has the next id while there is room
    obtain ⟨hmem, hid⟩ := Roster.get?_eq_some_iff.mp hget
    exact absurd (List.mem_map.mpr ⟨player, hmem, hid⟩) (h.nextPlayerId_notMem hroom)
  · rw [← Roster.map_endpoint_sessions] at habsent
    refine .inr (.inr ⟨habsent, hroom, roster, hplayers, ?_⟩)
    simp only [onLogin, henroll, endpoint, joining]
    rfl

/-- A ping without a known player is only written down, and any other is answered. -/
theorem onPing_cases (moment : Moment) (received : Received Ping) (station : Station Server) :
    let ping := received.envelope.payload
    (ping.playerId = noPlayer
      ∧ onPing moment received station = station.tell (.pingWithoutPlayer received.sender))
    ∨ (station.game.roster.get? ping.playerId = none
      ∧ onPing moment received station
        = station.tell (.pingForUnknownPlayer ping.playerId received.sender))
    ∨ (ping.playerId ≠ noPlayer
      ∧ ∃ player, station.game.roster.get? ping.playerId = some player
        ∧ onPing moment received station
          = (serve moment.now player (player.endpoint.getD received.sender) (pingReply received)
            station).1) := by
  intro ping
  by_cases hnone : ping.playerId = noPlayer
  · exact .inl ⟨hnone, if_pos hnone⟩
  · cases hfound : station.game.roster.get? ping.playerId with
    | none =>
      refine .inr (.inl ⟨rfl, ?_⟩)
      simp only [onPing, if_neg hnone, hfound, ping]
    | some player =>
      refine .inr (.inr ⟨hnone, player, rfl, ?_⟩)
      simp only [onPing, if_neg hnone, hfound, ping]
      rfl

end Server

end GridSession
