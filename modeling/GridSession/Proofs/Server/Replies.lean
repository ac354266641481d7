import GridSession.Proofs.Server.Sessions

namespace GridSession

namespace Server

/-- Whether a server with these sessions answers an event: a login if its endpoint has a session or
there is room for one, and a ping if it names a player and this player has a session. -/
def Answerable (limit : Nat) (sessions : List Session) : Event → Prop
  | .login received =>
    some (.v4 received.envelope.payload.returnTo) ∈ sessions.map Session.endpoint
      ∨ sessions.length < limit
  | .ping received =>
    received.envelope.payload.playerId ≠ noPlayer
      ∧ received.envelope.payload.playerId ∈ sessions.map Session.id
  | .acknowledge _ => False

/-- The session that an event is answered for. A login may open it. -/
def answeredFor? (limit : Nat) (sessions : List Session) : Nat × Event → Option Session
  | (now, .login received) =>
    (enlist limit sessions (now, .login received)).find?
      (·.endpoint == some (.v4 received.envelope.payload.returnTo))
  | (_, .ping received) =>
    if received.envelope.payload.playerId = noPlayer then none
    else sessions.find? (·.id == received.envelope.payload.playerId)
  | (_, .acknowledge _) => none

def answered (limit : Nat) (sessions : List Session) : List (Nat × Event) → List Session
  | [] => []
  | event :: rest =>
    (answeredFor? limit sessions event).toList
      ++ answered limit (enlist limit sessions event) rest

def timesAnswered (limit : Nat) (events : List (Nat × Event)) (id : UInt32) : Nat :=
  ((answered limit [] events).map Session.id).count id

/-- The reply for a session under a message id. A login is answered to the endpoint in it, with the
session's id, and a ping to the session's endpoint. -/
def replyFor? (session : Session) (id : UInt32) : Event → Option Outgoing
  | .login received =>
    let returnTo := received.envelope.payload.returnTo
    some ⟨.v4 returnTo,
      Frame.wrap (Envelope.ofPayload { session := session.id, returnTo : Login } id).body⟩
  | .ping received =>
    let lastAckId := received.envelope.payload.lastAckId
    session.endpoint.map fun target =>
      ⟨target, Frame.wrap (Envelope.ofPayload { ackedId := lastAckId : Acknowledge } id).body⟩
  | .acknowledge _ => none

/-- The reply to an event after `earlier` ones, under the number of earlier answers. -/
def reply? (limit : Nat) (earlier : List (Nat × Event)) (event : Nat × Event) : Option Outgoing :=
  (answeredFor? limit (earlier.foldl (enlist limit) []) event).bind fun session =>
    replyFor? session (UInt32.ofNat (timesAnswered limit earlier session.id)) event.2

/-- The replies to events that are handled after `earlier` ones, in order. -/
def replies (limit : Nat) (earlier : List (Nat × Event)) : List (Nat × Event) → List Outgoing
  | [] => []
  | event :: rest =>
    (reply? limit earlier event).toList ++ replies limit (earlier ++ [event]) rest

section Answered

variable {limit : Nat} {sessions : List Session} {earlier events more : List (Nat × Event)}

theorem answered_append :
    answered limit sessions (events ++ more)
      = answered limit sessions events
        ++ answered limit (events.foldl (enlist limit) sessions) more := by
  induction events generalizing sessions with
  | nil => rfl
  | cons event rest ih =>
    rw [List.cons_append, answered, answered, ih, List.foldl_cons, List.append_assoc]

theorem replies_append {more : List (Nat × Event)} :
    replies limit earlier (events ++ more)
      = replies limit earlier events ++ replies limit (earlier ++ events) more := by
  induction events generalizing earlier with
  | nil => rw [List.nil_append, List.append_nil, replies, List.nil_append]
  | cons event rest ih =>
    rw [List.cons_append, replies, replies, ih, List.append_assoc, List.append_assoc]
    rfl

theorem timesAnswered_append_of_none {event : Nat × Event}
    (h : answeredFor? limit (earlier.foldl (enlist limit) []) event = none) (id : UInt32) :
    timesAnswered limit (earlier ++ [event]) id = timesAnswered limit earlier id := by
  simp [timesAnswered, answered_append, answered, h]

theorem timesAnswered_append_of_some {event : Nat × Event} {session : Session}
    (h : answeredFor? limit (earlier.foldl (enlist limit) []) event = some session)
    (id : UInt32) :
    timesAnswered limit (earlier ++ [event]) id
      = timesAnswered limit earlier id + if session.id = id then 1 else 0 := by
  simp [timesAnswered, answered_append, answered, h, List.count_singleton]

theorem mem_enlist_of_answeredFor? {event : Nat × Event} {session : Session}
    (h : answeredFor? limit sessions event = some session) :
    session ∈ enlist limit sessions event := by
  obtain ⟨now, received | received | received⟩ := event
  · exact List.mem_of_find?_eq_some h
  · simp only [answeredFor?] at h
    split_ifs at h
    exact List.mem_of_find?_eq_some h
  · cases h

theorem answered_subset :
    answered limit sessions events ⊆ events.foldl (enlist limit) sessions := by
  induction events generalizing sessions with
  | nil => exact List.nil_subset _
  | cons event rest ih =>
    refine List.append_subset.mpr ⟨fun session hmem => ?_, ih⟩
    have hopen := mem_enlist_of_answeredFor? (Option.mem_toList.mp hmem)
    exact (prefix_foldl_enlist rest).subset hopen

theorem timesAnswered_eq_zero {id : UInt32}
    (h : id ∉ (earlier.foldl (enlist limit) []).map Session.id) :
    timesAnswered limit earlier id = 0 :=
  List.count_eq_zero.mpr fun hmem => h (List.map_subset _ answered_subset hmem)

theorem mem_endpoints_enlist_iff (now : Nat) {received : Received Login} :
    some (.v4 received.envelope.payload.returnTo)
        ∈ (enlist limit sessions (now, .login received)).map Session.endpoint
      ↔ Answerable limit sessions (.login received) := by
  simp only [enlist, Answerable]
  split_ifs with hkept
  · exact ⟨.inl, fun h => h.elim id fun hroom => hkept.resolve_right (Nat.not_le.mpr hroom)⟩
  · have hroom := Nat.not_le.mp (not_or.mp hkept).2
    exact ⟨fun _ => .inr hroom, fun _ => by simp⟩

/-- An event has a session that it is answered for exactly if it is to be answered. -/
theorem isSome_answeredFor?_iff (event : Nat × Event) :
    (answeredFor? limit sessions event).isSome ↔ Answerable limit sessions event.2 := by
  obtain ⟨now, received | received | received⟩ := event
  · rw [← mem_endpoints_enlist_iff now, answeredFor?, List.find?_isSome, List.mem_map]
    simp only [beq_iff_eq]
  · simp only [answeredFor?, Answerable]
    split_ifs with hnone
    · exact ⟨nofun, fun h => absurd hnone h.1⟩
    · rw [List.find?_isSome, List.mem_map]
      simp only [beq_iff_eq, ne_eq, hnone, not_false_eq_true, true_and]
  · exact ⟨nofun, False.elim⟩

theorem isSome_reply?_iff (h : Session.Numbered (earlier.foldl (enlist limit) []))
    (event : Nat × Event) :
    (reply? limit earlier event).isSome
      ↔ Answerable limit (earlier.foldl (enlist limit) []) event.2 := by
  rw [← isSome_answeredFor?_iff event, reply?]
  cases hfor : answeredFor? limit (earlier.foldl (enlist limit) []) event with
  | none => rfl
  | some session =>
    obtain ⟨endpoint, hendpoint⟩ := (numbered_enlist h event).endpoint_v4 session
      (mem_enlist_of_answeredFor? hfor)
    obtain ⟨now, received | received | received⟩ := event
    · rfl
    · simp [replyFor?, hendpoint]
    · cases hfor

end Answered

section AnsweredFor

variable {limit : Nat} {sessions : List Session} {session : Session} (now : Nat)

theorem answeredFor?_login_of_mem {received : Received Login}
    (hnodup : (sessions.map Session.endpoint).Nodup) (hmem : session ∈ sessions)
    (hendpoint : session.endpoint = some (.v4 received.envelope.payload.returnTo)) :
    answeredFor? limit sessions (now, .login received) = some session := by
  have hknown := List.mem_map.mpr ⟨session, hmem, hendpoint⟩
  simp only [answeredFor?, enlist]
  rw [if_pos (.inl hknown), ← hendpoint]
  exact find?_of_nodup_map hnodup hmem

theorem answeredFor?_login_of_full {received : Received Login}
    (hnew : some (.v4 received.envelope.payload.returnTo) ∉ sessions.map Session.endpoint)
    (hfull : limit ≤ sessions.length) :
    answeredFor? limit sessions (now, .login received) = none := by
  rw [← Option.not_isSome_iff_eq_none, isSome_answeredFor?_iff]
  rintro (hknown | hroom)
  · exact hnew hknown
  · omega

theorem answeredFor?_login_of_room {received : Received Login}
    (hnew : some (.v4 received.envelope.payload.returnTo) ∉ sessions.map Session.endpoint)
    (hroom : sessions.length < limit) :
    answeredFor? limit sessions (now, .login received)
      = some ⟨UInt32.ofNat (sessions.length + 1),
        some (.v4 received.envelope.payload.returnTo), now⟩ := by
  have habsent : sessions.find?
      (·.endpoint == some (.v4 received.envelope.payload.returnTo)) = none := by
    rw [List.find?_eq_none]
    intro session hmem hendpoint
    exact hnew (List.mem_map.mpr ⟨session, hmem, by simpa using hendpoint⟩)
  simp only [answeredFor?, enlist_login_of_room now hnew hroom, List.find?_append, habsent]
  simp

theorem answeredFor?_ping {received : Received Ping} (hnodup : (sessions.map Session.id).Nodup)
    (hplayer : received.envelope.payload.playerId ≠ noPlayer) (hmem : session ∈ sessions)
    (hid : session.id = received.envelope.payload.playerId) :
    answeredFor? limit sessions (now, .ping received) = some session := by
  simp only [answeredFor?]
  rw [if_neg hplayer, ← hid]
  exact find?_of_nodup_map hnodup hmem

end AnsweredFor

/-- The players are numbered by what `count` says of their ids. -/
def Numbers (count : UInt32 → Nat) (game : Game) : Prop :=
  ∀ player ∈ game.roster.players, player.nextMessage = UInt32.ofNat (count player.id)

section Numbers

variable {count : UInt32 → Nat} {station : Station Server} {player : Player} {now : Nat}

theorem Numbers.serve {α : Type} [Payload α] {target : SocketAddress}
    {reply : UInt32 → Envelope α} (h : Numbers count station.game)
    (hplayer : player.nextMessage = UInt32.ofNat (count player.id)) :
    Numbers (fun id => count id + if player.id = id then 1 else 0)
      (serve now player target reply station).1.game := by
  intro other hmem
  rcases mem_players_serve hmem with ⟨hsession, hnext, -⟩ | ⟨hid, hold⟩
  · have hid : other.id = player.id := congrArg Session.id hsession
    simp only [hid, if_true]
    rw [hnext, hplayer, UInt32.ofNat_add _ 1]
    rfl
  · simp only [if_neg (Ne.symm hid), Nat.add_zero]
    exact h other hold

theorem Numbers.answerLogin {moment : Moment} {received : Received Login}
    (h : Numbers count station.game)
    (hplayer : player.nextMessage = UInt32.ofNat (count player.id)) :
    Numbers (fun id => count id + if player.id = id then 1 else 0)
      (answerLogin moment received player station).game := by
  rw [game_answerLogin]
  exact h.serve hplayer

end Numbers

/-- A game as `earlier` events leave it: they make its table and number its players. -/
structure Records (limit : Nat) (earlier : List (Nat × Event)) (game : Game) : Prop where
  table : Table game
  maxPlayers_eq : game.maxPlayers.toNat = limit
  sessions_eq : game.roster.sessions = earlier.foldl (enlist limit) []
  numbers : Numbers (timesAnswered limit earlier) game

/-- What an event does after `earlier` ones: it is counted for the session that it is answered for,
and its reply is sent if it has one. -/
structure Answers (limit : Nat) (earlier : List (Nat × Event)) (event : Nat × Event)
    (transport : Transport) (after : Station Server) : Prop where
  numbers : Numbers (timesAnswered limit (earlier ++ [event])) after.game
  transport_eq : after.transport = transport.sendAll (reply? limit earlier event).toList

section Records

variable {limit : Nat} {earlier events : List (Nat × Event)} {game after : Game}
  {station : Station Server} {moment : Moment}

theorem Records.ofParams (params : GameParams) :
    Records params.maxPlayers.toNat [] (.ofParams params) :=
  ⟨.ofParams params, rfl, rfl, fun _ hmem => absurd hmem List.not_mem_nil⟩

theorem Records.of_enlists (h : Records limit earlier game) (henlists : Enlists game events after)
    (hnumbers : Numbers (timesAnswered limit (earlier ++ events)) after) :
    Records limit (earlier ++ events) after where
  table := henlists.table h.table
  maxPlayers_eq := by rw [henlists.maxPlayers_eq, h.maxPlayers_eq]
  sessions_eq := by
    rw [henlists.sessions_eq, h.sessions_eq, h.maxPlayers_eq, List.foldl_append]
  numbers := hnumbers

theorem Records.answers_tell (h : Records limit earlier station.game) {event : Nat × Event}
    (hfor : answeredFor? limit (earlier.foldl (enlist limit) []) event = none) (note : Note) :
    Answers limit earlier event station.transport (station.tell note) := by
  refine ⟨fun player hmem => ?_, ?_⟩
  · rw [timesAnswered_append_of_none hfor]
    exact h.numbers player hmem
  · rw [reply?, hfor]
    rfl

theorem numbers_append {event : Nat × Event} {session : Session}
    (hfor : answeredFor? limit (earlier.foldl (enlist limit) []) event = some session)
    (h : Numbers (fun id => timesAnswered limit earlier id + if session.id = id then 1 else 0)
      after) :
    Numbers (timesAnswered limit (earlier ++ [event])) after := by
  intro player hmem
  rw [timesAnswered_append_of_some hfor]
  exact h player hmem

section AnsweredFor

variable {received : Received Login} {player : Player}

/-- An endpoint with a session is answered for it. -/
theorem Records.answeredFor?_of_resumed (h : Records limit earlier station.game) (now : Nat)
    (hmem : player ∈ station.game.roster.players)
    (hendpoint : player.endpoint = some (.v4 received.envelope.payload.returnTo)) :
    answeredFor? limit (earlier.foldl (enlist limit) []) (now, .login received)
      = some player.session := by
  rw [← h.sessions_eq]
  exact answeredFor?_login_of_mem now h.table.numbered.nodup_endpoints (List.mem_map_of_mem hmem)
    hendpoint

theorem Records.answeredFor?_of_full (h : Records limit earlier station.game) (now : Nat)
    (hnew : some (.v4 received.envelope.payload.returnTo)
      ∉ station.game.roster.sessions.map Session.endpoint)
    (hfull : station.game.maxPlayers.toNat ≤ station.game.roster.size) :
    answeredFor? limit (earlier.foldl (enlist limit) []) (now, .login received) = none := by
  rw [← h.sessions_eq, ← h.maxPlayers_eq]
  exact answeredFor?_login_of_full now hnew (by rwa [Roster.length_sessions])

/-- An endpoint that is let in is answered for the session that it opens. -/
theorem Records.answeredFor?_of_room (h : Records limit earlier station.game) (now : Nat)
    (hnew : some (.v4 received.envelope.payload.returnTo)
      ∉ station.game.roster.sessions.map Session.endpoint)
    (hroom : station.game.roster.size < station.game.maxPlayers.toNat) :
    answeredFor? limit (earlier.foldl (enlist limit) []) (now, .login received)
      = some (Player.joining station.game.nextPlayerId
        (some (.v4 received.envelope.payload.returnTo)) now).session := by
  rw [← h.sessions_eq, ← h.maxPlayers_eq,
    answeredFor?_login_of_room now hnew (by rwa [Roster.length_sessions]), Roster.length_sessions,
    ← h.table.nextPlayerId_eq]
  rfl

theorem Records.answeredFor?_of_unknown (h : Records limit earlier station.game) (now : Nat)
    {received : Received Ping}
    (hunknown : station.game.roster.get? received.envelope.payload.playerId = none) :
    answeredFor? limit (earlier.foldl (enlist limit) []) (now, .ping received) = none := by
  rw [← h.sessions_eq, ← Option.not_isSome_iff_eq_none, isSome_answeredFor?_iff]
  rintro ⟨-, hknown⟩
  obtain ⟨session, hmem, hid⟩ := List.mem_map.mp hknown
  obtain ⟨player, hfound, -⟩ := Roster.exists_get?_of_mem_sessions hmem
  rw [hid, hunknown] at hfound
  cases hfound

theorem Records.answeredFor?_of_known (h : Records limit earlier station.game) (now : Nat)
    {received : Received Ping} (hplayer : received.envelope.payload.playerId ≠ noPlayer)
    (hfound : station.game.roster.get? received.envelope.payload.playerId = some player) :
    answeredFor? limit (earlier.foldl (enlist limit) []) (now, .ping received)
      = some player.session := by
  obtain ⟨hmem, hid⟩ := Roster.get?_eq_some_iff.mp hfound
  have hnodup : (station.game.roster.sessions.map Session.id).Nodup := by
    rw [Roster.map_id_sessions]
    exact station.game.roster.nodup_ids
  rw [← h.sessions_eq]
  exact answeredFor?_ping now hnodup hplayer (List.mem_map_of_mem hmem) hid

theorem reply?_login {now : Nat}
    (hfor : answeredFor? limit (earlier.foldl (enlist limit) []) (now, .login received)
      = some player.session)
    (hplayer : player.nextMessage = UInt32.ofNat (timesAnswered limit earlier player.id)) :
    reply? limit earlier (now, .login received)
      = some ⟨.v4 received.envelope.payload.returnTo,
        Frame.wrap (loginReply player received player.nextMessage).body⟩ := by
  rw [reply?, hfor, hplayer]
  rfl

theorem reply?_ping {now : Nat} {received : Received Ping} {target : SocketAddress}
    (hfor : answeredFor? limit (earlier.foldl (enlist limit) []) (now, .ping received)
      = some player.session)
    (hplayer : player.nextMessage = UInt32.ofNat (timesAnswered limit earlier player.id))
    (hendpoint : player.endpoint = some target) :
    reply? limit earlier (now, .ping received)
      = some ⟨target, Frame.wrap (pingReply received player.nextMessage).body⟩ := by
  rw [reply?, hfor, hplayer]
  simp only [Option.bind_some, replyFor?, Player.session, hendpoint]
  rfl

end AnsweredFor

theorem answers_login {received : Received Login} {player : Player}
    (hfor : answeredFor? limit (earlier.foldl (enlist limit) []) (moment.now, .login received)
      = some player.session)
    (hnumbers : Numbers (timesAnswered limit earlier) station.game)
    (hplayer : player.nextMessage = UInt32.ofNat (timesAnswered limit earlier player.id)) :
    Answers limit earlier (moment.now, .login received) station.transport
      (answerLogin moment received player station) := by
  refine ⟨numbers_append hfor (hnumbers.answerLogin hplayer), ?_⟩
  rw [transport_answerLogin, transport_serve, reply?_login hfor hplayer]
  rfl

theorem Records.joining_numbered (h : Records limit earlier station.game)
    (hroom : station.game.roster.size < station.game.maxPlayers.toNat)
    (endpoint : Option SocketAddress) (now : Nat) :
    (Player.joining station.game.nextPlayerId endpoint now).nextMessage
      = UInt32.ofNat (timesAnswered limit earlier station.game.nextPlayerId) := by
  have hfree := h.table.nextPlayerId_notMem hroom
  rw [← Roster.map_id_sessions, h.sessions_eq] at hfree
  rw [timesAnswered_eq_zero hfree]
  rfl

theorem Records.numbers_opened (h : Records limit earlier station.game)
    (hroom : station.game.roster.size < station.game.maxPlayers.toNat) {endpoint : SocketAddress}
    {roster : Roster} {now : Nat} (hplayers : roster.players = station.game.roster.players
      ++ [.joining station.game.nextPlayerId (some endpoint) now]) :
    Numbers (timesAnswered limit earlier) (opened endpoint roster station).game := by
  intro player hmem
  change player ∈ roster.players at hmem
  rw [hplayers] at hmem
  rcases List.mem_append.mp hmem with hold | hnew
  · exact h.numbers player hold
  · rw [List.mem_singleton.mp hnew]
    exact h.joining_numbered hroom (some endpoint) now

theorem onLogin_answers (h : Records limit earlier station.game) (moment : Moment)
    (received : Received Login) :
    Answers limit earlier (moment.now, .login received) station.transport
      (onLogin moment received station) := by
  rcases onLogin_cases h.table moment received with
    ⟨player, hmem, hendpoint, hlogin⟩ | ⟨hnew, hfull, hlogin⟩
    | ⟨hnew, hroom, roster, hplayers, hlogin⟩
  · have htold : Numbers _ (station.tell (.playerReturned player.id
        (.v4 received.envelope.payload.returnTo))).game := h.numbers
    rw [hlogin]
    exact answers_login (h.answeredFor?_of_resumed moment.now hmem hendpoint) htold
      (h.numbers player hmem)
  · rw [hlogin]
    exact h.answers_tell (h.answeredFor?_of_full moment.now hnew hfull) _
  · rw [hlogin]
    exact answers_login (h.answeredFor?_of_room moment.now hnew hroom)
      (h.numbers_opened hroom hplayers) (h.joining_numbered hroom _ _)

theorem onPing_answers (h : Records limit earlier station.game) (moment : Moment)
    (received : Received Ping) :
    Answers limit earlier (moment.now, .ping received) station.transport
      (onPing moment received station) := by
  rcases onPing_cases moment received station with
    ⟨hnone, hping⟩ | ⟨hunknown, hping⟩ | ⟨hplayer, player, hfound, hping⟩
  · rw [hping]
    refine h.answers_tell ?_ _
    exact if_pos hnone
  · rw [hping]
    exact h.answers_tell (h.answeredFor?_of_unknown moment.now hunknown) _
  · have hmem := (Roster.get?_eq_some_iff.mp hfound).1
    have hnext := h.numbers player hmem
    have hfor := h.answeredFor?_of_known moment.now hplayer hfound
    obtain ⟨endpoint, hendpoint⟩ := h.table.endpoint_v4 hmem
    rw [hping]
    refine ⟨numbers_append hfor (h.numbers.serve hnext), ?_⟩
    rw [transport_serve, reply?_ping hfor hnext hendpoint, hendpoint]
    rfl

theorem handle_answers (h : Records limit earlier station.game) (moment : Moment) (event : Event) :
    Answers limit earlier (moment.now, event) station.transport (station.handle moment event) := by
  have htold : Records limit earlier (station.tell (.handling event.action event.sender)).game := h
  cases event with
  | login received => exact onLogin_answers htold moment received
  | ping received => exact onPing_answers htold moment received
  | acknowledge received => exact htold.answers_tell rfl _

theorem handle_records (h : Records limit earlier station.game) (moment : Moment) (event : Event) :
    Records limit (earlier ++ [(moment.now, event)]) (station.handle moment event).game :=
  h.of_enlists (handle_enlists h.table moment event) (handle_answers h moment event).numbers

/-- Handling events sends the replies to them. -/
theorem handleAll_answers (h : Records limit earlier station.game) (now : Nat)
    (events : List Event) :
    Records limit (earlier ++ events.map (now, ·)) (Station.handleAll now events station).game
    ∧ (Station.handleAll now events station).transport
      = station.transport.sendAll (replies limit earlier (events.map (now, ·))) := by
  induction events generalizing earlier station with
  | nil =>
    rw [List.map_nil, List.append_nil]
    exact ⟨h, rfl⟩
  | cons event rest ih =>
    obtain ⟨hrecords, htransport⟩ := ih (handle_records h ⟨now, rest.length⟩ event)
    rw [List.append_assoc] at hrecords
    refine ⟨hrecords, ?_⟩
    rw [Station.handleAll, htransport, (handle_answers h ⟨now, rest.length⟩ event).transport_eq]
    exact (List.foldl_append ..).symm

theorem transport_onTick (moment : Moment) (station : Station Server) :
    (onTick moment station).1.transport = station.transport := by
  unfold onTick
  dsimp only
  split_ifs <;> rfl

variable {loop : GameLoop Server}

theorem transport_tick (now : Nat) :
    (loop.tick now).1.transport = (Station.handleAll now loop.inbox loop.counted).transport :=
  transport_onTick ..

theorem Records.counted (h : Records limit earlier loop.game) :
    Records limit earlier loop.counted.game :=
  ⟨⟨h.table.1, h.table.2, h.table.3⟩, h.maxPlayers_eq, h.sessions_eq, h.numbers⟩

theorem tick_answers (h : Records limit earlier loop.game) (now : Nat) :
    Records limit (earlier ++ loop.inbox.map (now, ·)) (loop.tick now).1.game
    ∧ (loop.tick now).1.transport
      = loop.transport.sendAll (replies limit earlier (loop.inbox.map (now, ·))) := by
  rw [game_tick, transport_tick]
  exact handleAll_answers h.counted now loop.inbox

theorem run_records (h : Records limit earlier loop.game) (inputs : List GameLoop.Input) :
    Records limit (earlier ++ loop.handed inputs) (loop.run inputs).game := by
  induction inputs generalizing earlier loop with
  | nil => rwa [GameLoop.handed, List.append_nil]
  | cons input rest ih =>
    have hstep : Records limit (earlier ++ loop.handedBy input) (loop.step input).game := by
      cases input with
      | datagram datagram =>
        rw [GameLoop.step, GameLoop.onDatagram_eq, GameLoop.handedBy, List.append_nil]
        exact h
      | tick now => exact (tick_answers h now).1
    have hrest := ih hstep
    rwa [List.append_assoc] at hrest

/-- In every state that a server reaches, what a tick sends while sends go out is the replies to
the waiting events, in order: one for each event that is answerable by the table as the events
before left it, and none for any other. -/
theorem tick_sends_replies (params : GameParams) (fails : Nat → Bool)
    (inputs : List GameLoop.Input) (now : Nat) :
    let start : GameLoop Server := .start params {} { fails }
    let loop := start.run inputs
    let limit := params.maxPlayers.toNat
    let earlier := start.handed inputs
    ((∀ number, loop.transport.attempts ≤ number → loop.transport.fails number = false) →
      (loop.tick now).1.transport.sent
        = loop.transport.sent ++ replies limit earlier (loop.inbox.map (now, ·)))
    ∧ ∀ front event back, loop.inbox = front ++ event :: back →
      let before := earlier ++ front.map (now, ·)
      let sessions := (Station.handleAll now front loop.counted).game.roster.sessions
      sessions = before.foldl (enlist limit) []
      ∧ ((reply? limit before (now, event)).isSome ↔ Answerable limit sessions event) := by
  intro start loop limit earlier
  have hstart : Records limit [] start.game := .ofParams params
  have hrecords : Records limit earlier loop.game := run_records hstart inputs
  refine ⟨fun hworks => ?_, fun front event back _ => ?_⟩
  · rw [(tick_answers hrecords now).2]
    exact Transport.sent_sendAll hworks
  · intro before sessions
    -- the events in front of it are handled first, which leaves the table they enlist
    have hfront := (handleAll_answers hrecords.counted now front).1
    have hsessions : sessions = before.foldl (enlist limit) [] := hfront.sessions_eq
    have hnumbered := hfront.table.numbered
    rw [hfront.sessions_eq] at hnumbered
    refine ⟨hsessions, ?_⟩
    rw [hsessions]
    exact isSome_reply?_iff hnumbered (now, event)

def firstLogin : Received Login :=
  ⟨.v4 ⟨.localhost, 7⟩, (Envelope.ofPayload { returnTo := ⟨.localhost, 40000⟩ } 9).stamped⟩

def firstPing : Received Ping :=
  ⟨.v4 ⟨.localhost, 7⟩, (Envelope.ofPayload { playerId := 1, lastAckId := 3 } 9).stamped⟩

def firstArrivals : List GameLoop.Input :=
  [.datagram ⟨firstLogin.sender, Frame.wrap firstLogin.envelope.body⟩,
    .datagram ⟨firstPing.sender, Frame.wrap firstPing.envelope.body⟩]

def waitingFirst : GameLoop Server :=
  (GameLoop.start {} ({} : Server) { fails := fun _ => false }).run firstArrivals

theorem waitingFirst_eq : waitingFirst.inbox = [.login firstLogin, .ping firstPing]
    ∧ waitingFirst.transport = { fails := fun _ => false } := by
  simp only [waitingFirst, firstArrivals, GameLoop.run, List.foldl_cons, List.foldl_nil,
    GameLoop.step, GameLoop.onDatagram_eq]
  exact ⟨by decide, rfl⟩

/-- Both events are answered in one tick, the ping for the session that the login opens. -/
theorem tick_answers_login_and_ping :
    (∀ number, waitingFirst.transport.attempts ≤ number →
      waitingFirst.transport.fails number = false)
    ∧ (waitingFirst.tick 5).1.transport.sent
      = [⟨.v4 ⟨.localhost, 40000⟩, Frame.wrap (Envelope.ofPayload
            { session := 1, returnTo := ⟨.localhost, 40000⟩ : Login } 0).body⟩,
        ⟨.v4 ⟨.localhost, 40000⟩,
          Frame.wrap (Envelope.ofPayload { ackedId := 3 : Acknowledge } 1).body⟩]
    ∧ waitingFirst.inbox = [.login firstLogin] ++ .ping firstPing :: []
    ∧ Answerable 8
      (Station.handleAll 5 [.login firstLogin] waitingFirst.counted).game.roster.sessions
      (.ping firstPing) := by
  obtain ⟨hinbox, htransport⟩ := waitingFirst_eq
  have hworks : ∀ number, waitingFirst.transport.attempts ≤ number →
      waitingFirst.transport.fails number = false := by
    rw [htransport]
    exact fun _ _ => rfl
  have hhanded : (GameLoop.start {} ({} : Server) { fails := fun _ => false }).handed firstArrivals
      = [] := rfl
  obtain ⟨hsent, hanswers⟩ := tick_sends_replies {} (fun _ => false) firstArrivals 5
  refine ⟨hworks, (hsent hworks).trans ?_, hinbox, ?_⟩
  · change waitingFirst.transport.sent ++ replies 8 _ (waitingFirst.inbox.map (5, ·)) = _
    rw [hinbox, htransport, hhanded]
    decide
  · refine (hanswers [.login firstLogin] (.ping firstPing) [] hinbox).2.mp ?_
    rw [hhanded]
    decide

end Records

end Server

end GridSession
