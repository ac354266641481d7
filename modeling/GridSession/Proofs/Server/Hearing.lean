import GridSession.Proofs.Game.Unsent
import GridSession.Proofs.Server.Activity
import GridSession.Proofs.Server.Retained

namespace GridSession

namespace Transport

/-- Whether each of these sends fails is for its datagram alone to say. -/
def SettledBy (transport : Transport) (condition : Outgoing → Bool) (tried : List Outgoing) :
    Prop :=
  ∀ numbered ∈ tried.zipIdx transport.attempts,
    transport.fails numbered.2 = condition numbered.1

variable {transport : Transport} {condition : Outgoing → Bool} {tried more : List Outgoing}

theorem settledBy_append :
    transport.SettledBy condition (tried ++ more)
      ↔ transport.SettledBy condition tried
        ∧ (transport.sendAll tried).SettledBy condition more := by
  simp only [SettledBy, List.zipIdx_append, List.forall_mem_append, fails_sendAll,
    attempts_sendAll]

theorem SettledBy.fails_attempts {outgoing : Outgoing}
    (h : transport.SettledBy condition [outgoing]) :
    transport.fails transport.attempts = condition outgoing :=
  h (outgoing, transport.attempts) (by simp)

theorem SettledBy.sent_sendAll (h : transport.SettledBy condition tried) :
    (transport.sendAll tried).sent
      = transport.sent ++ tried.filter fun outgoing => !condition outgoing := by
  have hthrough : (tried.zipIdx transport.attempts).filter
        (fun numbered => !transport.fails numbered.2)
      = (tried.zipIdx transport.attempts).filter fun numbered => !condition numbered.1 := by
    apply List.filter_congr
    intro numbered hmem
    rw [h numbered hmem]
  -- with the condition in place of the schedule nothing looks at the numbers any more
  rw [sent_sendAll_eq_letThrough, letThrough, hthrough]
  conv_rhs => rw [← tried.zipIdx_map_fst transport.attempts, List.filter_map]
  rfl

end Transport

def Player.answered (player : Player) (now : Nat) (failed : Bool) (bytes : Bytes) : Player :=
  { player with
    lastMessage := now
    nextMessage := player.nextMessage + 1
    sent := if failed then player.sent else player.sent.insert player.nextMessage bytes }

namespace Server

/-- The event opens no session, for a login that it may be names an endpoint with a session. -/
def Known (sessions : List Session) (event : Event) : Prop :=
  ∀ received, event = .login received →
    some (.v4 received.envelope.payload.returnTo) ∈ sessions.map Session.endpoint

/-- Sessions that are told apart by their ids and by their endpoints alike. -/
structure Distinct (sessions : List Session) : Prop where
  nodup_ids : (sessions.map Session.id).Nodup
  nodup_endpoints : (sessions.map Session.endpoint).Nodup

theorem Table.distinct {game : Game} (h : Table game) : Distinct game.roster.sessions := by
  refine ⟨?_, h.numbered.nodup_endpoints⟩
  rw [Roster.map_id_sessions]
  exact game.roster.nodup_ids

def repliesFrom (session : Session) : UInt32 → List Event → List Outgoing
  | _, [] => []
  | id, event :: rest => (replyFor? session id event).toList ++ repliesFrom session (id + 1) rest

section Heard

variable {limit : Nat} {sessions : List Session} {session other : Session} {event : Event}

theorem enlist_of_known (h : Known sessions event) (now : Nat) :
    enlist limit sessions (now, event) = sessions := by
  cases event with
  | login received => exact if_pos (.inl (h received rfl))
  | ping | acknowledge => rfl

/-- No event names two sessions. -/
theorem Distinct.eq_of_heardIn (h : Distinct sessions) (hmem : session ∈ sessions)
    (hother : other ∈ sessions) (hheard : session.HeardIn event) (hheard' : other.HeardIn event) :
    session = other := by
  cases event with
  | login received =>
    exact List.inj_on_of_nodup_map h.nodup_endpoints hmem hother (hheard.trans hheard'.symm)
  | ping received =>
    exact List.inj_on_of_nodup_map h.nodup_ids hmem hother (hheard.2.symm.trans hheard'.2)
  | acknowledge received => cases hheard

theorem answeredFor?_of_heardIn (h : Distinct sessions) (hmem : session ∈ sessions)
    (hheard : session.HeardIn event) (now : Nat) :
    answeredFor? limit sessions (now, event) = some session := by
  cases event with
  | login received => exact answeredFor?_login_of_mem now h.nodup_endpoints hmem hheard
  | ping received =>
    exact answeredFor?_ping now h.nodup_ids hheard.1 hmem hheard.2.symm
  | acknowledge received => cases hheard

theorem heardIn_of_answeredFor? (hknown : Known sessions event) {now : Nat}
    (h : answeredFor? limit sessions (now, event) = some session) :
    session ∈ sessions ∧ session.HeardIn event := by
  have hmem := mem_enlist_of_answeredFor? h
  -- the login names a session there is, so nobody joins before it is answered
  rw [enlist_of_known hknown] at hmem
  refine ⟨hmem, ?_⟩
  cases event with
  | login received =>
    have hendpoint : session.endpoint = some (.v4 received.envelope.payload.returnTo) := by
      simpa using List.find?_some h
    exact hendpoint
  | ping received =>
    simp only [answeredFor?] at h
    split_ifs at h with hnone
    have hid : session.id = received.envelope.payload.playerId := by
      simpa using List.find?_some h
    exact ⟨hnone, hid.symm⟩
  | acknowledge received => cases h

theorem target_of_replyFor? (hheard : session.HeardIn event) {id : UInt32} {outgoing : Outgoing}
    (h : replyFor? session id event = some outgoing) : some outgoing.target = session.endpoint := by
  cases event with
  | login received =>
    cases h
    exact hheard.symm
  | ping received =>
    obtain ⟨target, hendpoint, rfl⟩ := Option.map_eq_some_iff.mp h
    exact hendpoint.symm
  | acknowledge received => cases h

theorem filter_isTo_replyFor? (hheard : session.HeardIn event) (id : UInt32) :
    (replyFor? session id event).toList.filter (Outgoing.isTo session.endpoint)
      = (replyFor? session id event).toList := by
  apply List.filter_eq_self.mpr
  intro outgoing hmem
  exact beq_iff_eq.mpr (target_of_replyFor? hheard (Option.mem_toList.mp hmem))

end Heard

section Replies

variable {limit : Nat} {sessions : List Session} {session : Session} {earlier : List (Nat × Event)}
  {event : Event}

theorem reply?_of_heardIn (hdistinct : Distinct sessions) (hmem : session ∈ sessions)
    (hearlier : earlier.foldl (enlist limit) [] = sessions) (hheard : session.HeardIn event)
    (now : Nat) :
    reply? limit earlier (now, event)
        = replyFor? session (UInt32.ofNat (timesAnswered limit earlier session.id)) event
      ∧ timesAnswered limit (earlier ++ [(now, event)]) session.id
        = timesAnswered limit earlier session.id + 1 := by
  have hfor : answeredFor? limit (earlier.foldl (enlist limit) []) (now, event) = some session := by
    rw [hearlier]
    exact answeredFor?_of_heardIn hdistinct hmem hheard now
  rw [reply?, hfor, Option.bind_some, timesAnswered_append_of_some hfor, if_pos rfl]
  exact ⟨rfl, rfl⟩

theorem reply?_of_not_heardIn (hdistinct : Distinct sessions) (hmem : session ∈ sessions)
    (hearlier : earlier.foldl (enlist limit) [] = sessions) (hknown : Known sessions event)
    (hheard : ¬ session.HeardIn event) (now : Nat) :
    (reply? limit earlier (now, event)).toList.filter (Outgoing.isTo session.endpoint) = []
      ∧ timesAnswered limit (earlier ++ [(now, event)]) session.id
        = timesAnswered limit earlier session.id := by
  cases hfor : answeredFor? limit (earlier.foldl (enlist limit) []) (now, event) with
  | none => simp [reply?, hfor, timesAnswered_append_of_none hfor]
  | some other =>
    have hother := hfor
    rw [hearlier] at hother
    obtain ⟨hothermem, hotherheard⟩ := heardIn_of_answeredFor? hknown hother
    -- the reply is for another session, with another id and another endpoint
    have hne : other ≠ session := fun hsame => hheard (hsame ▸ hotherheard)
    have hid : other.id ≠ session.id := fun hsame =>
      hne (List.inj_on_of_nodup_map hdistinct.nodup_ids hothermem hmem hsame)
    refine ⟨?_, ?_⟩
    · rw [reply?, hfor, Option.bind_some, List.filter_eq_nil_iff]
      intro outgoing hreply hto
      have htarget := target_of_replyFor? hotherheard (Option.mem_toList.mp hreply)
      have hendpoint : other.endpoint = session.endpoint := by
        rw [← htarget]
        exact eq_of_beq hto
      exact hne (List.inj_on_of_nodup_map hdistinct.nodup_endpoints hothermem hmem hendpoint)
    · rw [timesAnswered_append_of_some hfor, if_neg hid, Nat.add_zero]

theorem filter_isTo_replies (hdistinct : Distinct sessions) (hmem : session ∈ sessions) (now : Nat)
    {events : List Event} (hknown : ∀ event ∈ events, Known sessions event)
    (hearlier : earlier.foldl (enlist limit) [] = sessions) :
    (replies limit earlier (events.map (now, ·))).filter (Outgoing.isTo session.endpoint)
      = repliesFrom session (UInt32.ofNat (timesAnswered limit earlier session.id))
        (events.filter (session.HeardIn ·)) := by
  -- what was handled before grows by each event, but the count only by those of the session
  induction events generalizing earlier with
  | nil => rfl
  | cons event rest ih =>
    have hevent := hknown event List.mem_cons_self
    have hlater : (earlier ++ [(now, event)]).foldl (enlist limit) [] = sessions := by
      rw [List.foldl_append, hearlier]
      exact enlist_of_known hevent now
    have hrest := ih (fun other hother => hknown other (List.mem_cons_of_mem _ hother)) hlater
    rw [List.map_cons, replies, List.filter_append, hrest]
    by_cases hheard : session.HeardIn event
    · obtain ⟨hreply, htimes⟩ := reply?_of_heardIn hdistinct hmem hearlier hheard now
      rw [hreply, htimes, filter_isTo_replyFor? hheard,
        List.filter_cons_of_pos (by simpa using hheard), repliesFrom, UInt32.ofNat_add _ 1]
      rfl
    · obtain ⟨hreply, htimes⟩ := reply?_of_not_heardIn hdistinct hmem hearlier hevent hheard now
      rw [hreply, htimes, List.nil_append, List.filter_cons_of_neg (by simpa using hheard)]

end Replies

section Players

variable {station : Station Server} {player : Player}

theorem game_serve {α : Type} [Payload α] {target : SocketAddress} {reply : UInt32 → Envelope α}
    (hreply : (reply player.nextMessage).message.id = player.nextMessage) (now : Nat) :
    (serve now player target reply station).1.game
      = { station.game with
          roster := station.game.roster.replace (player.answered now
            (station.transport.fails station.transport.attempts)
            (Frame.wrap (reply player.nextMessage).body)) } := by
  have hserve : (serve now player target reply station).1.game
      = { station.game with
          roster := station.game.roster.replace ((player.touch now).takeMessageId.2.sendTracked
            station.transport target (reply player.nextMessage)).player } := rfl
  rw [hserve, Player.sendTracked_eq, Transport.send]
  split_ifs with hfails
  · rw [hfails]
    rfl
  · rw [Bool.eq_false_iff.mpr hfails, hreply]
    rfl

/-- What an event makes of a player. The condition tells whether the send of a reply fails. -/
def hear (condition : Outgoing → Bool) (now : Nat) (player : Player) (event : Event) : Player :=
  if player.session.HeardIn event then
    match replyFor? player.session player.nextMessage event with
    | none => player
    | some outgoing => player.answered now (condition outgoing) outgoing.bytes
  else player

theorem session_hear (condition : Outgoing → Bool) (now : Nat) (player : Player) (event : Event) :
    (hear condition now player event).session = player.session := by
  unfold hear
  split_ifs
  · cases replyFor? player.session player.nextMessage event <;> rfl
  · rfl

/-- A player takes notice of the events only in which it is heard. -/
theorem foldl_hear_eq (condition : Outgoing → Bool) (now : Nat) (player : Player)
    (events : List Event) :
    events.foldl (hear condition now) player
      = (events.filter (player.session.HeardIn ·)).foldl (hear condition now) player := by
  induction events generalizing player with
  | nil => rfl
  | cons event rest ih =>
    by_cases hheard : player.session.HeardIn event
    · rw [List.filter_cons_of_pos (by simpa using hheard), List.foldl_cons, List.foldl_cons, ih,
        session_hear]
    · have hskip : hear condition now player event = player := if_neg hheard
      rw [List.filter_cons_of_neg (by simpa using hheard), List.foldl_cons, hskip, ih]

/-- After these events every player is what they made of it, and the game is the same otherwise. -/
structure Heard (condition : Outgoing → Bool) (now : Nat) (events : List Event)
    (game after : Game) : Prop where
  rest_eq : { after with roster := game.roster } = game
  players_eq : after.roster.players
    = game.roster.players.map fun player => events.foldl (hear condition now) player

section Heard

variable {condition : Outgoing → Bool} {now : Nat} {events more : List Event} {event : Event}
  {game middle after twin : Game}

theorem Heard.trans (h : Heard condition now events game middle)
    (hmore : Heard condition now more middle after) :
    Heard condition now (events ++ more) game after := by
  obtain ⟨hrest, hplayers⟩ := h
  obtain ⟨hlater, hheard⟩ := hmore
  refine ⟨?_, ?_⟩
  · rw [← hrest, ← hlater]
  · rw [hheard, hplayers, List.map_map]
    simp only [List.foldl_append]
    rfl

/-- What the same players take notice of in the same order leaves the same game. -/
theorem Heard.eq (h : Heard condition now events game after)
    (htwin : Heard condition now more game twin)
    (hsame : ∀ session ∈ game.roster.sessions,
      events.filter (session.HeardIn ·) = more.filter (session.HeardIn ·)) : after = twin := by
  have hroster : after.roster = twin.roster := by
    apply Roster.eq_of_players
    rw [h.players_eq, htwin.players_eq]
    apply List.map_congr_left
    intro player hmem
    rw [foldl_hear_eq condition now player events, foldl_hear_eq condition now player more,
      hsame _ (List.mem_map_of_mem hmem)]
  calc after = { { after with roster := game.roster } with roster := after.roster } := rfl
    _ = { { twin with roster := game.roster } with roster := twin.roster } := by
      rw [h.rest_eq, htwin.rest_eq, hroster]
    _ = twin := rfl

theorem Heard.of_unheard (h : ∀ player ∈ game.roster.players, ¬ player.session.HeardIn event) :
    Heard condition now [event] game game := by
  refine ⟨rfl, (List.map_id _).symm.trans ?_⟩
  apply List.map_congr_left
  intro player hmem
  exact (if_neg (h player hmem)).symm

theorem Heard.of_answered (hdistinct : Distinct game.roster.sessions)
    (hmem : player ∈ game.roster.players) (hheard : player.session.HeardIn event)
    {outgoing : Outgoing}
    (hreply : replyFor? player.session player.nextMessage event = some outgoing) :
    Heard condition now [event] game
      { game with
        roster := game.roster.replace
          (player.answered now (condition outgoing) outgoing.bytes) } := by
  refine ⟨rfl, ?_⟩
  apply List.map_congr_left
  intro other hother
  have hid : (player.answered now (condition outgoing) outgoing.bytes).id = player.id := rfl
  -- the roster goes by ids and hearing by sessions, and nobody else has either of the player
  rw [List.foldl_cons, List.foldl_nil, hear, hid]
  split_ifs with hsame hother' hother'
  · obtain rfl := List.inj_on_of_nodup_map game.roster.nodup_ids hother hmem hsame
    rw [hreply]
  · obtain rfl := List.inj_on_of_nodup_map game.roster.nodup_ids hother hmem hsame
    exact absurd hheard hother'
  · have hsession := hdistinct.eq_of_heardIn (List.mem_map_of_mem hother)
      (List.mem_map_of_mem hmem) hother' hheard
    exact absurd (congrArg Session.id hsession) hsame
  · rfl

end Heard

section Handle

variable {condition : Outgoing → Bool} {limit : Nat} {earlier : List (Nat × Event)}
  {moment : Moment}

theorem onLogin_heard (h : Records limit earlier station.game) (received : Received Login)
    (hknown : Known station.game.roster.sessions (.login received))
    (hsettled : station.transport.SettledBy condition
      (reply? limit earlier (moment.now, .login received)).toList) :
    Heard condition moment.now [.login received] station.game
      (onLogin moment received station).game := by
  rcases onLogin_cases h.table moment received with
    ⟨player, hmem, hendpoint, hlogin⟩ | ⟨hnew, -⟩ | ⟨hnew, -⟩
  · rw [reply?_login (h.answeredFor?_of_resumed moment.now hmem hendpoint)
      (h.numbers player hmem)] at hsettled
    have hheard : player.session.HeardIn (.login received) := hendpoint
    have hreply : replyFor? player.session player.nextMessage (.login received)
        = some ⟨.v4 received.envelope.payload.returnTo,
          Frame.wrap (loginReply player received player.nextMessage).body⟩ := rfl
    have hanswered : Heard condition moment.now [.login received] station.game _ :=
      .of_answered h.table.distinct hmem hheard hreply
    rw [← hsettled.fails_attempts] at hanswered
    rw [hlogin, game_answerLogin, game_serve rfl]
    exact hanswered
  · exact absurd (hknown received rfl) hnew
  · exact absurd (hknown received rfl) hnew

theorem onPing_heard (h : Records limit earlier station.game) (received : Received Ping)
    (hsettled : station.transport.SettledBy condition
      (reply? limit earlier (moment.now, .ping received)).toList) :
    Heard condition moment.now [.ping received] station.game
      (onPing moment received station).game := by
  rcases onPing_cases moment received station with
    ⟨hnone, hping⟩ | ⟨hunknown, hping⟩ | ⟨hplayer, player, hfound, hping⟩
  · rw [hping]
    exact .of_unheard fun _ _ hheard => hheard.1 hnone
  · rw [hping]
    -- nobody is heard in a ping for a player who is not there
    refine .of_unheard fun player hmem hheard => ?_
    rw [Roster.get?_eq_some_iff.mpr ⟨hmem, hheard.2.symm⟩] at hunknown
    cases hunknown
  · obtain ⟨hmem, hid⟩ := Roster.get?_eq_some_iff.mp hfound
    obtain ⟨endpoint, hendpoint⟩ := h.table.endpoint_v4 hmem
    rw [reply?_ping (h.answeredFor?_of_known moment.now hplayer hfound) (h.numbers player hmem)
      hendpoint] at hsettled
    have hheard : player.session.HeardIn (.ping received) := ⟨hplayer, hid.symm⟩
    have hreply : replyFor? player.session player.nextMessage (.ping received)
        = some ⟨.v4 endpoint, Frame.wrap (pingReply received player.nextMessage).body⟩ :=
      Option.map_eq_some_iff.mpr ⟨.v4 endpoint, hendpoint, rfl⟩
    have hanswered : Heard condition moment.now [.ping received] station.game _ :=
      .of_answered h.table.distinct hmem hheard hreply
    rw [← hsettled.fails_attempts] at hanswered
    rw [hping, game_serve rfl]
    exact hanswered

theorem handle_heard (h : Records limit earlier station.game) (moment : Moment) {event : Event}
    (hknown : Known station.game.roster.sessions event)
    (hsettled : station.transport.SettledBy condition
      (reply? limit earlier (moment.now, event)).toList) :
    Heard condition moment.now [event] station.game (station.handle moment event).game := by
  have htold : Records limit earlier (station.tell (.handling event.action event.sender)).game := h
  cases event with
  | login received => exact onLogin_heard htold received hknown hsettled
  | ping received => exact onPing_heard htold received hsettled
  | acknowledge received => exact .of_unheard fun _ _ hheard => hheard

/-- Events that open no session make of every player what its own events make of it. -/
theorem handleAll_heard (h : Records limit earlier station.game) (now : Nat) {events : List Event}
    (hknown : ∀ event ∈ events, Known station.game.roster.sessions event)
    (hsettled : station.transport.SettledBy condition
      (replies limit earlier (events.map (now, ·)))) :
    Heard condition now events station.game (Station.handleAll now events station).game := by
  induction events generalizing earlier station with
  | nil => exact ⟨rfl, (List.map_id _).symm⟩
  | cons event rest ih =>
    obtain ⟨hfirst, hmore⟩ := Transport.settledBy_append.mp hsettled
    have hevent := hknown event List.mem_cons_self
    have hhandled := handle_heard h ⟨now, rest.length⟩ hevent hfirst
    -- no session was opened, so that the logins that come later still name those there are
    have hsessions : (station.handle ⟨now, rest.length⟩ event).game.roster.sessions
        = station.game.roster.sessions := by
      rw [(handle_enlists h.table ⟨now, rest.length⟩ event).sessions_eq]
      exact enlist_of_known hevent now
    refine hhandled.trans (ih (handle_records h ⟨now, rest.length⟩ event) ?_ ?_)
    · rw [hsessions]
      exact fun other hother => hknown other (List.mem_cons_of_mem _ hother)
    · rw [(handle_answers h ⟨now, rest.length⟩ event).transport_eq]
      exact hmore

end Handle

end Players

end Server

end GridSession
