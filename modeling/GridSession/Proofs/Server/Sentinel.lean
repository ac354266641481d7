import GridSession.Proofs.Server.Grants
import GridSession.Proofs.Server.Replies

namespace GridSession

namespace Envelope

theorem digest_body_one_ne {login : Login} :
    Digest.fnv1a (ofPayload login 1).body ≠ Digest.fnv1a (ofPayload login 0).body := by
  have hone : BigEndian.toBytes 4 (1 : UInt32).toNat = [0, 0, 0, 1] := by decide
  have hzero : BigEndian.toBytes 4 (0 : UInt32).toNat = [0, 0, 0, 0] := by decide
  have hcode : BigEndian.toBytes 4 (Payload.action Login).code = [0, 0, 0, 2] := by decide
  -- the bodies differ in the last octet of the id alone
  have hset : (ofPayload login 1).body = (ofPayload login 0).body.set 7 1 := by
    rw [body_eq_append, body_eq_append]
    simp only [ofPayload, hone, hzero, hcode]
    rfl
  have hold : (ofPayload login 0).body[7]? = some 0 := by
    rw [body_eq_append]
    simp only [ofPayload, hzero, hcode]
    rfl
  rw [hset]
  apply Digest.fnv1a_set_ne
  · rw [length_body]
    decide
  · rw [hold]
    decide

end Envelope

namespace Server

/-- Nothing is known under the id of no player: it is not in the table, every login that was sent
tells a session, and no ping for a player of the table is dropped as one for no player. -/
structure SparesNoPlayer (station : Station Server) : Prop where
  ids : noPlayer ∉ station.game.roster.ids
  logins : ∀ outgoing ∈ station.transport.sent, ∀ login : Envelope Login,
    outgoing.bytes = Frame.wrap login.body → login.payload.hasSession
  pings : ∀ (moment : Moment) (received : Received Ping) (player : Player),
    station.game.roster.get? received.envelope.payload.playerId = some player →
    (station.handle moment (.ping received)).journal.getLast?
      ≠ some (.pingWithoutPlayer received.sender)

/-- Whatever was sent is a reply for a session of the table. -/
def Accounted (station : Station Server) : Prop :=
  ∀ outgoing ∈ station.transport.sent, ∃ session ∈ station.game.roster.sessions, ∃ id event,
    replyFor? session id event = some outgoing

section Accounted

variable {limit : Nat} {earlier events : List (Nat × Event)} {station : Station Server}
  {loop : GameLoop Server}

theorem mem_replies {outgoing : Outgoing} (h : outgoing ∈ replies limit earlier events) :
    ∃ session ∈ (earlier ++ events).foldl (enlist limit) [], ∃ id event,
      replyFor? session id event = some outgoing := by
  induction events generalizing earlier with
  | nil => exact absurd h List.not_mem_nil
  | cons event rest ih =>
    rcases List.mem_append.mp h with hfirst | hrest
    · obtain ⟨session, hfor, hreply⟩ := Option.bind_eq_some_iff.mp (Option.mem_toList.mp hfirst)
      refine ⟨session, ?_, _, event.2, hreply⟩
      rw [List.foldl_append]
      exact (prefix_foldl_enlist rest).subset (mem_enlist_of_answeredFor? hfor)
    · obtain ⟨session, hmem, hreply⟩ := ih hrest
      rw [List.append_assoc] at hmem
      exact ⟨session, hmem, hreply⟩

theorem handleAll_accounted (h : Records limit earlier station.game) (hsent : Accounted station)
    (now : Nat) (events : List Event) : Accounted (Station.handleAll now events station) := by
  obtain ⟨hrecords, htransport⟩ := handleAll_answers h now events
  intro outgoing hmem
  rw [htransport] at hmem
  rw [hrecords.sessions_eq]
  rcases Transport.mem_sent_sendAll hmem with hold | hnew
  · obtain ⟨session, hsession, hreply⟩ := hsent outgoing hold
    rw [h.sessions_eq] at hsession
    refine ⟨session, ?_, hreply⟩
    rw [List.foldl_append]
    exact (prefix_foldl_enlist _).subset hsession
  · exact mem_replies hnew

theorem tick_accounted (h : Records limit earlier loop.game) (hsent : Accounted loop.toStation)
    (now : Nat) : Accounted (loop.tick now).1.toStation := by
  unfold Accounted
  rw [game_tick, transport_tick]
  exact handleAll_accounted h.counted hsent now loop.inbox

theorem run_accounted (h : Records limit earlier loop.game) (hsent : Accounted loop.toStation)
    (inputs : List GameLoop.Input) : Accounted (loop.run inputs).toStation := by
  induction inputs generalizing earlier loop with
  | nil => exact hsent
  | cons input rest ih =>
    cases input with
    | datagram datagram =>
      have harrived : loop.step (.datagram datagram) = _ := GameLoop.onDatagram_eq loop datagram
      have hrecords : Records limit earlier (loop.step (.datagram datagram)).game := by
        rw [harrived]
        exact h
      have haccounted : Accounted (loop.step (.datagram datagram)).toStation := by
        rw [harrived]
        exact hsent
      exact ih hrecords haccounted
    | tick now => exact ih (tick_answers h now).1 (tick_accounted h hsent now)

end Accounted

section Spares

variable {station : Station Server}

/-- The id of no player is the last of the ids, so the table has it when it has all of them. -/
theorem Table.noPlayer_mem_ids_iff {game : Game} (h : Table game) :
    noPlayer ∈ game.roster.ids ↔ game.roster.size = 4294967295 := by
  have hlimit : game.maxPlayers.toNat < UInt32.size := game.maxPlayers.toNat_lt
  have hsize : game.roster.size < UInt32.size := Nat.lt_of_le_of_lt h.size_le hlimit
  rw [← Roster.map_id_sessions, h.numbered.mem_ids_iff (by rwa [Roster.length_sessions]),
    Roster.length_sessions]
  have hlast : noPlayer.toNat = 4294967295 := rfl
  rw [hlast]
  rw [UInt32.size] at hsize
  omega

theorem hasSession_of_replyFor? {session : Session} {id : UInt32} {event : Event}
    {outgoing : Outgoing} {login : Envelope Login} (hid : session.id ≠ noPlayer)
    (hreply : replyFor? session id event = some outgoing)
    (hbytes : outgoing.bytes = Frame.wrap login.body) : login.payload.hasSession := by
  cases event with
  | login received =>
    obtain rfl := Option.some.inj hreply
    rw [← Envelope.payload_eq_of_wrap_body hbytes]
    exact bne_iff_ne.mpr hid
  | ping received =>
    -- no acknowledgment is a login as well
    obtain ⟨target, -, rfl⟩ := Option.map_eq_some_iff.mp hreply
    exact absurd (Envelope.code_eq_of_wrap_body hbytes) (by decide)
  | acknowledge received => cases hreply

theorem getLast?_journal_tell (note : Note) : (station.tell note).journal.getLast? = some note :=
  List.getLast?_concat

theorem getLast?_journal_serve {α : Type} [Payload α] (now : Nat) (player : Player)
    (target : SocketAddress) (reply : UInt32 → Envelope α) (station : Station Server) :
    ∃ note, (serve now player target reply station).1.journal.getLast? = some note
      ∧ ¬ note.DropsPing := by
  refine ⟨_, List.getLast?_concat, ?_⟩
  rcases Player.note_sendTracked (player.touch now).takeMessageId.2 station.transport target
    (reply player.nextMessage) with hnote | ⟨error, hnote⟩
  · exact hnote ▸ not_false
  · exact hnote ▸ not_false

theorem getLast?_journal_handle_ping (moment : Moment) (received : Received Ping) :
    (station.handle moment (.ping received)).journal.getLast?
        = some (.pingWithoutPlayer received.sender)
      ↔ received.envelope.payload.playerId = noPlayer := by
  let told := station.tell (.handling .ping received.sender)
  change (onPing moment received told).journal.getLast? = _ ↔ _
  by_cases hnone : received.envelope.payload.playerId = noPlayer
  · have hping : onPing moment received told = told.tell (.pingWithoutPlayer received.sender) :=
      if_pos hnone
    rw [hping, getLast?_journal_tell]
    exact iff_of_true rfl hnone
  · refine iff_of_false (fun hlast => ?_) hnone
    -- whatever else becomes of the ping, what is told last is another note
    rcases onPing_cases moment received told with
      ⟨hnone', -⟩ | ⟨-, hping⟩ | ⟨-, player, -, hping⟩
    · exact hnone hnone'
    · rw [hping, getLast?_journal_tell] at hlast
      cases hlast
    · obtain ⟨note, hserved, hnote⟩ := getLast?_journal_serve moment.now player
        (player.endpoint.getD received.sender) (pingReply received) told
      rw [hping, hserved] at hlast
      cases hlast
      exact hnote trivial

theorem sparesNoPlayer_iff (h : Table station.game) (hsent : Accounted station) :
    SparesNoPlayer station ↔ station.game.roster.size ≠ 4294967295 := by
  rw [ne_eq, ← h.noPlayer_mem_ids_iff]
  refine ⟨SparesNoPlayer.ids, fun hids => ⟨hids, ?_, ?_⟩⟩
  · intro outgoing hmem login hbytes
    obtain ⟨session, hsession, id, event, hreply⟩ := hsent outgoing hmem
    refine hasSession_of_replyFor? (fun hnone => hids ?_) hreply hbytes
    rw [← hnone, ← Roster.map_id_sessions]
    exact List.mem_map_of_mem hsession
  · intro moment received player hfound
    obtain ⟨hmem, hid⟩ := Roster.get?_eq_some_iff.mp hfound
    rw [ne_eq, getLast?_journal_handle_ping]
    refine fun hnone => hids ?_
    rw [← hnone, ← hid]
    exact List.mem_map_of_mem hmem

end Spares

/-- At every point of every run, between the events of a tick as well, the id of no player is spared
exactly if the table does not have all ids there are. So it always is, unless there is room for a
session under every id. -/
theorem run_sparesNoPlayer_iff (params : GameParams) (fails : Nat → Bool)
    (inputs : List GameLoop.Input) (now taken : Nat) :
    let loop := (GameLoop.start params ({} : Server) { fails }).run inputs
    let station := Station.handleAll now (loop.inbox.take taken) loop.counted
    (SparesNoPlayer station ↔ station.game.roster.size ≠ 4294967295)
    ∧ (params.maxPlayers ≠ 0xFFFFFFFF → SparesNoPlayer station) := by
  intro loop station
  have hstart : Records params.maxPlayers.toNat []
      (GameLoop.start params ({} : Server) { fails }).game := .ofParams params
  have hloop : Records params.maxPlayers.toNat _ loop.game := run_records hstart inputs
  have hrecords := (handleAll_answers hloop.counted now (loop.inbox.take taken)).1
  have hsent : Accounted loop.counted :=
    run_accounted hstart (fun _ hmem => absurd hmem List.not_mem_nil) inputs
  have hiff := sparesNoPlayer_iff hrecords.table (handleAll_accounted hloop.counted hsent now _)
  refine ⟨hiff, fun hlimit => hiff.mpr fun hfull => hlimit ?_⟩
  -- a table never outgrows its limit, and a limit has 32 bits
  have hsize := hrecords.table.size_le
  rw [hfull, hrecords.maxPlayers_eq] at hsize
  have hlt := params.maxPlayers.toNat_lt
  apply UInt32.toNat_inj.mp
  change params.maxPlayers.toNat = 4294967295
  omega

theorem waitingFirst_sparesNoPlayer :
    let station := Station.handleAll 5 (waitingFirst.inbox.take 2) waitingFirst.counted
    station.game.roster.ids = [1] ∧ (8 : UInt32) ≠ 0xFFFFFFFF ∧ SparesNoPlayer station := by
  have hids : (Station.handleAll 5 (waitingFirst.inbox.take 2) waitingFirst.counted).game.roster.ids
      = [1] := by
    rw [waitingFirst_eq.1]
    decide
  have hlimit : (8 : UInt32) ≠ 0xFFFFFFFF := by decide
  exact ⟨hids, hlimit, (run_sparesNoPlayer_iff {} (fun _ => false) firstArrivals 5 2).2 hlimit⟩

/-- Endpoints that are all different as long as the numbers have no more than 48 bits. -/
def nthEndpoint (number : Nat) : IPv4Endpoint :=
  ⟨⟨UInt32.ofNat (number / 65536)⟩, UInt16.ofNat number⟩

theorem nthEndpoint_injective {m n : Nat} (hm : m < 4294967296) (hn : n < 4294967296)
    (h : nthEndpoint m = nthEndpoint n) : m = n := by
  have hhigh : m / 65536 % 4294967296 = n / 65536 % 4294967296 := by
    have hbits := congrArg (fun endpoint => endpoint.address.bits.toNat) h
    simpa [nthEndpoint] using hbits
  have hlow : m % 65536 = n % 65536 := by
    have hport := congrArg (fun endpoint => endpoint.port.toNat) h
    simpa [nthEndpoint] using hport
  omega

def nthLogin (number : Nat) : Envelope Login :=
  let login : Login := { returnTo := nthEndpoint number }
  .ofPayload login (if Digest.fnv1a (Envelope.ofPayload login 0).body = 0 then 1 else 0)

theorem digest_nthLogin_ne_zero (number : Nat) : Digest.fnv1a (nthLogin number).body ≠ 0 := by
  unfold nthLogin
  dsimp only
  split_ifs with hzero
  · exact hzero ▸ Envelope.digest_body_one_ne
  · exact hzero

def nthArrival (number : Nat) : Received Login :=
  ⟨.v4 (nthEndpoint number), (nthLogin number).stamped⟩

theorem returnTo_nthArrival (number : Nat) :
    (nthArrival number).envelope.payload.returnTo = nthEndpoint number := rfl

def crowd (count : Nat) : List GameLoop.Input :=
  (List.range count).map fun number =>
    .datagram ⟨.v4 (nthEndpoint number), Frame.wrap (nthLogin number).body⟩

def crowdEvents (now count : Nat) : List (Nat × Event) :=
  (List.range count).map fun number => (now, .login (nthArrival number))

theorem crowdEvents_succ (now count : Nat) :
    crowdEvents now (count + 1) = crowdEvents now count ++ [(now, .login (nthArrival count))] := by
  rw [crowdEvents, List.range_succ, List.map_append, List.map_singleton, crowdEvents]

theorem run_crowd (loop : GameLoop Server) (count : Nat) :
    (loop.run (crowd count)).inbox
        = loop.inbox ++ (List.range count).map (fun number => .login (nthArrival number))
    ∧ (loop.run (crowd count)).game = loop.game
    ∧ (loop.run (crowd count)).transport = loop.transport := by
  induction count with
  | zero => exact ⟨(List.append_nil _).symm, rfl, rfl⟩
  | succ count ih =>
    obtain ⟨hinbox, hgame, htransport⟩ := ih
    have hcrowd : loop.run (crowd (count + 1)) = (loop.run (crowd count)).onDatagram
        ⟨.v4 (nthEndpoint count), Frame.wrap (nthLogin count).body⟩ := by
      rw [crowd, List.range_succ, List.map_append, GameLoop.run_append, List.map_singleton,
        GameLoop.run, List.foldl_cons, List.foldl_nil, GameLoop.step, crowd]
    rw [hcrowd, GameLoop.onDatagram_eq, Event.decoded?_wrap_login,
      if_neg (digest_nthLogin_ne_zero count)]
    refine ⟨?_, hgame, htransport⟩
    rw [hinbox, List.range_succ, List.map_append, List.append_assoc, List.map_singleton, nthArrival,
      Option.toList_some]

section Crowd

variable {limit count : Nat} {sessions : List Session}

theorem nthArrival_notMem (hcount : count < 4294967296)
    (h : sessions.map Session.endpoint
      = (List.range count).map fun number => some (.v4 (nthEndpoint number))) :
    some (.v4 (nthArrival count).envelope.payload.returnTo) ∉ sessions.map Session.endpoint
      ∧ sessions.length = count := by
  constructor
  · rw [returnTo_nthArrival, h, List.mem_map]
    rintro ⟨number, hmem, heq⟩
    have hlt := List.mem_range.mp hmem
    have hsame := nthEndpoint_injective (by omega) hcount
      (SocketAddress.v4.inj (Option.some.inj heq))
    omega
  · have hlength := congrArg List.length h
    rwa [List.length_map, List.length_map, List.length_range] at hlength

/-- A table with room for the crowd takes all of it, in order. -/
theorem endpoints_foldl_crowdEvents (now : Nat) (hroom : count ≤ limit)
    (hcount : count ≤ 4294967296) :
    ((crowdEvents now count).foldl (enlist limit) []).map Session.endpoint
      = (List.range count).map fun number => some (.v4 (nthEndpoint number)) := by
  induction count with
  | zero => rfl
  | succ count ih =>
    have hbefore := ih (by omega) (by omega)
    obtain ⟨hnew, hlength⟩ := nthArrival_notMem (by omega) hbefore
    rw [crowdEvents_succ, List.foldl_append, List.foldl_cons, List.foldl_nil,
      enlist_login_of_room now hnew (by omega), List.map_append, hbefore, List.range_succ,
      List.map_append, List.map_singleton, List.map_singleton, returnTo_nthArrival]

/-- The last of the crowd is told its number in the crowd, counted from one on. -/
theorem exists_mem_replies_crowdEvents (now : Nat) (hroom : count < limit)
    (hcount : count < 4294967296) :
    ∃ outgoing ∈ replies limit [] (crowdEvents now (count + 1)), ∃ login : Envelope Login,
      outgoing.bytes = Frame.wrap login.body
        ∧ login.payload.session = UInt32.ofNat (count + 1) := by
  obtain ⟨hnew, hlength⟩ := nthArrival_notMem hcount
    (endpoints_foldl_crowdEvents now (Nat.le_of_lt hroom) (Nat.le_of_lt hcount))
  have hfor := answeredFor?_login_of_room now hnew (hlength.symm ▸ hroom)
  rw [hlength] at hfor
  let id := UInt32.ofNat (timesAnswered limit (crowdEvents now count) (UInt32.ofNat (count + 1)))
  let login : Envelope Login :=
    .ofPayload { session := UInt32.ofNat (count + 1), returnTo := nthEndpoint count } id
  have hreply : reply? limit (crowdEvents now count) (now, .login (nthArrival count))
      = some ⟨.v4 (nthEndpoint count), Frame.wrap login.body⟩ := by
    rw [reply?, hfor, Option.bind_some]
    rfl
  rw [crowdEvents_succ, replies_append, List.nil_append, replies, replies, List.append_nil, hreply]
  exact ⟨_, List.mem_append_right _ (Option.mem_toList.mpr rfl), login, rfl, rfl⟩

end Crowd

theorem tick_crowd (params : GameParams) {count : Nat} (now : Nat) (hpos : 0 < count)
    (hroom : count ≤ params.maxPlayers.toNat) :
    let start : GameLoop Server := .start params {} {}
    let station := (start.run (crowd count ++ [.tick now])).toStation
    Table station.game ∧ station.game.roster.size = count
    ∧ ∃ outgoing ∈ station.transport.sent, ∃ login : Envelope Login,
      outgoing.bytes = Frame.wrap login.body ∧ login.payload.session = UInt32.ofNat count := by
  intro start station
  have hcount : count < 4294967296 := Nat.lt_of_le_of_lt hroom params.maxPlayers.toNat_lt
  obtain ⟨hinbox, hgame, htransport⟩ := run_crowd start count
  have hwaits : Records params.maxPlayers.toNat [] (start.run (crowd count)).game := by
    rw [hgame]
    exact .ofParams params
  -- everybody waits until the one tick, which answers them in the order in which they came
  have hevents : (start.run (crowd count)).inbox.map (now, ·) = crowdEvents now count := by
    rw [hinbox, List.map_append, List.map_map, crowdEvents]
    rfl
  obtain ⟨hrecords, hanswers⟩ := tick_answers hwaits now
  rw [hevents, List.nil_append] at hrecords
  rw [hevents] at hanswers
  have hstation : station = ((start.run (crowd count)).tick now).1.toStation :=
    congrArg GameLoop.toStation (GameLoop.run_append start (crowd count) [.tick now])
  have hsent : station.transport.sent
      = replies params.maxPlayers.toNat [] (crowdEvents now count) := by
    rw [hstation, hanswers, htransport]
    exact Transport.sent_sendAll fun _ _ => rfl
  refine ⟨?_, ?_, ?_⟩
  · rw [hstation]
    exact hrecords.table
  · have hendpoints := endpoints_foldl_crowdEvents now hroom (Nat.le_of_lt hcount)
    rw [hstation, ← Roster.length_sessions, hrecords.sessions_eq]
    exact (nthArrival_notMem hcount hendpoints).2
  · obtain ⟨last, rfl⟩ := Nat.exists_eq_succ_of_ne_zero (Nat.ne_of_gt hpos)
    rw [hsent]
    exact exists_mem_replies_crowdEvents now hroom (Nat.lt_of_succ_lt hcount)

/-- With room for a session under every id, the last session is told that it is none, and its player
cannot ping. -/
theorem last_of_crowd_not_spared :
    let start : GameLoop Server := .start { maxPlayers := 0xFFFFFFFF } {} {}
    let station := (start.run (crowd 4294967295 ++ [.tick 0])).toStation
    noPlayer ∈ station.game.roster.ids
    ∧ (∃ outgoing ∈ station.transport.sent, ∃ login : Envelope Login,
      outgoing.bytes = Frame.wrap login.body ∧ ¬ login.payload.hasSession)
    ∧ ∀ (moment : Moment) (received : Received Ping),
      received.envelope.payload.playerId = noPlayer →
      (station.handle moment (.ping received)).journal.getLast?
        = some (.pingWithoutPlayer received.sender) := by
  obtain ⟨htable, hsize, outgoing, hmem, login, hbytes, hsession⟩ :=
    tick_crowd { maxPlayers := 0xFFFFFFFF } 0 (show 0 < 4294967295 by decide) (Nat.le_refl _)
  have hids := htable.noPlayer_mem_ids_iff.mpr hsize
  have hnone : ¬ login.payload.hasSession := by
    rw [Login.hasSession, hsession]
    decide
  exact ⟨hids, ⟨outgoing, hmem, login, hbytes, hnone⟩, fun moment received hplayer =>
    (getLast?_journal_handle_ping moment received).mpr hplayer⟩

end Server

end GridSession
