import GridSession.Proofs.Player.Retained
import GridSession.Proofs.Server.Replies

namespace GridSession

def Outgoing.isTo (endpoint : Option SocketAddress) (outgoing : Outgoing) : Bool :=
  some outgoing.target == endpoint

namespace Server

/-- After these tries to send something, only players were written to, and each of them tracked what
went to its endpoint. -/
structure Tracks (fails : Nat → Bool) (tried : List Outgoing) (station : Station Server) :
    Prop where
  transport_eq : station.transport = ({ fails } : Transport).sendAll tried
  nodup_endpoints : (station.game.roster.sessions.map Session.endpoint).Nodup
  target_mem : ∀ outgoing ∈ tried,
    some outgoing.target ∈ station.game.roster.sessions.map Session.endpoint
  player : ∀ player ∈ station.game.roster.players,
    player.Tracks fails (Transport.numbered (Outgoing.isTo player.endpoint) tried)

section Tracks

variable {fails : Nat → Bool} {tried : List Outgoing} {station after : Station Server}

theorem Tracks.congr (h : Tracks fails tried station)
    (htransport : after.transport = station.transport)
    (hroster : after.game.roster = station.game.roster) : Tracks fails tried after := by
  obtain ⟨htried, hnodup, htarget, hplayer⟩ := h
  rw [← htransport] at htried
  rw [← hroster] at hnodup htarget hplayer
  exact ⟨htried, hnodup, htarget, hplayer⟩

theorem Tracks.opened (h : Tracks fails tried station) {endpoint : SocketAddress}
    {roster : Roster} {now : Nat}
    (hnew : some endpoint ∉ station.game.roster.sessions.map Session.endpoint)
    (hplayers : roster.players = station.game.roster.players
      ++ [.joining station.game.nextPlayerId (some endpoint) now]) :
    Tracks fails tried (opened endpoint roster station) := by
  refine ⟨h.transport_eq, ?_, fun outgoing hmem => ?_, fun player hmem => ?_⟩
  · rw [sessions_opened hplayers, List.map_append]
    exact h.nodup_endpoints.append (List.nodup_singleton _) (List.disjoint_singleton.mpr hnew)
  · rw [sessions_opened hplayers, List.map_append]
    exact List.mem_append_left _ (h.target_mem outgoing hmem)
  · change player ∈ roster.players at hmem
    rw [hplayers] at hmem
    rcases List.mem_append.mp hmem with hold | hjoined
    · exact h.player player hold
    · obtain rfl := List.mem_singleton.mp hjoined
      -- all that was tried went to endpoints of the table, and the new one is none of them
      have hnothing : ∀ outgoing ∈ tried, outgoing.isTo (some endpoint) = false := by
        refine fun outgoing hmem => beq_eq_false_iff_ne.mpr fun hsame => hnew ?_
        rw [← hsame]
        exact h.target_mem outgoing hmem
      change Player.Tracks fails (Transport.numbered (Outgoing.isTo (some endpoint)) tried) _
      rw [Transport.numbered_eq_nil hnothing]
      exact .joining ..

/-- A reply through a player is tracked by it, and by nobody else. -/
theorem Tracks.serve {α : Type} [Payload α] {now : Nat} {player : Player} {target : SocketAddress}
    {reply : UInt32 → Envelope α} (h : Tracks fails tried station)
    (hmem : player ∈ station.game.roster.players) (hendpoint : player.endpoint = some target)
    (hreply : (reply player.nextMessage).message.id = player.nextMessage) :
    Tracks fails (tried ++ [⟨target, Frame.wrap (reply player.nextMessage).body⟩])
      (Server.serve now player target reply station).1 := by
  let outgoing : Outgoing := ⟨target, Frame.wrap (reply player.nextMessage).body⟩
  let served := ((player.touch now).takeMessageId.2.sendTracked station.transport target
    (reply player.nextMessage)).player
  refine ⟨?_, ?_, fun other htried => ?_, fun other hother => ?_⟩
  · rw [transport_serve, Transport.sendAll_append, ← h.transport_eq]
    rfl
  · rw [sessions_serve hmem rfl]
    exact h.nodup_endpoints
  · rw [sessions_serve hmem rfl]
    rcases List.mem_append.mp htried with hold | hnew
    · exact h.target_mem other hold
    · rw [List.mem_singleton.mp hnew, ← hendpoint]
      exact List.mem_map.mpr ⟨player.session, List.mem_map_of_mem hmem, rfl⟩
  · rcases eq_or_mem_of_mem_players_serve hother with rfl | ⟨hid, hold⟩
    · have hsame : served.endpoint = some target :=
        (congrArg Session.endpoint (Player.session_sendTracked ..)).trans hendpoint
      -- the player served has one more try, under the next number
      have hkind : outgoing.isTo (some target) = true := beq_self_eq_true _
      have hfails : station.transport.fails = fails := by
        rw [h.transport_eq, Transport.fails_sendAll]
      have hattempts : station.transport.attempts = tried.length := by
        rw [h.transport_eq, Transport.attempts_sendAll]
        exact Nat.zero_add _
      have htouched : (player.touch now).Tracks fails _ := (h.player player hmem).congr rfl rfl
      rw [hendpoint, ← hfails] at htouched
      rw [hsame, Transport.numbered_concat hkind, ← hattempts, ← hfails]
      exact htouched.sendTracked hreply
    · -- nobody else has that endpoint
      have hkind : outgoing.isTo other.endpoint = false := by
        refine beq_eq_false_iff_ne.mpr fun hsame => hid ?_
        have hnodup := h.nodup_endpoints
        rw [Roster.map_endpoint_sessions] at hnodup
        rw [List.inj_on_of_nodup_map hnodup hold hmem (hsame.symm.trans hendpoint.symm)]
      rw [Transport.numbered_concat_of_not hkind]
      exact h.player other hold

theorem Tracks.answerLogin {player : Player} {received : Received Login} (moment : Moment)
    (h : Tracks fails tried station) (hmem : player ∈ station.game.roster.players)
    (hendpoint : player.endpoint = some (.v4 received.envelope.payload.returnTo)) :
    Tracks fails (tried ++ [⟨.v4 received.envelope.payload.returnTo,
        Frame.wrap (loginReply player received player.nextMessage).body⟩])
      (Server.answerLogin moment received player station) :=
  (h.serve hmem hendpoint rfl).congr transport_answerLogin (congrArg Game.roster game_answerLogin)

end Tracks

section Run

variable {limit : Nat} {fails : Nat → Bool} {earlier : List (Nat × Event)}
  {station : Station Server} {loop : GameLoop Server}

/-- After `earlier` events the replies to them were tried, and each player tracked its own. -/
structure Retains (limit : Nat) (fails : Nat → Bool) (earlier : List (Nat × Event))
    (station : Station Server) : Prop where
  records : Records limit earlier station.game
  tracks : Tracks fails (replies limit [] earlier) station

theorem replies_concat (event : Nat × Event) :
    replies limit [] (earlier ++ [event])
      = replies limit [] earlier ++ (reply? limit earlier event).toList := by
  rw [replies_append, replies, replies, List.nil_append, List.append_nil]

theorem Retains.unanswered (h : Retains limit fails earlier station) {event : Nat × Event}
    (hfor : answeredFor? limit (earlier.foldl (enlist limit) []) event = none) (note : Note) :
    Tracks fails (replies limit [] (earlier ++ [event])) (station.tell note) := by
  rw [replies_concat, reply?, hfor, Option.bind_none, Option.toList_none, List.append_nil]
  exact h.tracks.congr rfl rfl

theorem onLogin_tracks (h : Retains limit fails earlier station) (moment : Moment)
    (received : Received Login) :
    Tracks fails (replies limit [] (earlier ++ [(moment.now, .login received)]))
      (onLogin moment received station) := by
  rcases onLogin_cases h.records.table moment received with
    ⟨player, hmem, hendpoint, hlogin⟩ | ⟨hnew, hfull, hlogin⟩
    | ⟨hnew, hroom, roster, hplayers, hlogin⟩
  · have hreply := reply?_login (h.records.answeredFor?_of_resumed moment.now hmem hendpoint)
      (h.records.numbers player hmem)
    have htold : Tracks fails (replies limit [] earlier) (station.tell (.playerReturned player.id
        (.v4 received.envelope.payload.returnTo))) := h.tracks.congr rfl rfl
    rw [replies_concat, hreply, hlogin]
    exact htold.answerLogin moment hmem hendpoint
  · rw [hlogin]
    exact h.unanswered (h.records.answeredFor?_of_full moment.now hnew hfull) _
  · have hreply := reply?_login (h.records.answeredFor?_of_room moment.now hnew hroom)
      (h.records.joining_numbered hroom _ _)
    rw [replies_concat, hreply, hlogin]
    exact (h.tracks.opened hnew hplayers).answerLogin moment (joining_mem_opened hplayers) rfl

theorem onPing_tracks (h : Retains limit fails earlier station) (moment : Moment)
    (received : Received Ping) :
    Tracks fails (replies limit [] (earlier ++ [(moment.now, .ping received)]))
      (onPing moment received station) := by
  rcases onPing_cases moment received station with
    ⟨hnone, hping⟩ | ⟨hunknown, hping⟩ | ⟨hplayer, player, hfound, hping⟩
  · rw [hping]
    refine h.unanswered ?_ _
    exact if_pos hnone
  · rw [hping]
    exact h.unanswered (h.records.answeredFor?_of_unknown moment.now hunknown) _
  · have hmem := (Roster.get?_eq_some_iff.mp hfound).1
    obtain ⟨endpoint, hendpoint⟩ := h.records.table.endpoint_v4 hmem
    have hreply := reply?_ping (h.records.answeredFor?_of_known moment.now hplayer hfound)
      (h.records.numbers player hmem) hendpoint
    rw [replies_concat, hreply, hping, hendpoint]
    exact h.tracks.serve hmem hendpoint rfl

theorem handle_retains (h : Retains limit fails earlier station) (moment : Moment)
    (event : Event) :
    Retains limit fails (earlier ++ [(moment.now, event)]) (station.handle moment event) := by
  have htold : Retains limit fails earlier (station.tell (.handling event.action event.sender)) :=
    ⟨h.records, h.tracks.congr rfl rfl⟩
  refine ⟨handle_records h.records moment event, ?_⟩
  cases event with
  | login received => exact onLogin_tracks htold moment received
  | ping received => exact onPing_tracks htold moment received
  | acknowledge received => exact htold.unanswered rfl _

theorem tick_retains (h : Retains limit fails earlier loop.toStation) (now : Nat) :
    Retains limit fails (earlier ++ loop.inbox.map (now, ·)) (loop.tick now).1.toStation := by
  have hcounted : Retains limit fails earlier loop.counted :=
    ⟨h.records.counted, h.tracks.congr rfl rfl⟩
  have hhandled : Retains limit fails (earlier ++ loop.inbox.map (now, ·))
      (Station.handleAll now loop.inbox loop.counted) :=
    Station.handleAll_history (P := Retains limit fails)
      (fun earlier moment event station h => handle_retains h moment event) now loop.inbox hcounted
  refine ⟨(tick_answers h.records now).1, hhandled.tracks.congr (transport_tick now) ?_⟩
  exact congrArg Game.roster (game_tick ..)

theorem run_retains (h : Retains limit fails earlier loop.toStation)
    (inputs : List GameLoop.Input) :
    Retains limit fails (earlier ++ loop.handed inputs) (loop.run inputs).toStation := by
  refine GameLoop.run_history (P := fun earlier loop => Retains limit fails earlier loop.toStation)
    (fun earlier loop datagram h => ?_) (fun earlier loop now h => tick_retains h now) inputs h
  rw [GameLoop.onDatagram_eq]
  exact ⟨h.records, h.tracks.congr rfl rfl⟩

theorem start_retains (params : GameParams) (fails : Nat → Bool) :
    Retains params.maxPlayers.toNat fails []
      (GameLoop.start params ({} : Server) { fails }).toStation :=
  ⟨.ofParams params, rfl, List.nodup_nil, nofun, nofun⟩

end Run

end Server

end GridSession
