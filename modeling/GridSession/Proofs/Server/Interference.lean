import GridSession.Proofs.Game.Places
import GridSession.Proofs.Server.Hearing
import GridSession.Proofs.Server.Silence

namespace GridSession

namespace GameLoop

variable {δ : Type}

def facing (loop : GameLoop δ) (queue : List Event) (fails : Nat → Bool) : GameLoop δ :=
  { loop with inbox := queue, transport := { loop.transport with fails } }

variable [Role δ]

def attempts (loop : GameLoop δ) (now : Nat) : List Outgoing :=
  ({ loop with transport := {} }.tick now).1.transport.sent

/-- Whether a send of the tick fails is for its datagram alone to say. -/
def SettledBy (loop : GameLoop δ) (condition : Outgoing → Bool) (now : Nat) : Prop :=
  loop.transport.SettledBy condition (loop.attempts now)

theorem settledBy_facing (loop : GameLoop δ) (queue : List Event) (failing : Bool) (now : Nat) :
    (loop.facing queue fun _ => failing).SettledBy (fun _ => failing) now :=
  fun _ _ => rfl

end GameLoop

namespace Server

section Tick

variable {condition : Outgoing → Bool} {limit now : Nat} {earlier : List (Nat × Event)}
  {loop : GameLoop Server}

theorem attempts_eq (h : Records limit earlier loop.game) (now : Nat) :
    loop.attempts now = replies limit earlier (loop.inbox.map (now, ·)) := by
  -- whatever the real transport loses, over this one all that is tried is sent
  let working : GameLoop Server := { loop with transport := {} }
  have hworking : Records limit earlier working.game := h
  rw [GameLoop.attempts, (tick_answers hworking now).2, Transport.sent_sendAll fun _ _ => rfl]
  exact List.nil_append _

theorem tick_heard (h : Records limit earlier loop.game)
    (hknown : ∀ event ∈ loop.inbox, Known loop.game.roster.sessions event)
    (hsettled : loop.SettledBy condition now) :
    Heard condition now loop.inbox loop.counted.game (loop.tick now).1.game := by
  rw [GameLoop.SettledBy, attempts_eq h] at hsettled
  rw [game_tick]
  exact handleAll_heard h.counted now hknown hsettled

theorem sent_tick_to (h : Records limit earlier loop.game)
    (hknown : ∀ event ∈ loop.inbox, Known loop.game.roster.sessions event)
    (hsettled : loop.SettledBy condition now) {session : Session}
    (hmem : session ∈ loop.game.roster.sessions) :
    (loop.tick now).1.transport.sent.filter (Outgoing.isTo session.endpoint)
      = loop.transport.sent.filter (Outgoing.isTo session.endpoint)
        ++ (repliesFrom session (UInt32.ofNat (timesAnswered limit earlier session.id))
          (loop.inbox.filter (session.HeardIn ·))).filter fun outgoing => !condition outgoing := by
  rw [GameLoop.SettledBy, attempts_eq h] at hsettled
  rw [(tick_answers h now).2, hsettled.sent_sendAll, List.filter_append,
    ← filter_isTo_replies h.table.distinct hmem now hknown h.sessions_eq.symm, List.filter_filter,
    List.filter_filter]
  simp only [Bool.and_comm]

end Tick

section Touched

variable {station : Station Server} {player : Player}

theorem get?_serve_cases {α : Type} [Payload α] (now : Nat) (target : SocketAddress)
    (reply : UInt32 → Envelope α) (station : Station Server)
    (hmem : player ∈ station.game.roster.players) (id : UInt32) :
    id ≠ player.id ∧ (serve now player target reply station).1.game.roster.get? id
        = station.game.roster.get? id
    ∨ ∃ served, (serve now player target reply station).1.game.roster.get? id = some served
      ∧ served.session = player.session := by
  let served := ((player.touch now).takeMessageId.2.sendTracked station.transport target
    (reply player.nextMessage)).player
  have hsession : served.session = player.session := Player.session_sendTracked ..
  have hid : served.id = player.id := congrArg Session.id hsession
  have hknown : served.id ∈ station.game.roster.ids := hid ▸ List.mem_map_of_mem hmem
  have hget : (serve now player target reply station).1.game.roster.get? id
      = if id = served.id then some served else station.game.roster.get? id :=
    Roster.get?_replace hknown id
  rw [hget]
  by_cases hsame : id = served.id
  · exact .inr ⟨served, if_pos hsame, hsession⟩
  · exact .inl ⟨hid ▸ hsame, if_neg hsame⟩

theorem get?_onLogin_cases (h : Table station.game) (moment : Moment) (received : Received Login)
    (id : UInt32) :
    (onLogin moment received station).game.roster.get? id = station.game.roster.get? id
    ∨ ∃ player, (onLogin moment received station).game.roster.get? id = some player
      ∧ player.session.HeardIn (.login received) := by
  rcases onLogin_cases h moment received with
    ⟨player, hmem, hendpoint, hlogin⟩ | ⟨-, -, hlogin⟩ | ⟨-, hroom, roster, hplayers, hlogin⟩
  · rw [hlogin, game_answerLogin]
    rcases get?_serve_cases moment.now _ (loginReply player received) _ hmem id with
      ⟨-, hkept⟩ | ⟨served, hget, hsession⟩
    · exact .inl hkept
    · exact .inr ⟨served, hget, hsession ▸ hendpoint⟩
  · rw [hlogin]
    exact .inl rfl
  · -- a new player has an id of its own, so every other id finds what it found before
    have hnew := h.nextPlayerId_notMem hroom
    rw [hlogin, game_answerLogin]
    rcases get?_serve_cases moment.now _ (loginReply _ received) _ (joining_mem_opened hplayers)
      id with ⟨hid, hkept⟩ | ⟨served, hget, hsession⟩
    · left
      rw [hkept]
      exact (Roster.get?_of_joined hplayers hnew id).trans (if_neg hid)
    · exact .inr ⟨served, hget, hsession ▸ rfl⟩

theorem get?_onPing_cases (moment : Moment) (received : Received Ping) (id : UInt32) :
    (onPing moment received station).game.roster.get? id = station.game.roster.get? id
    ∨ ∃ player, (onPing moment received station).game.roster.get? id = some player
      ∧ player.session.HeardIn (.ping received) := by
  rcases onPing_cases moment received station with
    ⟨-, hping⟩ | ⟨-, hping⟩ | ⟨hplayer, player, hfound, hping⟩
  · rw [hping]
    exact .inl rfl
  · rw [hping]
    exact .inl rfl
  · obtain ⟨hmem, hid⟩ := Roster.get?_eq_some_iff.mp hfound
    have hheard : player.session.HeardIn (.ping received) := ⟨hplayer, hid.symm⟩
    rw [hping]
    rcases get?_serve_cases moment.now _ (pingReply received) station hmem id with
      ⟨-, hkept⟩ | ⟨served, hget, hsession⟩
    · exact .inl hkept
    · exact .inr ⟨served, hget, hsession ▸ hheard⟩

theorem get?_handle_cases (h : Table station.game) (moment : Moment) (event : Event) (id : UInt32) :
    (station.handle moment event).game.roster.get? id = station.game.roster.get? id
    ∨ ∃ player, (station.handle moment event).game.roster.get? id = some player
      ∧ player.session.HeardIn event := by
  have htold : Table (station.tell (.handling event.action event.sender)).game := h
  cases event with
  | login received => exact get?_onLogin_cases htold moment received id
  | ping received => exact get?_onPing_cases moment received id
  | acknowledge received => exact .inl rfl

end Touched

section Queues

variable {limit now : Nat} {earlier : List (Nat × Event)} {loop : GameLoop Server}
  {queue shuffled : List Event} {schedule others : Nat → Bool} {condition : Outgoing → Bool}

/-- What a tick does is settled by the events of each session and by their order. -/
theorem tick_eq_of_filter_eq (h : Records limit earlier loop.game)
    (hknown : ∀ event ∈ queue, Known loop.game.roster.sessions event)
    (hshuffled : ∀ event ∈ shuffled, Known loop.game.roster.sessions event)
    (horder : ∀ session ∈ loop.game.roster.sessions,
      queue.filter (session.HeardIn ·) = shuffled.filter (session.HeardIn ·))
    (hfirst : (loop.facing queue schedule).SettledBy condition now)
    (hsecond : (loop.facing shuffled others).SettledBy condition now) :
    ((loop.facing queue schedule).tick now).1.game
        = ((loop.facing shuffled others).tick now).1.game
      ∧ ∀ session ∈ loop.game.roster.sessions,
        ((loop.facing queue schedule).tick now).1.transport.sent.filter
            (Outgoing.isTo session.endpoint)
          = ((loop.facing shuffled others).tick now).1.transport.sent.filter
            (Outgoing.isTo session.endpoint) := by
  -- neither the events that wait nor the transport are part of the game
  have hrecords : ∀ queue fails, Records limit earlier (loop.facing queue fails).game :=
    fun _ _ => h
  refine ⟨?_, fun session hmem => ?_⟩
  · exact (tick_heard (hrecords queue schedule) hknown hfirst).eq
      (tick_heard (hrecords shuffled others) hshuffled hsecond) horder
  · rw [sent_tick_to (hrecords queue schedule) hknown hfirst hmem,
      sent_tick_to (hrecords shuffled others) hshuffled hsecond hmem]
    change _ ++ (repliesFrom session _ (queue.filter _)).filter _
      = _ ++ (repliesFrom session _ (shuffled.filter _)).filter _
    rw [horder session hmem]
    rfl

/-- An event changes one player at most, and no other session is heard in it. -/
theorem get?_handle_unless_heard (h : Records limit earlier loop.game) (moment : Moment)
    (front : List Event) (event : Event) (id : UInt32) :
    let before := Station.handleAll moment.now front loop.counted
    let after := before.handle moment event
    after.game.roster.get? id = before.game.roster.get? id
      ∨ ∃ player, after.game.roster.get? id = some player ∧ player.session.HeardIn event
        ∧ ∀ other ∈ after.game.roster.sessions, other.HeardIn event →
          other = player.session := by
  intro before after
  have hbefore : Table before.game := (handleAll_answers h.counted moment.now front).1.table
  have hafter : Table after.game := (handle_enlists hbefore moment event).table hbefore
  rcases get?_handle_cases hbefore moment event id with hkept | ⟨player, hget, hheard⟩
  · exact .inl hkept
  · refine .inr ⟨player, hget, hheard, fun other hmem hother => ?_⟩
    exact hafter.distinct.eq_of_heardIn hmem (Roster.mem_sessions_of_get? hget) hother hheard

end Queues

/-- In every state that a server reaches, two queues of the same events leave the same game and the
same reports, and send the same datagrams to each session in the same order. They must keep the
order of the events of each session and open no session, and whether a send fails must be for the
datagram alone to say. An event changes the player of one session at most, and no other session is
heard in it. -/
theorem sessions_do_not_interfere (params : GameParams) (fails : Nat → Bool)
    (inputs : List GameLoop.Input) :
    let loop := (GameLoop.start params ({} : Server) { fails }).run inputs
    (∀ (now : Nat) (queue shuffled : List Event) (schedule others : Nat → Bool)
      (condition : Outgoing → Bool),
      let first := loop.facing queue schedule
      let second := loop.facing shuffled others
      queue.Perm shuffled →
      (∀ received, .login received ∈ queue → some (.v4 received.envelope.payload.returnTo)
        ∈ loop.game.roster.sessions.map Session.endpoint) →
      (∀ session ∈ loop.game.roster.sessions,
        queue.filter (session.HeardIn ·) = shuffled.filter (session.HeardIn ·)) →
      first.SettledBy condition now → second.SettledBy condition now →
      (first.tick now).1.game = (second.tick now).1.game
      ∧ (first.tick now).1.driver.stale = (second.tick now).1.driver.stale
      ∧ ∀ session ∈ loop.game.roster.sessions,
        (first.tick now).1.transport.sent.filter (Outgoing.isTo session.endpoint)
          = (second.tick now).1.transport.sent.filter (Outgoing.isTo session.endpoint))
    ∧ ∀ (moment : Moment) (front : List Event) (event : Event),
      let before := Station.handleAll moment.now front loop.counted
      let after := before.handle moment event
      ∀ id, after.game.roster.get? id = before.game.roster.get? id
        ∨ ∃ player, after.game.roster.get? id = some player ∧ player.session.HeardIn event
          ∧ ∀ other ∈ after.game.roster.sessions, other.HeardIn event →
            other = player.session := by
  intro loop
  have hrecords : Records params.maxPlayers.toNat _ loop.game :=
    run_records (.ofParams params) inputs
  refine ⟨?_, fun moment front event => get?_handle_unless_heard hrecords moment front event⟩
  intro now queue shuffled schedule others condition first second hperm hlogins horder hfirst
    hsecond
  have hknown : ∀ event ∈ queue, Known loop.game.roster.sessions event := by
    rintro event hmem received rfl
    exact hlogins received hmem
  have hshuffled : ∀ event ∈ shuffled, Known loop.game.roster.sessions event :=
    fun event hmem => hknown event (hperm.mem_iff.mpr hmem)
  obtain ⟨hgame, hsent⟩ := tick_eq_of_filter_eq hrecords hknown hshuffled horder hfirst hsecond
  refine ⟨hgame, ?_, hsent⟩
  -- who is stale follows from the game
  rw [stale_tick, stale_tick, hgame]

def loginAt (port : UInt16) : Received Login :=
  ⟨.v4 ⟨.localhost, 7⟩, .ofPayload { returnTo := ⟨.localhost, port⟩ }⟩

def pingOf (player : UInt32) : Received Ping :=
  ⟨.v4 ⟨.localhost, 7⟩, .ofPayload { playerId := player, lastAckId := 3 }⟩

def pair : GameLoop Server :=
  (GameLoop.start {} ({} : Server) { fails := fun _ => false }).run
    [.datagram ⟨(loginAt 40000).sender, Frame.wrap (loginAt 40000).envelope.body⟩,
      .datagram ⟨(loginAt 40001).sender, Frame.wrap (loginAt 40001).envelope.body⟩, .tick 5]

def pairEvents : List Event :=
  [.login (loginAt 40000), .ping (pingOf 2), .ping (pingOf 1)]

def pairEventsShuffled : List Event :=
  [.ping (pingOf 2), .login (loginAt 40000), .ping (pingOf 1)]

theorem pair_events_commute :
    let unreachable := Outgoing.isTo (some (.v4 ⟨.localhost, 40001⟩))
    let first := pair.facing pairEvents (· == 3)
    let second := pair.facing pairEventsShuffled (· == 2)
    first.SettledBy unreachable 9 ∧ second.SettledBy unreachable 9
    ∧ (first.tick 9).1.game = (second.tick 9).1.game
    ∧ (first.tick 9).1.driver.stale = (second.tick 9).1.driver.stale
    ∧ ((pair.facing pairEvents fun _ => true).tick 9).1.game
      = ((pair.facing pairEventsShuffled fun _ => true).tick 9).1.game := by
  intro unreachable first second
  have hsessions : pair.game.roster.sessions
      = [⟨1, some (.v4 ⟨.localhost, 40000⟩), 5⟩, ⟨2, some (.v4 ⟨.localhost, 40001⟩), 5⟩] := by
    decide
  have hlogins : ∀ received, .login received ∈ pairEvents →
      some (.v4 received.envelope.payload.returnTo)
        ∈ pair.game.roster.sessions.map Session.endpoint := by
    intro received hmem
    obtain rfl : received = loginAt 40000 := by simpa [pairEvents] using hmem
    rw [hsessions]
    decide
  have horder : ∀ session ∈ pair.game.roster.sessions,
      pairEvents.filter (session.HeardIn ·) = pairEventsShuffled.filter (session.HeardIn ·) := by
    rw [hsessions]
    decide
  have hfirst : first.SettledBy unreachable 9 := by
    unfold GameLoop.SettledBy Transport.SettledBy
    decide
  have hsecond : second.SettledBy unreachable 9 := by
    unfold GameLoop.SettledBy Transport.SettledBy
    decide
  obtain ⟨hcommute, -⟩ := sessions_do_not_interfere {} (fun _ => false) _
  have hperm : pairEvents.Perm pairEventsShuffled := .swap _ _ _
  obtain ⟨hgame, hstale, -⟩ := hcommute 9 _ _ _ _ unreachable hperm hlogins horder hfirst hsecond
  obtain ⟨hfailing, -⟩ := hcommute 9 _ _ _ _ (fun _ => true) hperm hlogins horder
    (pair.settledBy_facing pairEvents true 9) (pair.settledBy_facing pairEventsShuffled true 9)
  exact ⟨hfirst, hsecond, hgame, hstale, hfailing⟩

end Server

end GridSession
