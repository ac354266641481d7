import GridSession.Proofs.Client.Conduct
import GridSession.Proofs.Game.Unsent
import GridSession.Proofs.GameLoop.Stimulus
import GridSession.Proofs.Server.Outcomes

namespace GridSession

variable {δ : Type} {fails others : Nat → Bool}

structure Station.Alike (fails others : Nat → Bool) (station twin : Station δ) : Prop where
  driver_eq : station.driver = twin.driver
  game_eq : station.game.unsent = twin.game.unsent
  sends : ∃ outgoing, station.transport = ({ fails } : Transport).sendAll outgoing
    ∧ twin.transport = ({ fails := others } : Transport).sendAll outgoing

namespace Station.Alike

variable {station twin : Station δ}

theorem tell (h : Alike fails others station twin) (note note' : Note) :
    Alike fails others (station.tell note) (twin.tell note') :=
  ⟨h.driver_eq, h.game_eq, h.sends⟩

theorem setDriver (h : Alike fails others station twin) (driver : δ) :
    Alike fails others { station with driver } { twin with driver } :=
  ⟨rfl, h.game_eq, h.sends⟩

theorem setGame (h : Alike fails others station twin) {game game' : Game}
    (hgame : game.unsent = game'.unsent) :
    Alike fails others { station with game } { twin with game := game' } :=
  ⟨h.driver_eq, hgame, h.sends⟩

theorem keep (h : Alike fails others station twin) {player other : Player}
    (hplayer : player.unsent = other.unsent) :
    Alike fails others (station.keep player) (twin.keep other) := by
  refine h.setGame ?_
  have hgame := h.game_eq
  simp only [Game.unsent, Roster.unsent_replace, hplayer, Game.mk.injEq] at hgame ⊢
  obtain ⟨hgrid, hroster, hrest⟩ := hgame
  exact ⟨hgrid, by rw [hroster], hrest⟩

theorem send (h : Alike fails others station twin) (outgoing : Outgoing) :
    Alike fails others { station with transport := (station.transport.send outgoing).2 }
      { twin with transport := (twin.transport.send outgoing).2 } := by
  obtain ⟨before, hstation, htwin⟩ := h.sends
  refine ⟨h.driver_eq, h.game_eq, before ++ [outgoing], ?_, ?_⟩
  · rw [Transport.sendAll_append, ← hstation]
    rfl
  · rw [Transport.sendAll_append, ← htwin]
    rfl

/-- A tracked send through the same player leaves stations alike, wherever it fails. -/
theorem sendTracked {α : Type} [Payload α] (h : Alike fails others station twin)
    {player other : Player} (hplayer : player.unsent = other.unsent) (target : SocketAddress)
    (envelope : Envelope α) :
    Alike fails others (station.sendTracked player target envelope).1
      (twin.sendTracked other target envelope).1 := by
  -- what the two sends retain may differ, and nothing else that they leave
  have hkept : (player.sendTracked station.transport target envelope).player.unsent
      = (other.sendTracked twin.transport target envelope).player.unsent := by
    rw [Player.unsent_sendTracked, Player.unsent_sendTracked, hplayer]
  have hsent := (h.send ⟨target, Frame.wrap envelope.body⟩).keep hkept
  unfold Station.sendTracked
  dsimp only
  rw [Player.transport_sendTracked, Player.transport_sendTracked]
  exact hsent.tell _ _

end Station.Alike

/-- Two loops alike have the same events waiting. -/
structure GameLoop.Alike (fails others : Nat → Bool) (loop twin : GameLoop δ) : Prop where
  station : Station.Alike fails others loop.toStation twin.toStation
  inbox_eq : loop.inbox = twin.inbox

structure Role.IgnoresFailures (δ : Type) [Role δ] [Orders δ] : Prop where
  onLogin : ∀ {fails others} {station twin : Station δ}, Station.Alike fails others station twin →
    ∀ moment received, Station.Alike fails others (Role.onLogin moment received station)
      (Role.onLogin moment received twin)
  onPing : ∀ {fails others} {station twin : Station δ}, Station.Alike fails others station twin →
    ∀ moment received, Station.Alike fails others (Role.onPing moment received station)
      (Role.onPing moment received twin)
  onAcknowledge : ∀ {fails others} {station twin : Station δ},
    Station.Alike fails others station twin →
    ∀ moment received, Station.Alike fails others (Role.onAcknowledge moment received station)
      (Role.onAcknowledge moment received twin)
  onTick : ∀ {fails others} {station twin : Station δ}, Station.Alike fails others station twin →
    ∀ moment, Station.Alike fails others (Role.onTick moment station).1 (Role.onTick moment twin).1
      ∧ (Role.onTick moment station).2 = (Role.onTick moment twin).2
  obey : ∀ {fails others} {station twin : Station δ}, Station.Alike fails others station twin →
    ∀ order, Station.Alike fails others (Orders.obey order station) (Orders.obey order twin)

/-- What two schedules make of one history: the loops end alike, their ticks have answered the same,
and under either schedule those datagrams went out, of all that go out if no send fails, at whose
number the schedule does not fail. -/
structure GameLoop.Unaffected [Role δ] [Orders δ] (params : GameParams) (driver : δ)
    (history : List (Stimulus δ)) (first second : Nat → Bool) : Prop where
  alike : Alike first second ((start params driver { fails := first }).respondAll history)
    ((start params driver { fails := second }).respondAll history)
  answers_eq : (start params driver { fails := first }).answers history
    = (start params driver { fails := second }).answers history
  sent_eq : ((start params driver { fails := first }).respondAll history).transport.sent
    = Transport.letThrough first 0
      ((start params driver).respondAll history).transport.sent

namespace Role.IgnoresFailures

variable [Role δ] [Orders δ]

theorem handle (h : IgnoresFailures δ) {station twin : Station δ}
    (halike : Station.Alike fails others station twin) (moment : Moment) (event : Event) :
    Station.Alike fails others (station.handle moment event) (twin.handle moment event) := by
  let note := Note.handling event.action event.sender
  have htold : Station.Alike fails others (station.tell note) (twin.tell note) :=
    halike.tell note note
  cases event with
  | login received => exact h.onLogin htold moment received
  | ping received => exact h.onPing htold moment received
  | acknowledge received => exact h.onAcknowledge htold moment received

theorem handleAll (h : IgnoresFailures δ) (now : Nat) (events : List Event)
    {station twin : Station δ} (halike : Station.Alike fails others station twin) :
    Station.Alike fails others (Station.handleAll now events station)
      (Station.handleAll now events twin) := by
  induction events generalizing station twin with
  | nil => exact halike
  | cons event rest ih => exact ih (h.handle halike _ event)

variable {loop twin : GameLoop δ}

theorem tick (h : IgnoresFailures δ) (halike : loop.Alike fails others twin) (now : Nat) :
    (loop.tick now).1.Alike fails others (twin.tick now).1
      ∧ (loop.tick now).2 = (twin.tick now).2 := by
  have hcounted : Station.Alike fails others loop.counted twin.counted := by
    refine halike.station.setGame ?_
    have hgame := halike.station.game_eq
    simp only [Game.unsent, Game.mk.injEq] at hgame ⊢
    simpa using hgame
  have hhandled := h.handleAll now loop.inbox hcounted
  obtain ⟨hstation, hanswer⟩ := h.onTick hhandled ⟨now, 0⟩
  rw [GameLoop.tick_eq, GameLoop.tick_eq, ← halike.inbox_eq]
  exact ⟨⟨hstation, rfl⟩, hanswer⟩

theorem respond (h : IgnoresFailures δ) (halike : loop.Alike fails others twin)
    (stimulus : Stimulus δ) :
    (loop.respond stimulus).Alike fails others (twin.respond stimulus)
      ∧ loop.answer? stimulus = twin.answer? stimulus := by
  cases stimulus with
  | datagram datagram =>
    refine ⟨?_, rfl⟩
    rw [GameLoop.respond, GameLoop.respond, GameLoop.onDatagram_eq, GameLoop.onDatagram_eq]
    obtain ⟨⟨hdriver, hgame, hsends⟩, hinbox⟩ := halike
    exact ⟨⟨hdriver, hgame, hsends⟩, congrArg (· ++ _) hinbox⟩
  | tick now =>
    obtain ⟨hticked, hanswer⟩ := h.tick halike now
    exact ⟨hticked, congrArg some hanswer⟩
  | order order => exact ⟨⟨h.obey halike.station order, halike.inbox_eq⟩, rfl⟩

theorem respondAll (h : IgnoresFailures δ) (halike : loop.Alike fails others twin)
    (history : List (Stimulus δ)) :
    (loop.respondAll history).Alike fails others (twin.respondAll history)
      ∧ loop.answers history = twin.answers history := by
  induction history generalizing loop twin with
  | nil => exact ⟨halike, rfl⟩
  | cons stimulus rest ih =>
    obtain ⟨hnext, hanswer⟩ := h.respond halike stimulus
    obtain ⟨hrest, hanswers⟩ := ih hnext
    refine ⟨hrest, ?_⟩
    rw [GameLoop.answers, GameLoop.answers, hanswer, hanswers]

theorem unaffected (h : IgnoresFailures δ) (params : GameParams) (driver : δ)
    (history : List (Stimulus δ)) (first second : Nat → Bool) :
    GameLoop.Unaffected params driver history first second := by
  have halike : ∀ other, (GameLoop.start params driver { fails := first }).Alike first other
      (GameLoop.start params driver { fails := other }) :=
    fun _ => ⟨⟨rfl, rfl, [], rfl, rfl⟩, rfl⟩
  obtain ⟨hruns, hanswers⟩ := h.respondAll (halike second) history
  refine ⟨hruns, hanswers, ?_⟩
  -- the schedule that never fails sends all that is tried
  obtain ⟨outgoing, hfirst, hnever⟩ :=
    (h.respondAll (halike fun _ => false) history).1.station.sends
  have hall : ((GameLoop.start params driver).respondAll history).transport.sent = outgoing := by
    rw [show ((GameLoop.start params driver).respondAll history).transport = _ from hnever]
    exact (Transport.sent_sendAll fun _ _ => rfl).trans (List.nil_append _)
  rw [hfirst, hall, Transport.sent_sendAll_eq_letThrough]
  exact List.nil_append _

end Role.IgnoresFailures

namespace Server

variable {station twin : Station Server}

theorem serve_alike {α : Type} [Payload α] (h : Station.Alike fails others station twin)
    {player other : Player} (hplayer : player.unsent = other.unsent) (now : Nat)
    (target : SocketAddress) (reply : UInt32 → Envelope α) :
    Station.Alike fails others (serve now player target reply station).1
      (serve now other target reply twin).1 := by
  obtain ⟨-, -, hnext, -⟩ := Player.eq_of_unsent_eq hplayer
  let served (player : Player) : Player := (player.touch now).takeMessageId.2
  have hserved : (served player).unsent = (served other).unsent := congrArg served hplayer
  have hother : serve now other target reply twin
      = twin.sendTracked (served other) target (reply player.nextMessage) := by
    rw [hnext]
    rfl
  rw [hother]
  exact h.sendTracked hserved target (reply player.nextMessage)

theorem answerLogin_alike (h : Station.Alike fails others station twin) {player other : Player}
    (hplayer : player.unsent = other.unsent) (moment : Moment) (received : Received Login) :
    Station.Alike fails others (answerLogin moment received player station)
      (answerLogin moment received other twin) := by
  let endpoint := SocketAddress.v4 received.envelope.payload.returnTo
  obtain ⟨hid, -⟩ := Player.eq_of_unsent_eq hplayer
  have hreply : loginReply player received = loginReply other received := by
    funext id
    rw [loginReply, loginReply, hid]
  obtain ⟨hdriver, hgame, hsends⟩ :=
    serve_alike h hplayer moment.now endpoint (loginReply player received)
  unfold answerLogin
  dsimp only
  rw [← hreply]
  -- whether the reply went out is seen in the journal alone
  split_ifs <;> exact ⟨hdriver, hgame, hsends⟩

theorem onPing_of_get? {moment : Moment} {received : Received Ping} {player : Player}
    (hnamed : received.envelope.payload.playerId ≠ noPlayer)
    (hfound : station.game.roster.get? received.envelope.payload.playerId = some player) :
    onPing moment received station
      = (serve moment.now player (player.endpoint.getD received.sender) (pingReply received)
        station).1 := by
  simp only [onPing, if_neg hnamed, hfound]
  rfl

theorem reportStale_alike (h : Station.Alike fails others station twin) (now : Nat) :
    Station.Alike fails others (reportStale now station) (reportStale now twin) := by
  have hstale : station.game.staleIds now = twin.game.staleIds now := by
    rw [← Game.staleIds_unsent, h.game_eq, Game.staleIds_unsent]
  exact ⟨congrArg Server.mk hstale, h.game_eq, h.sends⟩

theorem ignoresFailures : Role.IgnoresFailures Server where
  onLogin {_ _ station twin} h moment received := by
    change Station.Alike _ _ (onLogin moment received station) (onLogin moment received twin)
    rcases Game.enroll_cases_of_unsent_eq h.game_eq (.v4 received.envelope.payload.returnTo)
        moment.now with
      ⟨refusal, hstation, htwin⟩ | ⟨enrolment, other, hstation, htwin, hsame⟩
    · simp only [onLogin, hstation, htwin]
      exact h.tell _ _
    · -- both are given the same player, but for what it retains
      have hgame : enrolment.game.unsent = other.game.unsent := congrArg Enrolment.game hsame
      have hplayer : enrolment.player.unsent = other.player.unsent :=
        congrArg Enrolment.player hsame
      rw [onLogin_of_enroll_eq_ok hstation, onLogin_of_enroll_eq_ok htwin]
      exact answerLogin_alike ((h.setGame hgame).tell _ _) hplayer moment received
  onPing {_ _ station twin} h moment received := by
    change Station.Alike _ _ (onPing moment received station) (onPing moment received twin)
    by_cases hnamed : received.envelope.payload.playerId = noPlayer
    · simp only [onPing, if_pos hnamed]
      exact h.tell _ _
    · rcases Game.get?_cases_of_unsent_eq h.game_eq received.envelope.payload.playerId with
        ⟨hstation, htwin⟩ | ⟨player, other, hstation, htwin, hplayer⟩
      · simp only [onPing, if_neg hnamed, hstation, htwin]
        exact h.tell _ _
      · obtain ⟨-, hendpoint, -⟩ := Player.eq_of_unsent_eq hplayer
        rw [onPing_of_get? hnamed hstation, onPing_of_get? hnamed htwin, ← hendpoint]
        exact serve_alike h hplayer moment.now (player.endpoint.getD received.sender)
          (pingReply received)
  onAcknowledge h _ _ := h.tell _ _
  onTick {_ _ station twin} h moment := by
    change Station.Alike _ _ (onTick moment station).1 (onTick moment twin).1
      ∧ (onTick moment station).2 = (onTick moment twin).2
    have hticks : station.game.unsent.ticks = twin.game.unsent.ticks :=
      congrArg Game.ticks h.game_eq
    obtain ⟨hdriver, hgame, hsends⟩ := reportStale_alike h moment.now
    unfold onTick
    dsimp only
    split_ifs <;> exact ⟨⟨hdriver, hgame, hsends⟩, rfl⟩
  obey _ order := nomatch order

end Server

namespace Client

variable {station twin : Station Client}

theorem enter_alike (h : Station.Alike fails others station twin) (now : Nat)
    (session : UInt32) :
    Station.Alike fails others (enter now session station) (enter now session twin) := by
  unfold enter
  dsimp only
  rcases Game.register?_cases_of_unsent_eq h.game_eq session now with
    ⟨hstation, htwin⟩ | ⟨player, grown, other, hstation, htwin, hgame⟩
  · rw [hstation, htwin]
    exact h.tell _ _
  · rw [hstation, htwin, h.driver_eq]
    exact (((h.setGame hgame).setDriver _).keep rfl).tell _ _

theorem registerRemote_alike (h : Station.Alike fails others station twin) (now : Nat)
    (session : UInt32) :
    Station.Alike fails others (registerRemote now session station)
      (registerRemote now session twin) := by
  unfold registerRemote
  rw [h.driver_eq]
  split_ifs
  · exact h.tell _ _
  · rcases Game.register?_cases_of_unsent_eq h.game_eq session now with
      ⟨hstation, htwin⟩ | ⟨player, grown, other, hstation, htwin, hgame⟩
    · rw [hstation, htwin]
      exact h.tell _ _
    · rw [hstation, htwin]
      exact ((h.setGame hgame).setDriver _).tell _ _

theorem attemptLogin_alike (h : Station.Alike fails others station twin) (now : Nat) :
    Station.Alike fails others (attemptLogin now station) (attemptLogin now twin) := by
  unfold attemptLogin
  dsimp only
  rw [h.driver_eq]
  exact ((h.send _).setDriver _).tell _ _

theorem tryPing_alike (h : Station.Alike fails others station twin) (now : Nat) :
    Station.Alike fails others (tryPing now station) (tryPing now twin) := by
  unfold tryPing
  dsimp only
  rw [h.driver_eq]
  split_ifs
  · cases twin.driver.playerId with
    | none => exact h
    | some id =>
      dsimp only
      rcases Game.get?_cases_of_unsent_eq h.game_eq id with
        ⟨hstation, htwin⟩ | ⟨player, other, hstation, htwin, hplayer⟩
      · rw [hstation, htwin]
        exact h.tell _ _
      · -- what is pinged with is not part of what the two retain
        obtain ⟨-, -, hnext, hacks⟩ := Player.eq_of_unsent_eq hplayer
        let pinging (player : Player) : Player := player.takeMessageId.2
        have hpinging : (pinging player).unsent = (pinging other).unsent :=
          congrArg pinging hplayer
        have hmessage : other.takeMessageId.1 = player.takeMessageId.1 := hnext.symm
        have hacked : other.takeMessageId.2.ackCount = player.takeMessageId.2.ackCount :=
          hacks.symm
        rw [hstation, htwin]
        dsimp only
        rw [hmessage, hacked]
        exact (h.setDriver _).sendTracked hpinging _ _
  · exact h

theorem ignoresFailures : Role.IgnoresFailures Client where
  onLogin {_ _ station twin} h moment received := by
    change Station.Alike _ _ (onLogin moment received station) (onLogin moment received twin)
    unfold onLogin
    dsimp only
    rw [h.driver_eq]
    split_ifs
    · cases twin.driver.state with
      | fresh => exact enter_alike h ..
      | loggedIn => exact registerRemote_alike h ..
      | disconnected => exact h.tell _ _
    · exact h.tell _ _
  onPing h _ _ := h.tell _ _
  onAcknowledge h _ _ := h.tell _ _
  onTick {_ _ station twin} h moment := by
    change Station.Alike _ _ (onTick moment station).1 (onTick moment twin).1
      ∧ (onTick moment station).2 = (onTick moment twin).2
    unfold onTick
    rw [h.driver_eq]
    cases twin.driver.state with
    | fresh =>
      refine ⟨?_, rfl⟩
      dsimp only
      rw [tryLogin_eq, tryLogin_eq, h.driver_eq]
      split_ifs
      · exact attemptLogin_alike h moment.now
      · exact h
    | loggedIn => exact ⟨tryPing_alike h moment.now, rfl⟩
    | disconnected => exact ⟨h, rfl⟩
  obey {_ _ station twin} h
    | .disconnect => by
      change Station.Alike _ _ (disconnect station) (disconnect twin)
      unfold disconnect
      rw [h.driver_eq]
      split_ifs
      · exact h
      · exact (h.setDriver _).tell _ _

end Client

/-- A failed send affects nothing but that send. Whatever a server or a client is exposed to, two
schedules of failure leave the same state, the same waiting events and the same players but for what
is retained of them, and every tick answers the same. What goes out under a schedule is what goes
out when no send fails, without the datagrams at whose number the schedule fails. -/
theorem GameLoop.failed_sends_affect_nothing_else (params : GameParams)
    (first second : Nat → Bool) :
    (∀ (server : Server) history, Unaffected params server history first second)
    ∧ ∀ (client : Client) history, Unaffected params client history first second :=
  ⟨fun server history => Server.ignoresFailures.unaffected params server history first second,
    fun client history => Client.ignoresFailures.unaffected params client history first second⟩

end GridSession
