import GridSession.Proofs.Server.Silence

namespace GridSession

/-- The game as if no tick had been counted. -/
def Game.untimed (game : Game) : Game :=
  { game with ticks := 0 }

theorem Game.enroll_setTicks (game : Game) (ticks : Nat) (endpoint : SocketAddress) (now : Nat) :
    { game with ticks }.enroll endpoint now
      = (game.enroll endpoint now).map fun enrolment =>
        { enrolment with game := { enrolment.game with ticks } } := by
  unfold enroll
  dsimp only
  cases game.roster.withEndpoint? endpoint with
  | some player => rfl
  | none =>
    dsimp only
    split_ifs
    · rfl
    · cases game.roster.insert? (.joining game.nextPlayerId (some endpoint) now) with
      | none => rfl
      | some grown => rfl

theorem Game.staleIds_untimed (game : Game) (now : Nat) :
    game.untimed.staleIds now = game.staleIds now :=
  rfl

namespace Server

/-- Two stations that differ in the ticks they counted, in what they reported and in what is written
down alone. -/
structure SameButTicks (station twin : Station Server) : Prop where
  game_eq : station.game.untimed = twin.game.untimed
  transport_eq : station.transport = twin.transport

namespace SameButTicks

variable {station twin other : Station Server}

theorem refl (station : Station Server) : SameButTicks station station :=
  ⟨rfl, rfl⟩

theorem symm (h : SameButTicks station twin) : SameButTicks twin station :=
  ⟨h.game_eq.symm, h.transport_eq.symm⟩

theorem trans (h : SameButTicks station twin) (hmore : SameButTicks twin other) :
    SameButTicks station other :=
  ⟨h.game_eq.trans hmore.game_eq, h.transport_eq.trans hmore.transport_eq⟩

theorem exists_eq (h : SameButTicks station twin) :
    ∃ driver ticks journal,
      twin = { station with driver, game := { station.game with ticks }, journal } := by
  obtain ⟨driver, ⟨grid, roster, maxPlayers, timeout, next, ticks⟩, transport, journal⟩ := twin
  obtain ⟨hgame, rfl⟩ := h
  refine ⟨driver, ticks, journal, ?_⟩
  simp only [Game.untimed, Game.mk.injEq, and_true] at hgame
  obtain ⟨rfl, rfl, rfl, rfl, rfl⟩ := hgame
  rfl

theorem staleIds_eq (h : SameButTicks station twin) (now : Nat) :
    station.game.staleIds now = twin.game.staleIds now := by
  rw [← Game.staleIds_untimed, h.game_eq, Game.staleIds_untimed]

theorem onLogin (h : SameButTicks station twin) (now pending pending' : Nat)
    (received : Received Login) :
    SameButTicks (onLogin ⟨now, pending⟩ received station)
      (onLogin ⟨now, pending'⟩ received twin) := by
  obtain ⟨driver, ticks, journal, rfl⟩ := h.exists_eq
  -- who is let in does not depend on how often the game has ticked
  have htwin := station.game.enroll_setTicks ticks (.v4 received.envelope.payload.returnTo) now
  cases henroll : station.game.enroll (.v4 received.envelope.payload.returnTo) now with
  | error refusal =>
    rw [henroll] at htwin
    simp only [Server.onLogin, henroll, htwin]
    exact ⟨rfl, rfl⟩
  | ok enrolment =>
    rw [henroll] at htwin
    rw [onLogin_of_enroll_eq_ok henroll, onLogin_of_enroll_eq_ok htwin]
    constructor
    · rw [game_answerLogin, game_answerLogin]
      rfl
    · rw [transport_answerLogin, transport_answerLogin]
      rfl

theorem onPing (h : SameButTicks station twin) (now pending pending' : Nat)
    (received : Received Ping) :
    SameButTicks (onPing ⟨now, pending⟩ received station)
      (onPing ⟨now, pending'⟩ received twin) := by
  obtain ⟨driver, ticks, journal, rfl⟩ := h.exists_eq
  unfold Server.onPing
  dsimp only
  split_ifs
  · exact ⟨rfl, rfl⟩
  · cases station.game.roster.get? received.envelope.payload.playerId with
    | none => exact ⟨rfl, rfl⟩
    | some player => exact ⟨rfl, rfl⟩

theorem handle (h : SameButTicks station twin) (now pending pending' : Nat) (event : Event) :
    SameButTicks (station.handle ⟨now, pending⟩ event) (twin.handle ⟨now, pending'⟩ event) := by
  have htold : SameButTicks (station.tell (.handling event.action event.sender))
      (twin.tell (.handling event.action event.sender)) := ⟨h.game_eq, h.transport_eq⟩
  cases event with
  | login received => exact htold.onLogin now pending pending' received
  | ping received => exact htold.onPing now pending pending' received
  | acknowledge received => exact ⟨h.game_eq, h.transport_eq⟩

theorem handleAll (h : SameButTicks station twin) (now : Nat) (events : List Event) :
    SameButTicks (Station.handleAll now events station) (Station.handleAll now events twin) := by
  induction events generalizing station twin with
  | nil => exact h
  | cons event rest ih => exact ih (h.handle now rest.length rest.length event)

/-- Events can be handled in two goes, though the first go does not know of those that wait for the
second. -/
theorem handleAll_append (h : SameButTicks station twin) (now : Nat) (front back : List Event) :
    SameButTicks (Station.handleAll now (front ++ back) station)
      (Station.handleAll now back (Station.handleAll now front twin)) := by
  induction front generalizing station twin with
  | nil => exact h.handleAll now back
  | cons event rest ih => exact ih (h.handle now (rest ++ back).length rest.length event)

end SameButTicks

theorem onTick_sameButTicks (moment : Moment) (station : Station Server) :
    SameButTicks (onTick moment station).1 station :=
  ⟨congrArg Game.untimed (game_onTick moment station), transport_onTick moment station⟩

end Server

namespace Server

/-- Datagrams that arrive together, and the tick that handles them. -/
def batch (now : Nat) (datagrams : List Datagram) : List GameLoop.Input :=
  datagrams.map .datagram ++ [.tick now]

/-- Two loops that differ in the ticks they counted and in what is written down alone. -/
structure SameOutcome (loop twin : GameLoop Server) : Prop where
  same : SameButTicks loop.toStation twin.toStation
  driver_eq : loop.driver = twin.driver
  inbox_eq : loop.inbox = twin.inbox

theorem SameOutcome.trans {loop twin other : GameLoop Server} (h : SameOutcome loop twin)
    (hmore : SameOutcome twin other) : SameOutcome loop other :=
  ⟨h.same.trans hmore.same, h.driver_eq.trans hmore.driver_eq, h.inbox_eq.trans hmore.inbox_eq⟩

/-- A tick reports on silences by the table as the waiting events leave it. -/
theorem tick_sameOutcome {loop twin : GameLoop Server} (now : Nat)
    (h : SameButTicks (Station.handleAll now loop.inbox loop.counted)
      (Station.handleAll now twin.inbox twin.counted)) :
    SameOutcome (loop.tick now).1 (twin.tick now).1 := by
  have hstale : (loop.tick now).1.driver.stale = (twin.tick now).1.driver.stale := by
    rw [GameLoop.tick_eq, GameLoop.tick_eq]
    have hfirst := stale_onTick ⟨now, 0⟩ (Station.handleAll now loop.inbox loop.counted)
    have hsecond := stale_onTick ⟨now, 0⟩ (Station.handleAll now twin.inbox twin.counted)
    exact hfirst.trans ((h.staleIds_eq now).trans hsecond.symm)
  refine ⟨?_, congrArg Server.mk hstale, rfl⟩
  exact ((onTick_sameButTicks ⟨now, 0⟩ _).trans h).trans (onTick_sameButTicks ⟨now, 0⟩ _).symm

theorem run_batch (loop : GameLoop Server) (now : Nat) (datagrams : List Datagram) :
    loop.run (batch now datagrams) = ((loop.run (datagrams.map .datagram)).tick now).1 := by
  rw [batch, GameLoop.run_append]
  rfl

theorem counted_run_datagrams (loop : GameLoop Server) (datagrams : List Datagram) :
    SameButTicks (loop.run (datagrams.map .datagram)).counted loop.toStation := by
  rw [GameLoop.run_datagrams]
  exact ⟨rfl, rfl⟩

/-- A batch can be cut in two. -/
theorem run_batch_append (loop : GameLoop Server) (now : Nat) (front back : List Datagram) :
    SameOutcome (loop.run (batch now (front ++ back)))
      ((loop.run (batch now front)).run (batch now back)) := by
  let received := loop.run (front.map .datagram)
  let between := (received.tick now).1
  let later := between.run (back.map .datagram)
  have hreceived : received.inbox = loop.inbox ++ front.filterMap Event.decoded? := by
    rw [show received = _ from GameLoop.run_datagrams ..]
  have hlater : later.inbox = back.filterMap Event.decoded? := by
    rw [show later = _ from GameLoop.run_datagrams ..]
    rfl
  have hwhole : (loop.run ((front ++ back).map .datagram)).inbox
      = received.inbox ++ later.inbox := by
    rw [GameLoop.run_datagrams, hreceived, hlater, List.filterMap_append, List.append_assoc]
  -- the tick in between takes what waited and leaves what its events left
  have hfirst : SameButTicks (loop.run ((front ++ back).map .datagram)).counted received.counted :=
    (counted_run_datagrams ..).trans (counted_run_datagrams ..).symm
  have hsecond : SameButTicks (Station.handleAll now received.inbox received.counted)
      later.counted :=
    (onTick_sameButTicks ⟨now, 0⟩ _).symm.trans (counted_run_datagrams between back).symm
  rw [run_batch, run_batch, run_batch]
  refine tick_sameOutcome now ?_
  rw [hwhole]
  exact (hfirst.handleAll_append now _ _).trans (hsecond.handleAll now _)

theorem run_batches (loop : GameLoop Server) (now : Nat) (first : List Datagram)
    (rest : List (List Datagram)) :
    SameOutcome (loop.run (batch now (first ++ rest.flatten)))
      (loop.run ((first :: rest).flatMap (batch now))) := by
  induction rest generalizing loop first with
  | nil =>
    rw [List.flatten_nil, List.append_nil, List.flatMap_singleton]
    exact ⟨.refl _, rfl, rfl⟩
  | cons second rest ih =>
    rw [List.flatten_cons, List.flatMap_cons, GameLoop.run_append]
    exact (run_batch_append loop now first _).trans (ih (loop.run (batch now first)) second)

/-- How datagrams are batched into ticks does not matter to a server. In whatever state it is and
whichever sends fail, handling a sequence of datagrams in one tick and handling it group by group,
each in a tick at the same time, leave the same game but for the ticks counted, the same reports,
the same sent datagrams and nothing waiting. -/
theorem batches_are_invisible (loop : GameLoop Server) (now : Nat) (first : List Datagram)
    (rest : List (List Datagram)) :
    let whole := loop.run (batch now (first ++ rest.flatten))
    let cut := loop.run ((first :: rest).flatMap (batch now))
    whole.game = { cut.game with ticks := whole.game.ticks }
    ∧ whole.driver.stale = cut.driver.stale
    ∧ whole.transport = cut.transport
    ∧ whole.inbox = [] ∧ cut.inbox = [] := by
  intro whole cut
  obtain ⟨hsame, hdriver, hinbox⟩ := run_batches loop now first rest
  have hempty : whole.inbox = [] := by
    rw [show whole = _ from run_batch ..]
    rfl
  refine ⟨?_, congrArg Server.stale hdriver, hsame.transport_eq, hempty, hinbox.symm.trans hempty⟩
  obtain ⟨driver, ticks, journal, htwin⟩ := hsame.exists_eq
  rw [show cut.game = { whole.game with ticks } from congrArg Station.game htwin]

end Server

end GridSession
