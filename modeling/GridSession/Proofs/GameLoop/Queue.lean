import GridSession.Proofs.GameLoop.Decoding
import GridSession.Role.Echo

namespace GridSession

inductive Call where
  | login (moment : Moment) (received : Received Login)
  | ping (moment : Moment) (received : Received Ping)
  | acknowledge (moment : Moment) (received : Received Acknowledge)
  | tick (moment : Moment) (goesOn : Bool)
deriving DecidableEq

namespace Call

def handling (moment : Moment) : Event → Call
  | .login received => login moment received
  | .ping received => ping moment received
  | .acknowledge received => acknowledge moment received

def event? : Call → Option Event
  | login _ received => some (.login received)
  | ping _ received => some (.ping received)
  | acknowledge _ received => some (.acknowledge received)
  | tick .. => none

@[simp] theorem event?_handling (moment : Moment) (event : Event) :
    (handling moment event).event? = some event := by
  cases event <;> rfl

/-- The calls that hand over waiting events, one for each and oldest first. -/
def handlings (now : Nat) : List Event → List Call
  | [] => []
  | event :: rest => handling ⟨now, rest.length⟩ event :: handlings now rest

@[simp] theorem filterMap_event?_handlings (now : Nat) (events : List Event) :
    (handlings now events).filterMap event? = events := by
  induction events with
  | nil => rfl
  | cons event rest ih => simp [handlings, ih]

end Call

structure Watched (δ : Type) where
  role : δ
  calls : List Call := []

variable {δ : Type}

def Station.unwatched (station : Station (Watched δ)) : Station δ :=
  ⟨station.driver.role, station.game, station.transport, station.journal⟩

def GameLoop.unwatched (loop : GameLoop (Watched δ)) : GameLoop δ :=
  ⟨loop.toStation.unwatched, loop.inbox⟩

namespace Watched

def after (call : Call) (before : Station (Watched δ)) (worked : Station δ) :
    Station (Watched δ) :=
  ⟨⟨worked.driver, before.driver.calls ++ [call]⟩, worked.game, worked.transport, worked.journal⟩

instance [Role δ] : Role (Watched δ) where
  onLogin moment received station :=
    after (.login moment received) station (Role.onLogin moment received station.unwatched)
  onPing moment received station :=
    after (.ping moment received) station (Role.onPing moment received station.unwatched)
  onAcknowledge moment received station :=
    after (.acknowledge moment received) station
      (Role.onAcknowledge moment received station.unwatched)
  onTick moment station :=
    let (worked, goesOn) := Role.onTick moment station.unwatched
    (after (.tick moment goesOn) station worked, goesOn)

end Watched

section Watching

variable [Role δ] {loop : GameLoop (Watched δ)}

theorem Station.unwatched_handle (moment : Moment) (event : Event) (station : Station (Watched δ)) :
    (station.handle moment event).unwatched = station.unwatched.handle moment event := by
  cases event <;> rfl

theorem Station.calls_handle (moment : Moment) (event : Event) (station : Station (Watched δ)) :
    (station.handle moment event).driver.calls
      = station.driver.calls ++ [.handling moment event] := by
  cases event <;> rfl

theorem Station.unwatched_handleAll (now : Nat) (events : List Event)
    (station : Station (Watched δ)) :
    (handleAll now events station).unwatched = handleAll now events station.unwatched := by
  induction events generalizing station with
  | nil => rfl
  | cons event rest ih => rw [handleAll, handleAll, ih, unwatched_handle]

theorem Station.calls_handleAll (now : Nat) (events : List Event) (station : Station (Watched δ)) :
    (handleAll now events station).driver.calls
      = station.driver.calls ++ Call.handlings now events := by
  induction events generalizing station with
  | nil => exact (List.append_nil _).symm
  | cons event rest ih => simp [handleAll, Call.handlings, ih, calls_handle]

/-- Watching changes neither what a tick does nor what it answers. -/
theorem GameLoop.unwatched_tick (loop : GameLoop (Watched δ)) (now : Nat) :
    (loop.tick now).1.unwatched = (loop.unwatched.tick now).1
      ∧ (loop.tick now).2 = (loop.unwatched.tick now).2 := by
  have hhandled := Station.unwatched_handleAll now loop.inbox loop.counted
  rw [show loop.counted.unwatched = loop.unwatched.counted from rfl] at hhandled
  rw [tick_eq loop.unwatched, show loop.unwatched.inbox = loop.inbox from rfl, ← hhandled]
  exact ⟨rfl, rfl⟩

theorem GameLoop.calls_tick (now : Nat) :
    (loop.tick now).1.driver.calls = loop.driver.calls ++ Call.handlings now loop.inbox
      ++ [.tick ⟨now, 0⟩ (loop.tick now).2] :=
  congrArg (· ++ [Call.tick ⟨now, 0⟩ (loop.tick now).2])
    (Station.calls_handleAll now loop.inbox loop.counted)

end Watching

/-- A role that leaves the count of ticks to its loop. -/
structure Role.KeepsTicks (δ : Type) [Role δ] : Prop where
  onLogin : ∀ moment received (station : Station δ),
    (Role.onLogin moment received station).game.ticks = station.game.ticks
  onPing : ∀ moment received (station : Station δ),
    (Role.onPing moment received station).game.ticks = station.game.ticks
  onAcknowledge : ∀ moment received (station : Station δ),
    (Role.onAcknowledge moment received station).game.ticks = station.game.ticks
  onTick : ∀ moment (station : Station δ),
    (Role.onTick moment station).1.game.ticks = station.game.ticks

section Ticks

variable [Role δ]

theorem Role.KeepsTicks.handle (h : KeepsTicks δ) (moment : Moment) (event : Event)
    (station : Station δ) : (station.handle moment event).game.ticks = station.game.ticks := by
  cases event with
  | login received => exact h.onLogin ..
  | ping received => exact h.onPing ..
  | acknowledge received => exact h.onAcknowledge ..

theorem Role.KeepsTicks.tick (h : KeepsTicks δ) (loop : GameLoop δ) (now : Nat) :
    (loop.tick now).1.game.ticks = loop.game.ticks + 1 := by
  rw [GameLoop.tick_eq, h.onTick]
  apply Station.handleAll_induction (P := fun station => station.game.ticks = loop.game.ticks + 1)
  · intro event _ moment station hstation
    rw [h.handle, hstation]
  · rfl

end Ticks

namespace GameLoop

/-- What a loop is told from outside. A datagram is queued by the action that it carries, or as a
message of an action that is given. -/
inductive Command where
  | datagram (datagram : Datagram)
  | message (action : Action) (datagram : Datagram)
  | tick (now : Nat)
deriving DecidableEq

namespace Command

def event? : Command → Option Event
  | .datagram arrived => Event.decoded? arrived
  | .message action arrived =>
    match Event.ofDatagram? arrived action with
    | some (.ok event) => some event
    | _ => none
  | .tick _ => none

/-- A command brings an event if its datagram spells it and no other action was asked for. -/
inductive Brings : Command → Event → Prop where
  | datagram {datagram : Datagram} {event : Event} (h : datagram.Spells event) :
    Brings (.datagram datagram) event
  | message {action : Action} {datagram : Datagram} {event : Event} (h : datagram.Spells event)
    (haction : event.action = action) : Brings (.message action datagram) event

theorem event?_eq_some_iff {command : Command} {event : Event} :
    command.event? = some event ↔ command.Brings event := by
  constructor
  · intro h
    cases command with
    | datagram datagram => exact .datagram (Event.decoded?_eq_some_iff.mp h)
    | message action datagram =>
      simp only [event?] at h
      split at h
      · rename_i hevent
        cases h
        obtain ⟨hspells, haction⟩ := Event.ofDatagram?_eq_some_ok_iff.mp hevent
        exact .message hspells haction
      · cases h
    | tick now => cases h
  · intro h
    cases h with
    | datagram h => exact Event.decoded?_eq_some_iff.mpr h
    | message h haction => simp [event?, Event.ofDatagram?_eq_some_ok_iff.mpr ⟨h, haction⟩]

def isTick : Command → Bool
  | .tick _ => true
  | _ => false

end Command

variable [Role δ]

def perform (loop : GameLoop δ) : Command → GameLoop δ
  | .datagram datagram => loop.onDatagram datagram
  | .message action datagram => (loop.onMessage action datagram).1
  | .tick now => (loop.tick now).1

def performAll (loop : GameLoop δ) (commands : List Command) : GameLoop δ :=
  commands.foldl perform loop

theorem performAll_cons (loop : GameLoop δ) (command : Command) (rest : List Command) :
    loop.performAll (command :: rest) = (loop.perform command).performAll rest :=
  rfl

/-- A command that is no tick queues its event, if it has one, and writes notes. -/
theorem perform_eq_of_not_isTick {command : Command} (h : command.isTick = false)
    (loop : GameLoop δ) :
    ∃ notes, loop.perform command = { loop with
      inbox := loop.inbox ++ command.event?.toList, journal := loop.journal ++ notes } := by
  cases command with
  | datagram datagram => exact ⟨_, onDatagram_eq loop datagram⟩
  | message action datagram =>
    simp only [perform, onMessage, Command.event?]
    rcases Event.ofDatagram? datagram action with _ | error | event
    · exact ⟨[.actionMissing datagram.sender], by simp [tell, Station.tell]⟩
    · exact ⟨[.messageDropped action datagram.sender error], by simp [tell, Station.tell]⟩
    · exact ⟨[], by simp⟩
  | tick now => cases h

theorem unwatched_perform (command : Command) (loop : GameLoop (Watched δ)) :
    (loop.perform command).unwatched = loop.unwatched.perform command := by
  cases command with
  | datagram datagram =>
    rw [perform, perform, onDatagram_eq, onDatagram_eq]
    rfl
  | message action datagram =>
    simp only [perform, onMessage]
    rcases Event.ofDatagram? datagram action with _ | error | event <;> rfl
  | tick now => exact (unwatched_tick loop now).1

theorem unwatched_performAll (commands : List Command) (loop : GameLoop (Watched δ)) :
    (loop.performAll commands).unwatched = loop.unwatched.performAll commands := by
  induction commands generalizing loop with
  | nil => rfl
  | cons command rest ih =>
    rw [performAll_cons, performAll_cons, ih, unwatched_perform]

/-- The events handed over so far and those that wait, oldest first. -/
def queued (loop : GameLoop (Watched δ)) : List Event :=
  loop.driver.calls.filterMap Call.event? ++ loop.inbox

theorem queued_perform (command : Command) (loop : GameLoop (Watched δ)) :
    (loop.perform command).queued = loop.queued ++ command.event?.toList := by
  cases htick : command.isTick with
  | false =>
    obtain ⟨notes, hperform⟩ := perform_eq_of_not_isTick htick loop
    rw [hperform, queued, queued, List.append_assoc]
  | true =>
    cases command with
    | tick now =>
      -- what waited is now among the calls
      have hinbox : (loop.perform (.tick now)).inbox = [] := rfl
      have hcalls : (loop.perform (.tick now)).driver.calls = _ := calls_tick now
      rw [queued, hinbox, hcalls]
      simp [queued, Call.event?, Command.event?]
    | datagram datagram => cases htick
    | message action datagram => cases htick

theorem queued_performAll (commands : List Command) (loop : GameLoop (Watched δ)) :
    (loop.performAll commands).queued = loop.queued ++ commands.filterMap Command.event? := by
  induction commands generalizing loop with
  | nil => simp [performAll]
  | cons command rest ih =>
    rw [performAll_cons, ih, queued_perform]
    cases hevent : command.event? <;> simp [hevent]

theorem ticks_performAll (hticks : Role.KeepsTicks δ) (commands : List Command)
    (loop : GameLoop δ) :
    (loop.performAll commands).game.ticks = loop.game.ticks + commands.countP Command.isTick := by
  induction commands generalizing loop with
  | nil => rfl
  | cons command rest ih =>
    rw [performAll_cons, ih, List.countP_cons]
    cases htick : command.isTick with
    | false =>
      obtain ⟨notes, hperform⟩ := perform_eq_of_not_isTick htick loop
      simp [hperform]
    | true =>
      -- of the commands only ticks count
      cases command with
      | tick now =>
        rw [perform, hticks.tick]
        simp
        omega
      | datagram datagram => cases htick
      | message action datagram => cases htick

/-- Whatever a role does and however its loop is used, every event that was queued is handed to the
role once, in order of arrival, or still waits. Only ticks hand any over: a tick calls the handler
of each waiting event, then the role's own work once, answers what that answers, and adds one to the
count of ticks. -/
theorem events_conserved (hticks : Role.KeepsTicks δ) (params : GameParams) (role : δ)
    (transport : Transport) (commands : List Command) :
    let plain := (GameLoop.start params role transport).performAll commands
    let loop := (GameLoop.start params ({ role } : Watched δ) transport).performAll commands
    loop.unwatched = plain
    ∧ loop.driver.calls.filterMap Call.event? ++ loop.inbox = commands.filterMap Command.event?
    ∧ (∀ (command : Command) event, command.event? = some event ↔ command.Brings event)
    ∧ (∀ command : Command, command.isTick = false →
      (loop.perform command).driver.calls = loop.driver.calls)
    ∧ plain.game.ticks = commands.countP Command.isTick
    ∧ ∀ now,
      (loop.tick now).1.unwatched = (plain.tick now).1
      ∧ (plain.tick now).1.inbox = []
      ∧ (loop.tick now).1.driver.calls = loop.driver.calls ++ Call.handlings now plain.inbox
        ++ [.tick ⟨now, 0⟩ (plain.tick now).2]
      ∧ (plain.tick now).1.game.ticks = plain.game.ticks + 1 := by
  intro plain loop
  have hplain : loop.unwatched = plain := unwatched_performAll commands _
  -- what was called and what waits make up what arrived, after every command
  have hqueued : loop.queued = _ := queued_performAll commands _
  refine ⟨hplain, ?_, fun _ _ => Command.event?_eq_some_iff, ?_, ?_, fun now => ?_⟩
  · simpa [queued, start] using hqueued
  · intro command htick
    obtain ⟨notes, hperform⟩ := perform_eq_of_not_isTick htick loop
    rw [hperform]
  · have hcount := ticks_performAll hticks commands (start params role transport)
    rwa [show (start params role transport).game.ticks = 0 from rfl, Nat.zero_add] at hcount
  · obtain ⟨htick, hanswer⟩ := unwatched_tick loop now
    rw [hplain] at htick hanswer
    refine ⟨htick, rfl, ?_, hticks.tick plain now⟩
    rw [← hanswer, ← hplain]
    exact calls_tick now

theorem echo_keepsTicks : Role.KeepsTicks Echo where
  onLogin _ _ _ := rfl
  onPing _ received station := by
    change (Echo.reply received station).game.ticks = station.game.ticks
    unfold Echo.reply
    dsimp only
    split <;> rfl
  onAcknowledge _ _ _ := rfl
  onTick _ _ := rfl

def somePing : Received Ping :=
  ⟨.v4 ⟨.localhost, 7⟩, (Envelope.ofPayload { playerId := 1, lastAckId := 17 } 3).stamped⟩

def someLogin : Received Login :=
  ⟨.v4 ⟨.localhost, 8⟩, (Envelope.ofPayload { returnTo := ⟨.localhost, 40000⟩ }).stamped⟩

def someAcknowledge : Received Acknowledge :=
  ⟨.v4 ⟨.localhost, 9⟩, (Envelope.ofPayload { ackedId := 5 } 1).stamped⟩

/-- Both ways to queue are used, a login is once taken for a ping, and three octets are no frame. -/
def someCommands : List Command :=
  [.datagram ⟨somePing.sender, Frame.wrap somePing.envelope.body⟩,
    .message .ping ⟨someLogin.sender, Frame.wrap someLogin.envelope.body⟩,
    .message .login ⟨someLogin.sender, Frame.wrap someLogin.envelope.body⟩,
    .tick 5, .datagram ⟨someLogin.sender, [1, 2, 3]⟩,
    .datagram ⟨someAcknowledge.sender, Frame.wrap someAcknowledge.envelope.body⟩]

theorem echo_events_conserved :
    Role.KeepsTicks Echo
    ∧ let loop := (GameLoop.start {} ({ role := {} } : Watched Echo)).performAll someCommands
      loop.driver.calls.filterMap Call.event? ++ loop.inbox
        = [.ping somePing, .login someLogin, .acknowledge someAcknowledge] := by
  refine ⟨echo_keepsTicks, ?_⟩
  obtain ⟨-, hqueued, -⟩ := events_conserved echo_keepsTicks {} {} {} someCommands
  exact hqueued.trans (by decide)

end GameLoop

end GridSession
