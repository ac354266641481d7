import GridSession.Proofs.GameLoop.Queue
import GridSession.Role.Recorder

namespace GridSession

namespace Recorder

/-- Events as they are recorded in one tick, each with the number of events behind it. -/
def countdown : List Event → List (Event × Nat)
  | [] => []
  | event :: rest => (event, rest.length) :: countdown rest

@[simp] theorem map_fst_countdown (events : List Event) :
    (countdown events).map Prod.fst = events := by
  induction events with
  | nil => rfl
  | cons event rest ih => rw [countdown, List.map_cons, ih]

def record (station : Station Recorder) (entries : List (Event × Nat)) : Station Recorder :=
  { station with
    driver := { station.driver with handled := station.driver.handled ++ entries }
    journal := station.journal
      ++ entries.map fun entry => .handling entry.1.action entry.1.sender }

theorem handle_eq (moment : Moment) (event : Event) (station : Station Recorder) :
    station.handle moment event = record station [(event, moment.pending)] := by
  cases event <;> rfl

theorem record_record (station : Station Recorder) (first later : List (Event × Nat)) :
    record (record station first) later = record station (first ++ later) := by
  simp [record]

theorem handleAll_eq (now : Nat) (events : List Event) (station : Station Recorder) :
    Station.handleAll now events station = record station (countdown events) := by
  induction events generalizing station with
  | nil => simp [Station.handleAll, countdown, record]
  | cons event rest ih =>
    rw [Station.handleAll, ih, handle_eq, record_record]
    rfl

/-- A tick records what waited, writes down that it was handled and does nothing else. Whether the
loop goes on was set before. -/
theorem tick_eq (loop : GameLoop Recorder) (now : Nat) :
    loop.tick now
      = (⟨record loop.counted (countdown loop.inbox), []⟩, loop.driver.goesOn) := by
  rw [GameLoop.tick_eq, handleAll_eq]
  rfl

theorem recorder_keepsTicks : Role.KeepsTicks Recorder where
  onLogin _ _ _ := rfl
  onPing _ _ _ := rfl
  onAcknowledge _ _ _ := rfl
  onTick _ _ := rfl

theorem recorded_perform (command : GameLoop.Command) (loop : GameLoop Recorder) :
    (loop.perform command).driver.handled.map Prod.fst ++ (loop.perform command).inbox
      = loop.driver.handled.map Prod.fst ++ loop.inbox ++ command.event?.toList := by
  cases htick : command.isTick with
  | false =>
    obtain ⟨notes, hperform⟩ := GameLoop.perform_eq_of_not_isTick htick loop
    rw [hperform, List.append_assoc]
  | true =>
    cases command with
    | tick now =>
      simp [GameLoop.perform, tick_eq, record, GameLoop.counted, GameLoop.Command.event?]
    | datagram datagram => cases htick
    | message action datagram => cases htick

/-- A recorder has seen all that was queued except what still waits, in order of arrival. -/
theorem recorded_performAll (commands : List GameLoop.Command) (loop : GameLoop Recorder) :
    (loop.performAll commands).driver.handled.map Prod.fst ++ (loop.performAll commands).inbox
      = loop.driver.handled.map Prod.fst ++ loop.inbox
        ++ commands.filterMap GameLoop.Command.event? := by
  induction commands generalizing loop with
  | nil => exact (List.append_nil _).symm
  | cons command rest ih =>
    rw [GameLoop.performAll_cons, ih, recorded_perform, List.append_assoc]
    cases hevent : command.event? <;> simp [hevent]

end Recorder

end GridSession
