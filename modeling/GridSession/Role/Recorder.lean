import GridSession.GameLoop.Station

namespace GridSession

/-- Keeps every event with the number of events behind it, and ends its loop on demand. -/
structure Recorder where
  handled : List (Event × Nat) := []
  goesOn : Bool := true
deriving Inhabited

namespace Recorder

def add (moment : Moment) (event : Event) (station : Station Recorder) : Station Recorder :=
  { station with driver := { station.driver with
      handled := station.driver.handled ++ [(event, moment.pending)] } }

instance : Role Recorder where
  onLogin moment received := add moment (.login received)
  onPing moment received := add moment (.ping received)
  onAcknowledge moment received := add moment (.acknowledge received)
  onTick _ station := (station, station.driver.goesOn)

end Recorder

end GridSession
