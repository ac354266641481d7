namespace GridSession

/-- The request stays. One permit is kept for whoever waits for it first. -/
structure StopSignal where
  requested : Bool := false
  permit : Bool := false
deriving DecidableEq, Inhabited

namespace StopSignal

/-- The answer is whether this request was the first. -/
def request (signal : StopSignal) : StopSignal × Bool :=
  if signal.requested then (signal, false) else (⟨true, true⟩, true)

/-- The request, if it is made at all. -/
def requestIf (signal : StopSignal) (made : Bool) : StopSignal :=
  if made then signal.request.1 else signal

/-- Looks once for the permit and uses it up. -/
def poll (signal : StopSignal) : StopSignal × Bool :=
  ({ signal with permit := false }, signal.permit)

end StopSignal

end GridSession
