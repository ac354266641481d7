import GridSession.SelfTest

open GridSession

/-- Prints the journal of the self-test, or the first check that fails. -/
def main : IO UInt32 := do
  match SelfTest.run with
  | .ok notes =>
    for note in notes do
      IO.println note.line
    return 0
  | .error failure =>
    IO.eprintln failure.message
    return 1
