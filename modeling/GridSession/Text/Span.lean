namespace GridSession.Span

/-- The digits behind the point of `part / size`, without trailing zeros. The size is a power of
ten, so its digits in front of those of `part` keep the zeros that `part` starts with. -/
def fraction (size part : Nat) : String :=
  let digits := (Nat.toDigits 10 (size + part)).drop 1
  String.ofList (digits.reverse.dropWhile (· == '0')).reverse

/-- A length of time in a unit of `size` nanoseconds. -/
def inUnit (size : Nat) (unit : String) (nanoseconds : Nat) : String :=
  let whole := toString (nanoseconds / size)
  let part := nanoseconds % size
  if part = 0 then whole ++ unit else whole ++ "." ++ fraction size part ++ unit

/-- A length of time in the largest unit of which it holds at least one, exactly. -/
def text (nanoseconds : Nat) : String :=
  if 1000000000 ≤ nanoseconds then inUnit 1000000000 "s" nanoseconds
  else if 1000000 ≤ nanoseconds then inUnit 1000000 "ms" nanoseconds
  else if 1000 ≤ nanoseconds then inUnit 1000 "µs" nanoseconds
  else inUnit 1 "ns" nanoseconds

end GridSession.Span
