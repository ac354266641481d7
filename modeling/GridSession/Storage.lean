namespace GridSession.Storage

/-- The most octets that one block of memory may have. -/
def largestBlock : Nat := 9223372036854775807

/-- One block can hold so many entries of so many octets each. -/
def Fits (entries octets : Nat) : Prop :=
  entries * octets ≤ largestBlock

instance (entries octets : Nat) : Decidable (Fits entries octets) :=
  inferInstanceAs (Decidable (_ ≤ _))

end GridSession.Storage
