import GridSession.Bytes.BigEndian

namespace GridSession

/-- Octets over the start of a slot, as far as it has room for them, and whether it had. -/
def overwrite (slot bytes : Bytes) : Bytes × Bool :=
  (bytes.take slot.length ++ slot.drop bytes.length, decide (bytes.length ≤ slot.length))

theorem overwrite_of_length_eq {slot bytes : Bytes} (h : bytes.length = slot.length) :
    overwrite slot bytes = (bytes, true) := by
  simp [overwrite, ← h]

end GridSession
