import GridSession.Proofs.Frame.Sealed

namespace GridSession

namespace Digest

/-- The inverse of `prime` among the numbers of 64 bits. -/
def primeInverse : UInt64 := 14886173955864302971

theorem prime_mul_primeInverse : prime * primeInverse = 1 := by decide

theorem mul_prime_injective {m n : UInt64} (h : m * prime = n * prime) : m = n := by
  have hmul := congrArg (· * primeInverse) h
  simpa only [UInt64.mul_assoc, prime_mul_primeInverse, UInt64.mul_one] using hmul

theorem absorb_left_injective {digest other : UInt64} {octet : UInt8}
    (h : absorb digest octet = absorb other octet) : digest = other :=
  (UInt64.xor_left_inj _).mp (mul_prime_injective h)

theorem absorb_right_injective {digest : UInt64} {octet other : UInt8}
    (h : absorb digest octet = absorb digest other) : octet = other :=
  UInt8.toUInt64_inj.mp ((UInt64.xor_right_inj _).mp (mul_prime_injective h))

theorem absorbAll_injective {bytes : Bytes} {digest other : UInt64}
    (h : absorbAll digest bytes = absorbAll other bytes) : digest = other := by
  induction bytes generalizing digest other with
  | nil => exact h
  | cons octet rest ih => exact absorb_left_injective (ih h)

theorem getElem?_eq_of_absorbAll_set {bytes : Bytes} {digest : UInt64} {index : Nat} {octet : UInt8}
    (hindex : index < bytes.length)
    (h : absorbAll digest (bytes.set index octet) = absorbAll digest bytes) :
    bytes[index]? = some octet := by
  induction bytes generalizing digest index with
  | nil => exact absurd hindex (Nat.not_lt_zero _)
  | cons head rest ih =>
    cases index with
    | zero =>
      -- the octets behind are the same, so the digests agree before them
      apply congrArg some
      exact (absorb_right_injective (absorbAll_injective h)).symm
    | succ index => exact ih (Nat.lt_of_succ_lt_succ hindex) h

/-- One replaced octet never goes unnoticed. -/
theorem fnv1a_set_ne {bytes : Bytes} {index : Nat} {octet : UInt8} (hindex : index < bytes.length)
    (hne : bytes[index]? ≠ some octet) : fnv1a (bytes.set index octet) ≠ fnv1a bytes :=
  fun h => hne (getElem?_eq_of_absorbAll_set hindex h)

end Digest

namespace BigEndian

theorem field_set {offset width index : Nat} (h : index < offset ∨ offset + width ≤ index)
    (octet : UInt8) (bytes : Bytes) :
    field offset width (bytes.set index octet) = field offset width bytes := by
  unfold field
  rw [List.drop_set]
  split_ifs with hbefore
  · rfl
  · have hbehind : ((bytes.drop offset).take width).length ≤ index - offset := by
      rw [List.length_take]
      omega
    rw [List.take_set, List.set_eq_of_length_le hbehind]

end BigEndian

namespace Frame

/-- What comes of sent octets when exactly one of them is replaced, outside the size field that a
header ends with. -/
inductive Damaged (sent : Bytes) : Bytes → Prop where
  | replace {index : Nat} {octet : UInt8} (hindex : index < sent.length)
      (houtside : index < 10 ∨ Header.width ≤ index) (hne : sent[index]? ≠ some octet) :
      Damaged sent (sent.set index octet)

variable {body rest : Bytes} {index : Nat} {octet : UInt8}

theorem size_ofBytes_set (houtside : index < 10 ∨ Header.width ≤ index) (octet : UInt8)
    (bytes : Bytes) :
    (Header.ofBytes (bytes.set index octet)).size = (Header.ofBytes bytes).size :=
  congrArg UInt32.ofNat (BigEndian.field_set houtside octet bytes)

theorem ofBytes_set (hbehind : Header.width ≤ index) (octet : UInt8) (bytes : Bytes) :
    Header.ofBytes (bytes.set index octet) = Header.ofBytes bytes := by
  have hwidth : 14 ≤ index := hbehind
  unfold Header.ofBytes
  rw [BigEndian.field_set (by omega), BigEndian.field_set (by omega),
    BigEndian.field_set (by omega)]

/-- A sealed frame with one of its octets replaced is no frame any more. -/
theorem unwrap_set_wrap_append_ne_ok (hlong : body.length ≤ maxBody)
    (hindex : index < (wrap body).length) (houtside : index < 10 ∨ Header.width ≤ index)
    (hne : (wrap body ++ rest)[index]? ≠ some octet) (opened : Message × Bytes) :
    unwrap ((wrap body ++ rest).set index octet) ≠ .ok opened := by
  intro h
  obtain ⟨body', rest', hbytes, -, hlong', -⟩ := eq_wrap_append_of_unwrap h
  have hlength : body'.length = body.length := by
    have hsize := size_ofBytes_set houtside octet (wrap body ++ rest)
    rw [hbytes, ofBytes_wrap_append, ofBytes_wrap_append] at hsize
    rw [← toNat_size_describing hlong', hsize, toNat_size_describing hlong]
  have hdrop := congrArg (List.drop Header.width) hbytes
  rw [List.drop_set, drop_wrap_append, drop_wrap_append] at hdrop
  split_ifs at hdrop with hbefore
  · -- the body is intact, and a body has only one header
    obtain ⟨rfl, rfl⟩ := List.append_inj hdrop hlength.symm
    rw [← hbytes, List.getElem?_set_self (by simp; simp at hindex; omega)] at hne
    exact hne rfl
  · -- the header is intact, but the digest in it is that of another body
    have hheader := ofBytes_set (Nat.le_of_not_lt hbefore) octet (wrap body ++ rest)
    rw [hbytes, ofBytes_wrap_append, ofBytes_wrap_append] at hheader
    rw [length_wrap] at hindex
    have hinside : index - Header.width < body.length := by omega
    rw [List.set_append_left _ _ hinside] at hdrop
    obtain ⟨rfl, -⟩ := List.append_inj hdrop (by rw [List.length_set, hlength])
    refine Digest.fnv1a_set_ne hinside ?_ (congrArg Header.digest hheader)
    rwa [wrap, List.append_assoc, List.getElem?_append_right (by simp; omega),
      Header.length_toBytes, List.getElem?_append_left hinside] at hne

theorem Damaged.unwrap_ne_ok {arrived : Bytes} (hlong : body.length ≤ maxBody)
    (h : Damaged (wrap body) arrived) (opened : Message × Bytes) : unwrap arrived ≠ .ok opened := by
  cases h with
  | @replace index octet hindex houtside hne =>
    rw [← List.append_nil (wrap body)] at hne ⊢
    exact unwrap_set_wrap_append_ne_ok hlong hindex houtside hne opened

end Frame

end GridSession
