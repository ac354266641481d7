namespace GridSession

/-- A run of octets as it stands on the wire. -/
abbrev Bytes := List UInt8

namespace BigEndian

/-- How many numbers can be told apart in `width` octets. -/
def capacity : (width : Nat) → Nat
  | 0 => 1
  | width + 1 => 256 * capacity width

/-- The lowest `width` octets of a number. -/
def toBytes : (width : Nat) → (n : Nat) → Bytes
  | 0, _ => []
  | width + 1, n => UInt8.ofNat (n / capacity width) :: toBytes width n

def ofBytes : Bytes → Nat
  | [] => 0
  | octet :: rest => octet.toNat * capacity rest.length + ofBytes rest

theorem capacity_pos (width : Nat) : 0 < capacity width := by
  induction width with
  | zero => exact Nat.one_pos
  | succ width ih => exact Nat.mul_pos (by decide) ih

@[simp] theorem length_toBytes (width n : Nat) : (toBytes width n).length = width := by
  induction width with
  | zero => rfl
  | succ width ih => rw [toBytes, List.length_cons, ih]

theorem ofBytes_lt (bytes : Bytes) : ofBytes bytes < capacity bytes.length := by
  induction bytes with
  | nil => exact Nat.one_pos
  | cons octet rest ih =>
    have octet_lt : octet.toNat < 256 := octet.toNat_lt
    have : octet.toNat * capacity rest.length ≤ 255 * capacity rest.length :=
      Nat.mul_le_mul_right _ (by omega)
    rw [ofBytes, List.length_cons, capacity]
    omega

theorem ofBytes_toBytes (width n : Nat) : ofBytes (toBytes width n) = n % capacity width := by
  induction width with
  | zero => exact (Nat.mod_one n).symm
  | succ width ih =>
    have head : (UInt8.ofNat (n / capacity width)).toNat = n / capacity width % 256 :=
      UInt8.toNat_ofNat'
    rw [toBytes, ofBytes, length_toBytes, ih, head, capacity, Nat.mul_comm 256, Nat.mod_mul,
      Nat.mul_comm, Nat.add_comm]

theorem toBytes_add_mul_capacity (width n k : Nat) :
    toBytes width (n + k * capacity width) = toBytes width n := by
  induction width generalizing k with
  | zero => rfl
  | succ width ih =>
    have split : n + k * capacity (width + 1) = n + k * 256 * capacity width := by
      rw [capacity, Nat.mul_assoc]
    have head : UInt8.ofNat (n / capacity width + k * 256) = UInt8.ofNat (n / capacity width) := by
      apply UInt8.toNat_inj.1
      rw [UInt8.toNat_ofNat', UInt8.toNat_ofNat']
      exact Nat.add_mul_mod_self_right ..
    rw [split, toBytes, toBytes, ih, Nat.add_mul_div_right _ _ (capacity_pos width), head]

theorem toBytes_ofBytes (bytes : Bytes) : toBytes bytes.length (ofBytes bytes) = bytes := by
  induction bytes with
  | nil => rfl
  | cons octet rest ih =>
    have head : (octet.toNat * capacity rest.length + ofBytes rest) / capacity rest.length
        = octet.toNat := by
      rw [Nat.add_comm, Nat.add_mul_div_right _ _ (capacity_pos _),
        Nat.div_eq_of_lt (ofBytes_lt rest), Nat.zero_add]
    rw [List.length_cons, toBytes, ofBytes, head, Nat.add_comm, toBytes_add_mul_capacity, ih,
      UInt8.ofNat_toNat]

/-- The number in the `width` octets that start at `offset`. -/
def field (offset width : Nat) (bytes : Bytes) : Nat :=
  ofBytes ((bytes.drop offset).take width)

theorem capacity_le_capacity {m n : Nat} (h : m ≤ n) : capacity m ≤ capacity n := by
  induction h with
  | refl => exact Nat.le_refl _
  | step _ ih => rw [capacity]; omega

theorem field_lt (offset width : Nat) (bytes : Bytes) : field offset width bytes < capacity width :=
  Nat.lt_of_lt_of_le (ofBytes_lt _)
    (capacity_le_capacity (Nat.le_trans (Nat.le_of_eq List.length_take) (Nat.min_le_left ..)))

theorem field_toBytes (width n : Nat) (rest : Bytes) :
    field 0 width (toBytes width n ++ rest) = n % capacity width := by
  rw [field, List.drop_zero, List.take_left' (length_toBytes width n), ofBytes_toBytes]

theorem field_toBytes_append (skipped n offset width : Nat) (rest : Bytes) :
    field (skipped + offset) width (toBytes skipped n ++ rest) = field offset width rest := by
  have behind : (toBytes skipped n ++ rest).drop (skipped + offset) = rest.drop offset := by
    rw [← List.drop_drop, List.drop_left' (length_toBytes skipped n)]
  rw [field, behind, field]

theorem toBytes_field {offset width : Nat} {bytes : Bytes} (h : offset + width ≤ bytes.length) :
    toBytes width (field offset width bytes) = (bytes.drop offset).take width := by
  have length : ((bytes.drop offset).take width).length = width := by
    rw [List.length_take, List.length_drop]
    omega
  have written := toBytes_ofBytes ((bytes.drop offset).take width)
  rwa [length] at written

theorem ofNat_toNat_mod_uint16 (n : UInt16) : UInt16.ofNat (n.toNat % capacity 2) = n := by
  have fits : n.toNat < capacity 2 := n.toNat_lt
  rw [Nat.mod_eq_of_lt fits, UInt16.ofNat_toNat]

theorem ofNat_toNat_mod_uint32 (n : UInt32) : UInt32.ofNat (n.toNat % capacity 4) = n := by
  have fits : n.toNat < capacity 4 := n.toNat_lt
  rw [Nat.mod_eq_of_lt fits, UInt32.ofNat_toNat]

theorem ofNat_toNat_mod_uint64 (n : UInt64) : UInt64.ofNat (n.toNat % capacity 8) = n := by
  have fits : n.toNat < capacity 8 := n.toNat_lt
  rw [Nat.mod_eq_of_lt fits, UInt64.ofNat_toNat]

theorem toNat_ofNat_field_uint16 (offset : Nat) (bytes : Bytes) :
    (UInt16.ofNat (field offset 2 bytes)).toNat = field offset 2 bytes :=
  UInt16.toNat_ofNat_of_lt' (field_lt offset 2 bytes)

theorem toNat_ofNat_field_uint32 (offset : Nat) (bytes : Bytes) :
    (UInt32.ofNat (field offset 4 bytes)).toNat = field offset 4 bytes :=
  UInt32.toNat_ofNat_of_lt' (field_lt offset 4 bytes)

theorem toNat_ofNat_field_uint64 (offset : Nat) (bytes : Bytes) :
    (UInt64.ofNat (field offset 8 bytes)).toNat = field offset 8 bytes :=
  UInt64.toNat_ofNat_of_lt' (field_lt offset 8 bytes)

end BigEndian

end GridSession
