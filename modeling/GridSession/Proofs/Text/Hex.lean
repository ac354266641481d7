import GridSession.Text.Hex
import Mathlib.Tactic.SplitIfs

namespace GridSession.Hex

theorem digit?_digitChar {n : Nat} (h : n < 16) : digit? n.digitChar = some n := by
  revert n
  decide

theorem toNat?_concat {text : List Char} {n digit : Nat} (h : toNat? text = some n)
    (hdigit : digit < 16) : toNat? (text ++ [digit.digitChar]) = some (16 * n + digit) := by
  cases text with
  | nil => cases h
  | cons c rest =>
    change (c :: rest).foldl _ (some 0) = some n at h
    change (c :: rest ++ [digit.digitChar]).foldl _ (some 0) = _
    rw [List.foldl_append, h]
    simp [digit?_digitChar hdigit]

theorem toNat?_toDigits (n : Nat) : toNat? (Nat.toDigits 16 n) = some n := by
  induction n using Nat.strongRecOn with
  | ind n ih =>
    rw [Nat.toDigits_eq_if (by decide)]
    split_ifs with hn
    · simp [toNat?, digit?_digitChar hn]
    · have hrest := ih (n / 16) (by omega)
      rw [toNat?_concat hrest (Nat.mod_lt n (by decide)), Nat.div_add_mod]

theorem exists_of_mem_toDigits {n : Nat} {c : Char} (h : c ∈ Nat.toDigits 16 n) :
    ∃ digit < 16, c = digit.digitChar := by
  induction n using Nat.strongRecOn with
  | ind n ih =>
    rw [Nat.toDigits_eq_if (by decide)] at h
    split_ifs at h with hn
    · exact ⟨n, hn, List.mem_singleton.mp h⟩
    · rcases List.mem_append.mp h with hrest | hlast
      · exact ih (n / 16) (by omega) hrest
      · exact ⟨n % 16, Nat.mod_lt n (by decide), List.mem_singleton.mp hlast⟩

theorem notMem_toDigits {n : Nat} {c : Char} (h : digit? c = none) : c ∉ Nat.toDigits 16 n := by
  intro hmem
  obtain ⟨digit, hdigit, rfl⟩ := exists_of_mem_toDigits hmem
  cases h.symm.trans (digit?_digitChar hdigit)

theorem octets?_digits (octet : UInt8) (rest : List Char) :
    octets? (digits 2 octet.toNat ++ rest) = (octets? rest).map (octet :: ·) := by
  have hlow : octet.toNat % 16 < 16 := Nat.mod_lt _ (by decide)
  have hhigh : octet.toNat / 16 % 16 < 16 := Nat.mod_lt _ (by decide)
  have hoctet : UInt8.ofNat (16 * (octet.toNat / 16 % 16) + octet.toNat % 16) = octet := by
    have hbound := octet.toNat_lt
    rw [show 16 * (octet.toNat / 16 % 16) + octet.toNat % 16 = octet.toNat by omega,
      UInt8.ofNat_toNat]
  simp only [digits, List.nil_append, List.cons_append, octets?, digit?_digitChar hlow,
    digit?_digitChar hhigh]
  cases octets? rest with
  | none => rfl
  | some bytes => exact congrArg (fun octet => some (octet :: bytes)) hoctet

/-- Octets written as pairs of digits are read back. -/
theorem toBytes?_ofBytes (bytes : Bytes) : toBytes? (ofBytes bytes) = some bytes := by
  rw [toBytes?, ofBytes, String.toList_ofList]
  induction bytes with
  | nil => rfl
  | cons octet rest ih => rw [List.flatMap_cons, octets?_digits, ih, Option.map_some]

end GridSession.Hex
