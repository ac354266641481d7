import GridSession.Address.Parser

namespace GridSession

theorem pieces_eq_splitOn (separator : Char) (text : List Char) :
    pieces separator text = text.splitOn separator := by
  induction text with
  | nil => simp [pieces]
  | cons c rest ih =>
    rw [pieces, ih, List.splitOn_cons_eq_if_modifyHead]
    cases hrest : rest.splitOn separator with
    | nil => simp at hrest
    | cons first others => simp

theorem pieces_intercalate {separator : Char} {parts : List (List Char)}
    (h : ∀ part ∈ parts, separator ∉ part) (hne : parts ≠ []) :
    pieces separator ([separator].intercalate parts) = parts := by
  rw [pieces_eq_splitOn, List.splitOn_intercalate separator h hne]

theorem pieces_pair {separator : Char} {first second : List Char} (hfirst : separator ∉ first)
    (hsecond : separator ∉ second) :
    pieces separator (first ++ separator :: second) = [first, second] := by
  have hparts : ∀ part ∈ [first, second], separator ∉ part := by simp [hfirst, hsecond]
  simpa [List.intercalate] using pieces_intercalate hparts (by simp)

theorem notMem_intercalate {separator c : Char} {parts : List (List Char)} (hc : c ≠ separator)
    (h : ∀ part ∈ parts, c ∉ part) : c ∉ [separator].intercalate parts := by
  induction parts with
  | nil => simp
  | cons part rest ih =>
    obtain ⟨hpart, hrest⟩ := List.forall_mem_cons.mp h
    cases rest with
    | nil => simpa using hpart
    | cons next others => simp [List.intercalate_cons_cons, hpart, hc, ih hrest]

theorem pieces_of_notMem {separator : Char} {text : List Char} (h : separator ∉ text) :
    pieces separator text = [text] := by
  have hparts : ∀ part ∈ [text], separator ∉ part := by simp [h]
  simpa using pieces_intercalate hparts (by simp)

theorem exists_pieces_cons {separator c : Char} (h : c ≠ separator) (text : List Char) :
    ∃ first others, pieces separator (c :: text) = (c :: first) :: others := by
  rw [pieces, if_neg h]
  split
  · exact ⟨[], [], rfl⟩
  · exact ⟨_, _, rfl⟩

theorem mapM_map_eq_some {α β γ : Type} {values : List α} {write : α → β} {read : β → Option γ}
    {value : α → γ} (h : ∀ a ∈ values, read (write a) = some (value a)) :
    (values.map write).mapM read = some (values.map value) := by
  induction values with
  | nil => rfl
  | cons a rest ih =>
    obtain ⟨hfirst, hrest⟩ := List.forall_mem_cons.mp h
    simp [hfirst, ih hrest]

theorem notMem_toDigits {n : Nat} {c : Char} (h : c.isDigit = false) : c ∉ Nat.toDigits 10 n :=
  fun hmem => absurd (Nat.isDigit_of_mem_toDigits (by decide) (by decide) hmem) (by simp [h])

theorem decimal?_toDigits {most n : Nat} (h : n ≤ most) :
    decimal? most (Nat.toDigits 10 n) = some n := by
  have hdigits : (Nat.toDigits 10 n).all Char.isDigit = true :=
    List.all_eq_true.mpr fun c hc => Nat.isDigit_of_mem_toDigits (by decide) (by decide) hc
  have hvalue : (Nat.toDigits 10 n).foldl (fun n c => 10 * n + (c.toNat - '0'.toNat)) 0 = n :=
    Nat.ofDigitChars_ten_toDigits
  simp only [decimal?, hvalue]
  simp [hdigits, h, Nat.toDigits_ne_nil]

end GridSession
