import GridSession.Player.SentRecord
import Mathlib.Data.List.DropRight
import Mathlib.Data.List.Nodup

namespace GridSession

section Rtake

variable {α β : Type} {l : List α} {m n : Nat}

theorem rtake_rtake (h : m ≤ n) : (l.rtake n).rtake m = l.rtake m := by
  unfold List.rtake
  rw [List.drop_drop, List.length_drop]
  congr 1
  omega

theorem map_rtake (f : α → β) : (l.rtake n).map f = (l.map f).rtake n := by
  unfold List.rtake
  rw [List.map_drop, List.length_map]

/-- To keep the last of a list it is enough to have kept that many before. -/
theorem rtake_concat_rtake (last : α) : (l.rtake n ++ [last]).rtake n = (l ++ [last]).rtake n := by
  cases n with
  | zero => simp
  | succ n => rw [List.rtake_concat_succ, List.rtake_concat_succ, rtake_rtake (by omega)]

theorem length_rtake_le (l : List α) (n : Nat) : (l.rtake n).length ≤ n := by
  rw [List.rtake, List.length_drop]
  omega

/-- Among the last of a list are those behind whose last occurrence fewer stand. -/
theorem mem_rtake_iff {a : α} :
    a ∈ l.rtake n ↔ ∃ before after, l = before ++ a :: after ∧ a ∉ after ∧ after.length < n := by
  constructor
  · intro h
    -- the last of its occurrences has nothing of its kind behind it
    obtain ⟨later, earlier, hsplit, hlast⟩ := List.eq_append_cons_of_mem (List.mem_reverse.mpr h)
    have hkept : l.rtake n = earlier.reverse ++ a :: later.reverse := by
      simpa using congrArg List.reverse hsplit
    have hlength := length_rtake_le l n
    refine ⟨l.take (l.length - n) ++ earlier.reverse, later.reverse, ?_, by simpa using hlast, ?_⟩
    · rw [List.append_assoc, ← hkept, List.rtake, List.take_append_drop]
    · rw [hkept] at hlength
      simp only [List.length_append, List.length_cons] at hlength
      omega
  · rintro ⟨before, after, rfl, -, hlt⟩
    have hfew : (before ++ a :: after).length - n ≤ before.length := by
      simp only [List.length_append, List.length_cons]
      omega
    rw [List.rtake, List.drop_append_of_le_length hfew]
    exact List.mem_append_right _ List.mem_cons_self

end Rtake

namespace SentRecord

variable {sent : SentRecord} {id : UInt32}

def insertAll (sent : SentRecord) (inserts : List (UInt32 × Bytes)) : SentRecord :=
  inserts.foldl (fun sent entry => sent.insert entry.1 entry.2) sent

/-- The ids of the inserts that enter, which are those whose id is not retained when they come. -/
def entered (sent : SentRecord) : List (UInt32 × Bytes) → List UInt32
  | [] => []
  | (id, bytes) :: rest =>
    let later := entered (sent.insert id bytes) rest
    if id ∈ sent.ids then later else id :: later

/-- The octets of the latest insert of an id. -/
def latest? (inserts : List (UInt32 × Bytes)) (id : UInt32) : Option Bytes :=
  (inserts.reverse.find? (·.1 == id)).map Prod.snd

theorem latest?_concat (inserts : List (UInt32 × Bytes)) (id other : UInt32) (bytes : Bytes) :
    latest? (inserts ++ [(id, bytes)]) other
      = if other = id then some bytes else latest? inserts other := by
  rw [latest?, List.reverse_append, List.reverse_singleton, List.singleton_append,
    List.find?_cons]
  split_ifs with hsame
  · simp [hsame]
  · have hne : (id == other) = false := by simpa using Ne.symm hsame
    rw [hne, latest?]

section Insert

variable (sent id) (bytes : Bytes)

theorem insert_of_mem (h : id ∈ sent.ids) :
    sent.insert id bytes = { sent with
      entries := sent.entries.map fun entry => if entry.1 = id then (id, bytes) else entry } :=
  if_pos h

theorem insert_of_notMem (h : id ∉ sent.ids) :
    sent.insert id bytes
      = { sent with entries := (sent.entries ++ [(id, bytes)]).rtake sent.capacity } :=
  if_neg h

@[simp] theorem capacity_insert : (sent.insert id bytes).capacity = sent.capacity := by
  unfold insert
  split_ifs <;> rfl

theorem ids_insert_of_mem (h : id ∈ sent.ids) : (sent.insert id bytes).ids = sent.ids := by
  rw [insert_of_mem sent id bytes h, ids, ids, List.map_map]
  apply List.map_congr_left
  intro entry _
  simp only [Function.comp_apply]
  split_ifs with hid
  · exact hid.symm
  · rfl

theorem ids_insert_of_notMem (h : id ∉ sent.ids) :
    (sent.insert id bytes).ids = (sent.ids ++ [id]).rtake sent.capacity := by
  rw [insert_of_notMem sent id bytes h, ids, map_rtake, List.map_append]
  rfl

theorem get?_insert_of_mem (h : id ∈ sent.ids) (other : UInt32) :
    (sent.insert id bytes).get? other = if other = id then some bytes else sent.get? other := by
  obtain ⟨entry, hmem, hid⟩ := List.mem_map.mp h
  have hkeys : ∀ entry : UInt32 × Bytes,
      (if entry.1 = id then (id, bytes) else entry).1 = entry.1 := by
    intro entry
    split_ifs with hsame
    · exact hsame.symm
    · rfl
  simp only [insert_of_mem sent id bytes h, get?, List.find?_map, Function.comp_def, hkeys]
  split_ifs with hother
  · -- something is found under the id, and whatever that is has the new octets
    cases hfound : sent.entries.find? (·.1 == other) with
    | none =>
      have hunfound := List.find?_eq_none.mp hfound entry hmem
      exact absurd (hid.trans hother.symm) (by simpa using hunfound)
    | some found =>
      have hkey : found.1 = id := by simpa [hother] using List.find?_some hfound
      simp [hkey]
  · cases hfound : sent.entries.find? (·.1 == other) with
    | none => rfl
    | some found =>
      have hkey : found.1 = other := by simpa using List.find?_some hfound
      simp [hkey, hother]

/-- What is retained after an insert was inserted just now or retained before under another id. -/
theorem mem_entries_insert {entry : UInt32 × Bytes} (h : entry ∈ (sent.insert id bytes).entries) :
    entry = (id, bytes) ∨ entry ∈ sent.entries ∧ entry.1 ≠ id := by
  by_cases hretained : id ∈ sent.ids
  · rw [insert_of_mem sent id bytes hretained] at h
    obtain ⟨old, hmem, hreplaced⟩ := List.mem_map.mp h
    split_ifs at hreplaced with hid
    · exact .inl hreplaced.symm
    · exact .inr (hreplaced ▸ ⟨hmem, hid⟩)
  · rw [insert_of_notMem sent id bytes hretained] at h
    rcases List.mem_append.mp (List.mem_of_mem_drop h) with hold | hnew
    · refine .inr ⟨hold, fun hid => hretained ?_⟩
      exact List.mem_map.mpr ⟨entry, hold, hid⟩
    · exact .inl (List.mem_singleton.mp hnew)

end Insert

/-- After these inserts, of which those of the ids `entered` entered, the last of them are retained,
each once and with the octets that came last. -/
structure Keeps (inserts : List (UInt32 × Bytes)) (entered : List UInt32) (sent : SentRecord) :
    Prop where
  ids_eq : sent.ids = entered.rtake sent.capacity
  nodup_ids : sent.ids.Nodup
  latest : ∀ entry ∈ sent.entries, latest? inserts entry.1 = some entry.2

namespace Keeps

variable {inserts : List (UInt32 × Bytes)} {entered : List UInt32}

theorem empty (capacity : Nat) : Keeps [] [] ⟨capacity, []⟩ :=
  ⟨by simp [ids], List.nodup_nil, nofun⟩

theorem insert (h : Keeps inserts entered sent) (id : UInt32) (bytes : Bytes) :
    Keeps (inserts ++ [(id, bytes)]) (entered ++ if id ∈ sent.ids then [] else [id])
      (sent.insert id bytes) := by
  have hlatest : ∀ entry ∈ (sent.insert id bytes).entries,
      latest? (inserts ++ [(id, bytes)]) entry.1 = some entry.2 := by
    intro entry hmem
    rw [latest?_concat]
    rcases mem_entries_insert sent id bytes hmem with rfl | ⟨hold, hne⟩
    · exact if_pos rfl
    · rw [if_neg hne, h.latest entry hold]
  by_cases hretained : id ∈ sent.ids
  · have hids := ids_insert_of_mem sent id bytes hretained
    refine ⟨?_, hids ▸ h.nodup_ids, hlatest⟩
    rw [hids, if_pos hretained, List.append_nil, capacity_insert, h.ids_eq]
  · have hids := ids_insert_of_notMem sent id bytes hretained
    refine ⟨?_, ?_, hlatest⟩
    · -- keeping the last few of what was kept is keeping the last few of all
      rw [hids, if_neg hretained, capacity_insert, h.ids_eq, rtake_concat_rtake]
    · rw [hids]
      refine List.Nodup.sublist (List.drop_sublist ..) ?_
      refine List.nodup_append.mpr ⟨h.nodup_ids, List.nodup_singleton id, ?_⟩
      rintro old hold new hnew rfl
      exact hretained (List.mem_singleton.mp hnew ▸ hold)

theorem insertAll (h : Keeps inserts entered sent) (later : List (UInt32 × Bytes)) :
    Keeps (inserts ++ later) (entered ++ sent.entered later) (sent.insertAll later) := by
  induction later generalizing inserts entered sent with
  | nil => simpa [SentRecord.entered, SentRecord.insertAll] using h
  | cons entry rest ih =>
    obtain ⟨id, bytes⟩ := entry
    have hfirst : sent.entered ((id, bytes) :: rest)
        = (if id ∈ sent.ids then [] else [id]) ++ (sent.insert id bytes).entered rest := by
      rw [SentRecord.entered]
      split_ifs <;> rfl
    have hrest := ih (h.insert id bytes)
    rw [List.append_assoc, List.append_assoc, List.singleton_append, ← hfirst] at hrest
    exact hrest

theorem get?_of_mem (h : Keeps inserts entered sent) (hmem : id ∈ sent.ids) :
    ∃ bytes, latest? inserts id = some bytes ∧ sent.get? id = some bytes := by
  obtain ⟨entry, hentry, rfl⟩ := List.mem_map.mp hmem
  cases hfound : sent.entries.find? (·.1 == entry.1) with
  | none => exact absurd (by simp) (List.find?_eq_none.mp hfound entry hentry)
  | some found =>
    have hkey : found.1 = entry.1 := by simpa using List.find?_some hfound
    refine ⟨found.2, ?_, by rw [get?, hfound, Option.map_some]⟩
    rw [← hkey]
    exact h.latest found (List.mem_of_find?_eq_some hfound)

end Keeps

theorem capacity_insertAll (sent : SentRecord) (inserts : List (UInt32 × Bytes)) :
    (sent.insertAll inserts).capacity = sent.capacity := by
  induction inserts generalizing sent with
  | nil => rfl
  | cons entry rest ih => exact (ih _).trans (capacity_insert ..)

theorem get?_eq_none (h : id ∉ sent.ids) : sent.get? id = none := by
  rw [get?, Option.map_eq_none_iff, List.find?_eq_none]
  intro entry hmem hsame
  exact h (List.mem_map.mpr ⟨entry, hmem, by simpa using hsame⟩)

/-- A record never has more entries than there is room for, and no id twice. An id is retained as
long as fewer inserts entered after it last did, and the entries stand in the order in which they
entered. Under an id that is retained are the octets of its latest insert, whether that entered or
not, and under any other nothing. To insert a retained id again evicts nothing, moves nothing and
changes what is under that id alone. -/
theorem keeps_last_entered (capacity : Nat) (inserts : List (UInt32 × Bytes)) :
    let start : SentRecord := ⟨capacity, []⟩
    let sent := start.insertAll inserts
    let entered := start.entered inserts
    sent.size ≤ capacity
    ∧ sent.ids.Nodup
    ∧ sent.ids = entered.rtake capacity
    ∧ (∀ id, id ∈ sent.ids
      ↔ ∃ before after, entered = before ++ id :: after ∧ id ∉ after ∧ after.length < capacity)
    ∧ (∀ id ∈ sent.ids, ∃ bytes, latest? inserts id = some bytes ∧ sent.get? id = some bytes)
    ∧ (∀ id, id ∉ sent.ids → sent.get? id = none)
    ∧ ∀ id ∈ sent.ids, ∀ bytes, (sent.insert id bytes).ids = sent.ids
      ∧ ∀ other, (sent.insert id bytes).get? other
        = if other = id then some bytes else sent.get? other := by
  intro start sent entered
  have hcapacity : sent.capacity = capacity := capacity_insertAll start inserts
  have hkeeps : Keeps inserts entered sent := (Keeps.empty capacity).insertAll inserts
  have hids : sent.ids = entered.rtake capacity := hcapacity ▸ hkeeps.ids_eq
  refine ⟨?_, hkeeps.nodup_ids, hids, fun id => by rw [hids, mem_rtake_iff],
    fun id hmem => hkeeps.get?_of_mem hmem, fun id => get?_eq_none, fun id hmem bytes =>
      ⟨ids_insert_of_mem sent id bytes hmem, get?_insert_of_mem sent id bytes hmem⟩⟩
  have hlength := length_rtake_le entered capacity
  rwa [← hids, ids, List.length_map] at hlength

theorem refreshed_entry_leaves_first :
    let sent := (⟨2, []⟩ : SentRecord).insertAll [(1, [1]), (2, [2]), (1, [9]), (3, [3])]
    sent.ids = [2, 3] ∧ 1 ∉ sent.ids ∧ sent.get? 1 = none
    ∧ 2 ∈ sent.ids ∧ sent.get? 2 = some [2] := by
  intro sent
  have hids : sent.ids = [2, 3] := by decide
  have hleft : 1 ∉ sent.ids := by simp [hids]
  have hstays : 2 ∈ sent.ids := by simp [hids]
  obtain ⟨-, -, -, -, hfound, hnone, -⟩ :=
    keeps_last_entered 2 [(1, [1]), (2, [2]), (1, [9]), (3, [3])]
  obtain ⟨bytes, hlatest, hget⟩ := hfound 2 hstays
  cases hlatest
  exact ⟨hids, hleft, hnone 1 hleft, hstays, hget⟩

end SentRecord

end GridSession
