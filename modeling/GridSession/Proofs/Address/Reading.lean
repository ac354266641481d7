import GridSession.Address.Printer
import GridSession.Proofs.Address.Pieces
import GridSession.Proofs.Text.Hex

namespace GridSession

namespace IPv4

theorem ofOctets_shifted (bits : UInt32) :
    ofOctets (bits >>> 24).toUInt8 (bits >>> 16).toUInt8 (bits >>> 8).toUInt8 bits.toUInt8
      = ⟨bits⟩ := by
  rw [ofOctets, mk.injEq, ← UInt32.toBitVec_inj]
  apply BitVec.eq_of_getLsbD_eq
  intro index hindex
  have h24 : (24 : UInt32).toBitVec % 32 = 24#32 := by decide
  have h16 : (16 : UInt32).toBitVec % 32 = 16#32 := by decide
  have h8 : (8 : UInt32).toBitVec % 32 = 8#32 := by decide
  simp only [UInt32.toBitVec_or, UInt32.toBitVec_shiftLeft, UInt8.toBitVec_toUInt32,
    UInt32.toBitVec_toUInt8, UInt32.toBitVec_shiftRight, h24, h16, h8, BitVec.getLsbD_or,
    BitVec.shiftLeft_eq', BitVec.ushiftRight_eq', BitVec.getLsbD_shiftLeft,
    BitVec.getLsbD_setWidth, BitVec.getLsbD_ushiftRight, BitVec.toNat_ofNat, hindex]
  grind

theorem toList_text (address : IPv4) :
    address.text.toList
      = ['.'].intercalate (address.octets.map fun octet => Nat.toDigits 10 octet.toNat) := by
  simp [text, toString, Function.comp_def]

theorem notMem_text {address : IPv4} {c : Char} (hdot : c ≠ '.') (hdigit : c.isDigit = false) :
    c ∉ address.text.toList := by
  rw [toList_text]
  refine notMem_intercalate hdot fun part hmem => ?_
  obtain ⟨octet, -, rfl⟩ := List.mem_map.mp hmem
  exact notMem_toDigits hdigit

theorem dot_mem_text (address : IPv4) : '.' ∈ address.text.toList := by
  simp [toList_text, octets, List.intercalate_cons_cons]

theorem parse?_text (address : IPv4) : parse? address.text.toList = some address := by
  have hparts : pieces '.' address.text.toList
      = address.octets.map fun octet => Nat.toDigits 10 octet.toNat := by
    rw [toList_text, pieces_intercalate]
    · intro part hmem
      obtain ⟨octet, -, rfl⟩ := List.mem_map.mp hmem
      exact notMem_toDigits (by decide)
    · simp [octets]
  have hread : ∀ octet ∈ address.octets,
      decimal? 255 (Nat.toDigits 10 octet.toNat) = some octet.toNat :=
    fun octet _ => decimal?_toDigits (Nat.le_of_lt_succ octet.toNat_lt)
  rw [parse?, hparts, mapM_map_eq_some hread]
  simp only [octets, List.map_cons, List.map_nil, UInt8.ofNat_toNat, UInt32.shiftRight_zero,
    ofOctets_shifted]

end IPv4

namespace IPv6

theorem splitDouble_cons {c : Char} (h : c ≠ ':') (rest : List Char) :
    splitDouble (c :: rest)
      = (splitDouble rest).map fun found => (c :: found.1, found.2) := by
  rw [splitDouble.eq_def]
  split
  next hnil => cases hnil
  next hcolons => exact absurd (List.cons.inj hcolons).1 h
  next hcons =>
    obtain ⟨rfl, rfl⟩ := List.cons.inj hcons
    rfl

theorem splitDouble_colon {c : Char} (h : c ≠ ':') (rest : List Char) :
    splitDouble (':' :: c :: rest)
      = (splitDouble (c :: rest)).map fun found => (':' :: found.1, found.2) := by
  rw [splitDouble.eq_def]
  split
  next hnil => cases hnil
  next hcolons => exact absurd (List.cons.inj (List.cons.inj hcolons).2).1 h
  next hcons =>
    obtain ⟨rfl, rfl⟩ := List.cons.inj hcons
    rfl

theorem splitDouble_append {word : List Char} (h : ':' ∉ word) (rest : List Char) :
    splitDouble (word ++ rest)
      = (splitDouble rest).map fun found => (word ++ found.1, found.2) := by
  induction word with
  | nil => simp
  | cons c word ih =>
    simp only [List.mem_cons, not_or] at h
    rw [List.cons_append, splitDouble_cons (Ne.symm h.1), ih h.2, Option.map_map]
    rfl

theorem exists_cons_intercalate {word : List Char} (hne : word ≠ []) (h : ':' ∉ word)
    (others : List (List Char)) :
    ∃ c rest, c ≠ ':' ∧ [':'].intercalate (word :: others) = c :: rest := by
  obtain ⟨c, letters, rfl⟩ := List.exists_cons_of_ne_nil hne
  have hc : c ≠ ':' := fun hcolon => h (hcolon ▸ List.mem_cons_self)
  cases others with
  | nil => exact ⟨c, letters, hc, List.intercalate_singleton⟩
  | cons next others =>
    exact ⟨c, letters ++ [':'] ++ [':'].intercalate (next :: others), hc,
      by rw [List.intercalate_cons_cons]; rfl⟩

theorem splitDouble_intercalate {words : List (List Char)}
    (h : ∀ word ∈ words, word ≠ [] ∧ ':' ∉ word) (rest : List Char) :
    splitDouble ([':'].intercalate words ++ rest)
      = (splitDouble rest).map fun found => ([':'].intercalate words ++ found.1, found.2) := by
  induction words with
  | nil => simp
  | cons word others ih =>
    obtain ⟨⟨-, hword⟩, hothers⟩ := List.forall_mem_cons.mp h
    cases others with
    | nil => simpa using splitDouble_append hword rest
    | cons next others =>
      obtain ⟨⟨hne, hnext⟩, -⟩ := List.forall_mem_cons.mp hothers
      obtain ⟨c, letters, hc, hletters⟩ := exists_cons_intercalate hne hnext others
      -- no word is empty, so the colon behind one has no second colon behind it
      have hlater := ih hothers
      rw [hletters] at hlater
      rw [List.intercalate_cons_cons, hletters, List.append_assoc, List.append_assoc,
        splitDouble_append hword]
      simp only [List.cons_append, List.nil_append] at hlater ⊢
      rw [splitDouble_colon hc, hlater, Option.map_map, Option.map_map]
      simp [Function.comp_def]

theorem toList_joinGroups (groups : List UInt16) :
    (joinGroups groups).toList
      = [':'].intercalate (groups.map fun group => Nat.toDigits 16 group.toNat) := by
  simp [joinGroups, Hex.shortest, Function.comp_def]

theorem notMem_joinGroups {c : Char} (hcolon : c ≠ ':') (hdigit : Hex.digit? c = none)
    (groups : List UInt16) : c ∉ (joinGroups groups).toList := by
  rw [toList_joinGroups]
  refine notMem_intercalate hcolon fun part hmem => ?_
  obtain ⟨group, -, rfl⟩ := List.mem_map.mp hmem
  exact Hex.notMem_toDigits hdigit

theorem splitDouble_joinGroups (groups : List UInt16) (rest : List Char) :
    splitDouble ((joinGroups groups).toList ++ rest)
      = (splitDouble rest).map fun found => ((joinGroups groups).toList ++ found.1, found.2) := by
  rw [toList_joinGroups]
  refine splitDouble_intercalate (fun word hmem => ?_) rest
  obtain ⟨group, -, rfl⟩ := List.mem_map.mp hmem
  exact ⟨Nat.toDigits_ne_nil, Hex.notMem_toDigits (by decide)⟩

theorem group?_toDigits (group : UInt16) :
    group? (Nat.toDigits 16 group.toNat) = some group := by
  have hlength : (Nat.toDigits 16 group.toNat).length ≤ 4 :=
    (Nat.length_toDigits_le_iff (by decide) (by decide)).mpr group.toNat_lt
  rw [group?, if_neg (Nat.not_lt.mpr hlength), Hex.toNat?_toDigits, Option.map_some,
    UInt16.ofNat_toNat]

theorem groups?_joinGroups (groups : List UInt16) :
    groups? (joinGroups groups).toList = some groups := by
  cases groups with
  | nil => rfl
  | cons group rest =>
    let parts := (group :: rest).map fun group => Nat.toDigits 16 group.toNat
    have hwritten : (joinGroups (group :: rest)).toList = [':'].intercalate parts :=
      toList_joinGroups _
    -- digits are neither colons nor points, so the text falls apart into the groups again
    have hhex : ∀ c, Hex.digit? c = none → ∀ part ∈ parts, c ∉ part := by
      intro c hc part hmem
      obtain ⟨group, -, rfl⟩ := List.mem_map.mp hmem
      exact Hex.notMem_toDigits hc
    have hparts : pieces ':' (joinGroups (group :: rest)).toList = parts := by
      rw [hwritten, pieces_intercalate (hhex ':' (by decide)) (by simp [parts])]
    have hlast : parts.getLastD [] ∈ parts := by
      rw [List.getLastD_eq_getLast?, List.getLast?_eq_some_getLast (by simp [parts])]
      exact List.getLast_mem _
    have hdot : '.' ∉ parts.getLastD [] := hhex '.' (by decide) _ hlast
    have hne : (joinGroups (group :: rest)).toList ≠ [] := by
      obtain ⟨c, letters, -, hcons⟩ :=
        exists_cons_intercalate Nat.toDigits_ne_nil (hhex ':' (by decide) _ List.mem_cons_self) _
      rw [hwritten]
      exact hcons ▸ List.cons_ne_nil _ _
    unfold groups?
    dsimp only
    rw [if_neg (by simp [hne]), hparts, if_neg (by simpa using hdot)]
    refine (mapM_map_eq_some fun group _ => group?_toDigits group).trans ?_
    rw [List.map_id']

def ZeroRun.Among (run : ZeroRun) (groups : List UInt16) : Prop :=
  ∀ index < run.length, groups[run.start + index]? = some 0

theorem ZeroRun.Among.of_empty (start : Nat) (groups : List UInt16) :
    Among ⟨start, 0⟩ groups :=
  fun index hindex => absurd hindex index.not_lt_zero

theorem ZeroRun.Among.eq_append {run : ZeroRun} {groups : List UInt16} (h : run.Among groups) :
    groups = groups.take run.start ++ List.replicate run.length 0
      ++ groups.drop (run.start + run.length) := by
  have hzeros : (groups.drop run.start).take run.length = List.replicate run.length 0 := by
    apply List.ext_getElem?
    intro index
    rw [List.getElem?_take, List.getElem?_replicate, List.getElem?_drop]
    split_ifs with hindex
    · exact h index hindex
    · rfl
  rw [← hzeros, List.append_assoc, ← List.drop_drop, List.take_append_drop,
    List.take_append_drop]

/-- The run with one more zero group at `index`, or the run that starts there. -/
def ZeroRun.grown (run : ZeroRun) (index : Nat) : ZeroRun :=
  ⟨if run.length = 0 then index else run.start, run.length + 1⟩

/-- Unless there is no run yet, it goes as far as `index`. -/
def ZeroRun.EndsAt (run : ZeroRun) (index : Nat) : Prop :=
  run.length ≠ 0 → run.start + run.length = index

theorem ZeroRun.EndsAt.start_grown {run : ZeroRun} {index : Nat} (h : run.EndsAt index) :
    (run.grown index).start + run.length = index := by
  unfold grown
  split_ifs with hempty
  · rw [hempty, Nat.add_zero]
  · exact h hempty

theorem ZeroRun.EndsAt.grown {run : ZeroRun} {index : Nat} (h : run.EndsAt index) :
    (run.grown index).EndsAt (index + 1) :=
  fun _ => congrArg Nat.succ h.start_grown

theorem ZeroRun.Among.grown {run : ZeroRun} {front rest : List UInt16}
    (h : run.Among (front ++ 0 :: rest)) (hends : run.EndsAt front.length) :
    (run.grown front.length).Among (front ++ 0 :: rest) := by
  intro index hindex
  rcases Nat.lt_succ_iff_lt_or_eq.mp hindex with hbefore | rfl
  · rw [ZeroRun.grown, if_neg (Nat.ne_zero_of_lt hbefore)]
    exact h index hbefore
  · rw [hends.start_grown]
    simp

theorem longestZeroRun_zero (index : Nat) (current best : ZeroRun) (rest : List UInt16) :
    longestZeroRun index current best (0 :: rest)
      = longestZeroRun (index + 1) (current.grown index)
        (if best.length < (current.grown index).length then current.grown index else best) rest :=
  rfl

/-- The run that is kept and the best one so far both lie in the groups that were looked at. -/
theorem among_longestZeroRun (front rest : List UInt16) {current best : ZeroRun}
    (hends : current.EndsAt front.length) (hcurrent : current.Among (front ++ rest))
    (hbest : best.Among (front ++ rest)) :
    (longestZeroRun front.length current best rest).Among (front ++ rest) := by
  -- `front` has been seen already, and a run that is still growing ends where `front` does
  induction rest generalizing front current best with
  | nil => exact hbest
  | cons group rest ih =>
    have hgroups : front ++ group :: rest = (front ++ [group]) ++ rest := by simp
    have hlength : (front ++ [group]).length = front.length + 1 := by simp
    by_cases hzero : group = 0
    · subst hzero
      have hgrown := hcurrent.grown hends
      rw [longestZeroRun_zero]
      rw [hgroups] at hgrown hbest ⊢
      rw [← hlength]
      refine ih _ (hlength ▸ hends.grown) hgrown ?_
      split_ifs
      · exact hgrown
      · exact hbest
    · rw [longestZeroRun, if_neg hzero, ← hlength, hgroups]
      exact ih _ (fun h => absurd rfl h) (.of_empty _ _) (hgroups ▸ hbest)

theorem length_groups (address : IPv6) : address.groups.length = 8 := rfl

theorem ofGroups_groups (address : IPv6) : ofGroups address.groups = address := by
  obtain ⟨bits⟩ := address
  rw [ofGroups, mk.injEq]
  apply BitVec.eq_of_toNat_eq
  have hbits := bits.isLt
  simp only [groups, List.map_cons, List.map_nil, List.foldl_cons, List.foldl_nil,
    UInt16.toNat_ofNat', BitVec.toNat_ushiftRight, Nat.shiftRight_eq_div_pow, BitVec.toNat_ofNat]
  omega

theorem ofGroups_mapped {address : IPv6} {inner : IPv4} (h : address.mapped? = some inner) :
    ofGroups (List.replicate 5 0 ++ [0xFFFF, UInt16.ofNat (inner.bits.toNat / 65536),
      UInt16.ofNat inner.bits.toNat]) = address := by
  obtain ⟨bits⟩ := address
  unfold mapped? at h
  split_ifs at h with hhigh
  cases h
  rw [ofGroups, mk.injEq]
  apply BitVec.eq_of_toNat_eq
  have hbits := bits.isLt
  have hfront := congrArg BitVec.toNat hhigh
  simp [Nat.shiftRight_eq_div_pow] at hfront ⊢
  omega

theorem parse?_mapped {address : IPv6} {inner : IPv4} (h : address.mapped? = some inner) :
    parse? ("::ffff:" ++ inner.text).toList = some address := by
  have hsplit : splitDouble ("::ffff:" ++ inner.text).toList
      = some ([], "ffff".toList ++ ':' :: inner.text.toList) := by
    simp [splitDouble]
  have hparts : pieces ':' ("ffff".toList ++ ':' :: inner.text.toList)
      = ["ffff".toList, inner.text.toList] :=
    pieces_pair (by decide) (IPv4.notMem_text (by decide) (by decide))
  have hgroups : groups? ("ffff".toList ++ ':' :: inner.text.toList)
      = some [0xFFFF, UInt16.ofNat (inner.bits.toNat / 65536), UInt16.ofNat inner.bits.toNat] := by
    unfold groups?
    dsimp only
    rw [if_neg (by simp), hparts, if_pos (by simp [IPv4.dot_mem_text])]
    have hfront : [("ffff".toList)].mapM group? = some [0xFFFF] := by decide
    have hlast : IPv4.parse? (["ffff".toList, inner.text.toList].getLastD []) = some inner :=
      inner.parse?_text
    rw [hlast]
    dsimp only [List.dropLast]
    rw [hfront]
    rfl
  have hempty : groups? [] = some [] := rfl
  rw [parse?, hsplit]
  simp only [hgroups, hempty]
  exact congrArg some (ofGroups_mapped h)

theorem parse?_text (address : IPv6) : parse? address.text.toList = some address := by
  unfold text
  cases hmapped : address.mapped? with
  | some inner => exact parse?_mapped hmapped
  | none =>
    have hamong : (longestZeroRun 0 ⟨0, 0⟩ ⟨0, 0⟩ address.groups).Among address.groups :=
      among_longestZeroRun [] address.groups (fun h => absurd rfl h) (.of_empty _ _)
        (.of_empty _ _)
    dsimp only
    generalize longestZeroRun 0 ⟨0, 0⟩ ⟨0, 0⟩ address.groups = run at hamong ⊢
    have hgroups := hamong.eq_append
    have hlength := congrArg List.length hgroups
    split_ifs with hshort
    · have hsplit : splitDouble (joinGroups address.groups).toList = none := by
        simpa [splitDouble] using splitDouble_joinGroups address.groups []
      rw [parse?, hsplit]
      simp only [groups?_joinGroups]
      rw [if_pos (length_groups address), ofGroups_groups]
    · -- the groups left out are zeros, and as many as the others lack to eight
      generalize address.groups.take run.start = front at *
      generalize address.groups.drop (run.start + run.length) = back at *
      have hsplit : splitDouble (joinGroups front ++ "::" ++ joinGroups back).toList
          = some ((joinGroups front).toList, (joinGroups back).toList) := by
        have hfound := splitDouble_joinGroups front (':' :: ':' :: (joinGroups back).toList)
        simpa [splitDouble] using hfound
      simp at hlength
      rw [parse?, hsplit]
      simp only [groups?_joinGroups]
      rw [length_groups] at hlength
      have hmiddle : 8 - front.length - back.length = run.length := by omega
      rw [if_pos (by omega), hmiddle, ← hgroups, ofGroups_groups]

theorem notMem_text {address : IPv6} {c : Char} (hcolon : c ≠ ':') (hdot : c ≠ '.')
    (hdigit : Hex.digit? c = none) (hdecimal : c.isDigit = false) : c ∉ address.text.toList := by
  have hgroups := notMem_joinGroups hcolon hdigit
  unfold text
  split
  · have hletter : c ≠ 'f' := by
      rintro rfl
      cases hdigit
    simp [hcolon, hletter, IPv4.notMem_text hdot hdecimal]
  · dsimp only
    split_ifs
    · exact hgroups _
    · simp [hgroups, hcolon]

end IPv6

theorem toList_toString_port (port : UInt16) :
    (toString port).toList = Nat.toDigits 10 port.toNat := by
  simp [toString]

theorem IPv4Endpoint.parse?_text (endpoint : IPv4Endpoint) :
    parse? endpoint.text.toList = some endpoint := by
  have hhost : ':' ∉ endpoint.address.text.toList := IPv4.notMem_text (by decide) (by decide)
  have hport : ':' ∉ Nat.toDigits 10 endpoint.port.toNat := notMem_toDigits (by decide)
  have htext : endpoint.text.toList
      = endpoint.address.text.toList ++ ':' :: Nat.toDigits 10 endpoint.port.toNat := by
    simp [text, toList_toString_port]
  rw [parse?, htext, pieces_pair hhost hport]
  simp only [IPv4.parse?_text, decimal?_toDigits (Nat.le_of_lt_succ endpoint.port.toNat_lt),
    UInt16.ofNat_toNat]

theorem IPv4.parse?_bracket (rest : List Char) : parse? ('[' :: rest) = none := by
  have hdot : '[' ≠ '.' := by decide
  obtain ⟨first, others, hpieces⟩ := exists_pieces_cons hdot rest
  have hnone : decimal? 255 ('[' :: first) = none := by simp [decimal?]
  rw [parse?, hpieces, List.mapM_cons, hnone]
  rfl

theorem IPv4Endpoint.parse?_bracket (rest : List Char) : parse? ('[' :: rest) = none := by
  have hcolon : '[' ≠ ':' := by decide
  obtain ⟨first, others, hpieces⟩ := exists_pieces_cons hcolon rest
  rw [parse?, hpieces]
  split
  next host port hparts =>
    obtain ⟨rfl, -⟩ := List.cons.inj hparts
    rw [IPv4.parse?_bracket]
  next => rfl

theorem IPv6Endpoint.parse?_text (endpoint : IPv6Endpoint) :
    parse? endpoint.text.toList = some endpoint := by
  obtain ⟨address, port, scope⟩ := endpoint
  have hport := decimal?_toDigits (Nat.le_of_lt_succ port.toNat_lt)
  have hbracket : ']' ∉ address.text.toList :=
    IPv6.notMem_text (by decide) (by decide) (by decide) (by decide)
  have hpercent : '%' ∉ address.text.toList :=
    IPv6.notMem_text (by decide) (by decide) (by decide) (by decide)
  have hback : ']' ∉ ':' :: Nat.toDigits 10 port.toNat := by
    simp [notMem_toDigits]
  by_cases hscope : scope = 0
  · subst hscope
    have htext : (IPv6Endpoint.mk address port 0).text.toList
        = '[' :: (address.text.toList ++ ']' :: ':' :: Nat.toDigits 10 port.toNat) := by
      simp [text, toList_toString_port]
    rw [htext]
    simp only [parse?, pieces_pair hbracket hback, pieces_of_notMem hpercent, hport,
      IPv6.parse?_text, Option.map_some, UInt16.ofNat_toNat]
  · have hdigits : ']' ∉ Nat.toDigits 10 scope.toNat := notMem_toDigits (by decide)
    have hlink : '%' ∉ Nat.toDigits 10 scope.toNat := notMem_toDigits (by decide)
    have hhost : ']' ∉ address.text.toList ++ '%' :: Nat.toDigits 10 scope.toNat := by
      simp [hbracket, hdigits]
    have htext : (IPv6Endpoint.mk address port scope).text.toList
        = '[' :: ((address.text.toList ++ '%' :: Nat.toDigits 10 scope.toNat)
          ++ ']' :: ':' :: Nat.toDigits 10 port.toNat) := by
      simp [text, hscope, toString]
    have hread := decimal?_toDigits (Nat.le_of_lt_succ scope.toNat_lt)
    rw [htext]
    simp only [parse?, pieces_pair hhost hback, pieces_pair hpercent hlink, hport,
      IPv6.parse?_text, hread, UInt16.ofNat_toNat, UInt32.ofNat_toNat]

/-- What is written of an address is read back. -/
theorem SocketAddress.parse?_text (address : SocketAddress) :
    parse? address.text = some address := by
  cases address with
  | v4 endpoint => simp only [text, parse?, endpoint.parse?_text]
  | v6 endpoint =>
    have hnone : IPv4Endpoint.parse? endpoint.text.toList = none := by
      simp only [IPv6Endpoint.text, String.toList_append]
      exact IPv4Endpoint.parse?_bracket _
    simp only [text, parse?, hnone, endpoint.parse?_text, Option.map_some]

/-- So two addresses are never written alike. -/
theorem SocketAddress.text_injective : Function.Injective text := fun first second h => by
  have hfirst := first.parse?_text
  rw [h, second.parse?_text] at hfirst
  exact (Option.some.inj hfirst).symm

end GridSession
