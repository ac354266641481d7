import GridSession.Frame.Message
import Mathlib.Data.List.Basic
import Mathlib.Tactic.SplitIfs

namespace GridSession

namespace Header

@[simp] theorem magic_describing (body : Bytes) : (describing body).magic = magicWord := rfl

@[simp] theorem digest_describing (body : Bytes) :
    (describing body).digest = Digest.fnv1a body := rfl

theorem ofBytes_toBytes_append (header : Header) (rest : Bytes) :
    ofBytes (header.toBytes ++ rest) = header := by
  obtain ⟨magic, digest, size⟩ := header
  simp only [ofBytes, toBytes, List.append_assoc]
  rw [BigEndian.field_toBytes, BigEndian.field_toBytes_append 2 _ 0, BigEndian.field_toBytes,
    BigEndian.field_toBytes_append 2 _ 8, BigEndian.field_toBytes_append 8 _ 0,
    BigEndian.field_toBytes, BigEndian.ofNat_toNat_mod_uint16, BigEndian.ofNat_toNat_mod_uint64,
    BigEndian.ofNat_toNat_mod_uint32]

theorem toBytes_ofBytes {bytes : Bytes} (h : width ≤ bytes.length) :
    (ofBytes bytes).toBytes = bytes.take width := by
  have hlen : 14 ≤ bytes.length := h
  simp only [toBytes, ofBytes, BigEndian.toNat_ofNat_field_uint16,
    BigEndian.toNat_ofNat_field_uint32, BigEndian.toNat_ofNat_field_uint64]
  rw [BigEndian.toBytes_field (by omega), BigEndian.toBytes_field (by omega),
    BigEndian.toBytes_field (by omega), List.drop_zero, ← List.take_add, ← List.take_add]
  rfl

theorem decode_of_lt {bytes : Bytes} (h : bytes.length < width) :
    decode bytes = .error (.truncated width bytes.length) := by
  unfold decode
  simp only
  rw [if_pos h]

theorem decode_of_digest_eq_zero {bytes : Bytes} (hwidth : width ≤ bytes.length)
    (hmagic : (ofBytes bytes).magic = magicWord) (hzero : (ofBytes bytes).digest = 0) :
    decode bytes = .error .zeroDigest := by
  unfold decode
  simp only
  rw [if_neg (by omega), if_neg (not_not.mpr hmagic), if_pos hzero]

theorem decode_eq_ok_iff {bytes : Bytes} {header : Header} :
    decode bytes = .ok header ↔ width ≤ bytes.length ∧ header = ofBytes bytes
      ∧ header.magic = magicWord ∧ header.digest ≠ 0 ∧ header.size ≠ 0 := by
  unfold decode
  simp only
  constructor
  · intro h
    split_ifs at h with hlen hmagic hdigest hsize
    cases h
    exact ⟨by omega, rfl, not_not.mp hmagic, hdigest, hsize⟩
  · rintro ⟨hlen, rfl, hmagic, hdigest, hsize⟩
    rw [if_neg (by omega), if_neg (not_not.mpr hmagic), if_neg hdigest, if_neg hsize]

end Header

namespace Frame

theorem toNat_size_describing {body : Bytes} (h : body.length ≤ maxBody) :
    (Header.describing body).size.toNat = body.length := by
  have hlen : body.length ≤ 1458 := h
  have hfits : body.length < UInt32.size := by
    rw [UInt32.size]
    omega
  exact UInt32.toNat_ofNat_of_lt' hfits

theorem size_describing_ne_zero {body : Bytes} (hnonempty : body ≠ [])
    (hlong : body.length ≤ maxBody) : (Header.describing body).size ≠ 0 := by
  intro h
  have hsize := toNat_size_describing hlong
  rw [h] at hsize
  exact Nat.ne_of_lt (List.length_pos_of_ne_nil hnonempty) hsize

theorem drop_wrap_append (body rest : Bytes) :
    (wrap body ++ rest).drop Header.width = body ++ rest := by
  rw [wrap, List.append_assoc, List.drop_left' (Header.length_toBytes _)]

theorem wrap_injective {body other : Bytes} (h : wrap body = wrap other) : body = other := by
  have hdrop := congrArg (List.drop Header.width) h
  rwa [← List.append_nil (wrap body), ← List.append_nil (wrap other), drop_wrap_append,
    drop_wrap_append, List.append_nil, List.append_nil] at hdrop

theorem ofBytes_wrap_append (body rest : Bytes) :
    Header.ofBytes (wrap body ++ rest) = .describing body := by
  rw [wrap, List.append_assoc, Header.ofBytes_toBytes_append]

/-- No frame is accepted whose digest is zero, not even a sealed one. -/
theorem unwrap_wrap_of_digest_eq_zero {body : Bytes} (h : Digest.fnv1a body = 0) :
    unwrap (wrap body) = .error .zeroDigest := by
  have hfields := ofBytes_wrap_append body []
  rw [List.append_nil] at hfields
  have hheader : Header.decode (wrap body) = .error .zeroDigest := by
    apply Header.decode_of_digest_eq_zero
    · simp
    · rw [hfields, Header.magic_describing]
    · rw [hfields, Header.digest_describing, h]
  rw [unwrap, hheader]

theorem unwrap_wrap_append {body : Bytes} {action : Action} (hdigest : Digest.fnv1a body ≠ 0)
    (hshort : Message.baseWidth ≤ body.length) (hlong : body.length ≤ maxBody)
    (haction : BigEndian.field 0 4 body = action.code) (rest : Bytes) :
    unwrap (wrap body ++ rest)
      = .ok (⟨.describing body, action, UInt32.ofNat (BigEndian.field 4 4 body)⟩,
        body.drop Message.baseWidth) := by
  have hsize := toNat_size_describing hlong
  have hnonempty : body ≠ [] := by
    rintro rfl
    exact absurd hshort (by decide)
  have hheader : Header.decode (wrap body ++ rest) = .ok (.describing body) := by
    rw [Header.decode_eq_ok_iff]
    exact ⟨by simp; omega, (ofBytes_wrap_append body rest).symm, rfl, hdigest,
      size_describing_ne_zero hnonempty hlong⟩
  have hbody : ((wrap body ++ rest).drop Header.width).take body.length = body := by
    rw [drop_wrap_append, List.take_left]
  rw [unwrap, hheader]
  simp only [hsize, hbody]
  rw [if_neg (by omega), if_neg (by simp; omega),
    if_neg (not_not.mpr (Header.digest_describing body).symm), if_neg (by omega), haction,
    Action.ofCode?_code]

/-- What was unwrapped was wrapped before. -/
theorem eq_wrap_append_of_unwrap {bytes payload : Bytes} {message : Message}
    (h : unwrap bytes = .ok (message, payload)) :
    ∃ body rest, bytes = wrap body ++ rest ∧ Message.baseWidth ≤ body.length
      ∧ body.length ≤ maxBody ∧ Digest.fnv1a body ≠ 0
      ∧ message = ⟨.describing body, message.action, UInt32.ofNat (BigEndian.field 4 4 body)⟩
      ∧ BigEndian.field 0 4 body = message.action.code
      ∧ payload = body.drop Message.baseWidth := by
  unfold unwrap at h
  cases hheader : Header.decode bytes with
  | error error => simp [hheader] at h
  | ok header =>
    obtain ⟨hwidth, hfields, hmagic, hdigest, -⟩ := Header.decode_eq_ok_iff.mp hheader
    simp only [hheader] at h
    split_ifs at h with hlong hrun hactual hshort
    set body := (bytes.drop Header.width).take header.size.toNat with hbody
    cases haction : Action.ofCode? (BigEndian.field 0 4 body) with
    | none => simp [haction] at h
    | some action =>
      simp only [haction, Except.ok.injEq, Prod.mk.injEq] at h
      obtain ⟨rfl, rfl⟩ := h
      -- the header in front passed every check, so it is the one that describes the body
      have hlen : body.length = header.size.toNat := by
        rw [hbody, List.length_take, List.length_drop]
        omega
      have hdescribing : Header.describing body = header := by
        rw [Header.describing, hlen, UInt32.ofNat_toNat, not_not.mp hactual, ← hmagic]
      have hfront : (Header.describing body).toBytes = bytes.take Header.width := by
        rw [hdescribing, hfields, Header.toBytes_ofBytes hwidth]
      refine ⟨body, (bytes.drop Header.width).drop header.size.toNat, ?_, by omega, by omega, ?_,
        ?_, Action.ofCode?_eq_some_iff.mp haction, rfl⟩
      · rw [wrap, hfront, List.append_assoc, List.take_append_drop, List.take_append_drop]
      · rw [not_not.mp hactual]
        exact hdigest
      · rw [hdescribing]

/-- The octets are a head, a body and a rest, where sealing the body writes that head, and the body
is such as a receiver takes. -/
def Sealed (bytes head body rest : Bytes) : Prop :=
  bytes = head ++ body ++ rest
    ∧ (∀ out : Bytes, out.length = Header.width →
      (Header.stamp? out body).map Prod.snd = some head)
    ∧ 8 ≤ body.length ∧ body.length ≤ 1458
    ∧ Digest.fnv1a body ≠ 0 ∧ BigEndian.field 0 4 body < 4

theorem stamp?_of_length_eq {out : Bytes} (h : out.length = Header.width) (body : Bytes) :
    Header.stamp? out body = some (.describing body, (Header.describing body).toBytes) := by
  rw [Header.stamp?, if_neg (by omega), List.drop_eq_nil_of_le (by omega), List.append_nil]

theorem sealed_wrap_append {body : Bytes} (hshort : Message.baseWidth ≤ body.length)
    (hlong : body.length ≤ maxBody) (hdigest : Digest.fnv1a body ≠ 0)
    (haction : BigEndian.field 0 4 body < 4) (rest : Bytes) :
    Sealed (wrap body ++ rest) (Header.describing body).toBytes body rest := by
  refine ⟨rfl, ?_, hshort, hlong, hdigest, haction⟩
  intro out hout
  rw [stamp?_of_length_eq hout, Option.map_some]

theorem Sealed.eq_wrap_append {bytes head body rest : Bytes} (h : Sealed bytes head body rest) :
    bytes = wrap body ++ rest := by
  obtain ⟨hbytes, hhead, -⟩ := h
  have hwritten := hhead (List.replicate Header.width 0) List.length_replicate
  rw [stamp?_of_length_eq List.length_replicate, Option.map_some, Option.some.injEq] at hwritten
  rw [hbytes, ← hwritten, wrap]

theorem exists_code_eq {n : Nat} (h : n < 4) : ∃ action : Action, n = action.code := by
  cases haction : Action.ofCode? n with
  | none =>
    have := Action.ofCode?_eq_none_iff.mp haction
    omega
  | some action => exact ⟨action, Action.ofCode?_eq_some_iff.mp haction⟩

/-- A datagram is accepted when it starts with a sealed frame, and then its body alone says what the
message and the payload are. -/
theorem unwrap_ok_iff_sealed (bytes : Bytes) :
    ((∃ message payload, unwrap bytes = .ok (message, payload))
      ↔ ∃ head body rest, Sealed bytes head body rest)
    ∧ ∀ head body rest message payload, Sealed bytes head body rest →
      unwrap bytes = .ok (message, payload) →
      payload = body.drop 8
      ∧ message.action.code = BigEndian.field 0 4 body
      ∧ message.id.toNat = BigEndian.field 4 4 body
      ∧ ∀ out : Bytes, Header.width ≤ out.length →
        (Header.stamp? out body).map Prod.fst = some message.header := by
  refine ⟨⟨?_, ?_⟩, ?_⟩
  · rintro ⟨message, payload, h⟩
    obtain ⟨body, rest, rfl, hshort, hlong, hdigest, -, haction, -⟩ := eq_wrap_append_of_unwrap h
    have hcode : BigEndian.field 0 4 body < 4 := haction ▸ message.action.code_lt
    exact ⟨_, body, rest, sealed_wrap_append hshort hlong hdigest hcode rest⟩
  · rintro ⟨head, body, rest, h⟩
    -- a sealed frame is one that was wrapped, and that one is accepted
    have hbytes := h.eq_wrap_append
    obtain ⟨-, -, hshort, hlong, hdigest, hcode⟩ := h
    obtain ⟨action, haction⟩ := exists_code_eq hcode
    rw [hbytes]
    exact ⟨_, _, unwrap_wrap_append hdigest hshort hlong haction rest⟩
  · intro head body rest message payload h hunwrap
    have hbytes := h.eq_wrap_append
    obtain ⟨-, -, hshort, hlong, hdigest, hcode⟩ := h
    obtain ⟨action, haction⟩ := exists_code_eq hcode
    rw [hbytes, unwrap_wrap_append hdigest hshort hlong haction rest] at hunwrap
    cases hunwrap
    refine ⟨rfl, haction.symm, BigEndian.toNat_ofNat_field_uint32 4 body, ?_⟩
    intro out hout
    rw [Header.stamp?, if_neg (by omega), Option.map_some]

end Frame

end GridSession
