import GridSession.Proofs.GameLoop.Run

namespace GridSession

theorem BigEndian.field_set_ne {offset width index : Nat} {octet : UInt8} {bytes : Bytes}
    (hfits : offset + width ≤ bytes.length) (hfirst : offset ≤ index)
    (hlast : index < offset + width) (hne : bytes[index]? ≠ some octet) :
    field offset width (bytes.set index octet) ≠ field offset width bytes := by
  intro h
  -- equal fields are written alike, so the octet itself would be the old one
  have hwritten := congrArg (toBytes width) h
  rw [toBytes_field (by rwa [List.length_set]), toBytes_field hfits] at hwritten
  have hoctet := congrArg (·[index - offset]?) hwritten
  have hinside : index - offset < width := by omega
  have hindex : offset + (index - offset) = index := by omega
  have hlength : index < bytes.length := by omega
  simp only [List.getElem?_take_of_lt hinside, List.getElem?_drop, hindex,
    List.getElem?_set_self hlength] at hoctet
  exact hne hoctet.symm

/-- Whether an error is a reason to refuse a frame whose octet of this number was replaced. -/
def DecodeError.Reports (index : Nat) : DecodeError → Prop
  | badMagic _ => index < 2
  | zeroDigest => 2 ≤ index ∧ index < 10
  | digestMismatch .. => 2 ≤ index ∧ index < 10 ∨ Header.width ≤ index
  | _ => False

namespace Frame

/-- The octets are refused for a reason that tells the place of the replaced one. -/
def RefusedAt (index : Nat) (bytes : Bytes) : Prop :=
  ∃ error : DecodeError, error.Reports index ∧ unwrap bytes = .error error

variable {bytes body rest : Bytes} {index : Nat} {octet : UInt8}

theorem unwrap_of_magic_ne (hwidth : Header.width ≤ bytes.length)
    (hmagic : (Header.ofBytes bytes).magic ≠ Header.magicWord) :
    unwrap bytes = .error (.badMagic (Header.ofBytes bytes).magic) := by
  have hheader : Header.decode bytes = .error (.badMagic (Header.ofBytes bytes).magic) := by
    unfold Header.decode
    simp only
    rw [if_neg (by omega), if_pos hmagic]
  rw [unwrap, hheader]

theorem unwrap_of_digest_ne (hmagic : (Header.ofBytes bytes).magic = Header.magicWord)
    (hsize : (Header.ofBytes bytes).size ≠ 0)
    (hlong : (Header.ofBytes bytes).size.toNat ≤ maxBody)
    (hfits : Header.width + (Header.ofBytes bytes).size.toNat ≤ bytes.length)
    (hbody : (bytes.drop Header.width).take (Header.ofBytes bytes).size.toNat = body)
    (hdigest : Digest.fnv1a body ≠ (Header.ofBytes bytes).digest) :
    unwrap bytes = .error (if (Header.ofBytes bytes).digest = 0 then .zeroDigest
      else .digestMismatch (Header.ofBytes bytes).digest (Digest.fnv1a body)) := by
  split_ifs with hzero
  · rw [unwrap, Header.decode_of_digest_eq_zero (by omega) hmagic hzero]
  · have hheader : Header.decode bytes = .ok (Header.ofBytes bytes) :=
      Header.decode_eq_ok_iff.mpr ⟨by omega, rfl, hmagic, hzero, hsize⟩
    rw [unwrap, hheader]
    simp only [hbody]
    rw [if_neg (by omega), if_neg (by omega), if_pos hdigest]

theorem unwrap_set_of_lt_two (hindex : index < 2)
    (hne : (wrap body ++ rest)[index]? ≠ some octet) :
    RefusedAt index ((wrap body ++ rest).set index octet) := by
  have hwidth : 14 ≤ (wrap body ++ rest).length := by simp [Header.width]; omega
  have hmagic : (Header.ofBytes ((wrap body ++ rest).set index octet)).magic
      ≠ Header.magicWord := by
    rw [← Header.magic_describing body, ← ofBytes_wrap_append body rest]
    intro h
    have hfield := congrArg UInt16.toNat h
    simp only [Header.ofBytes, BigEndian.toNat_ofNat_field_uint16] at hfield
    exact BigEndian.field_set_ne (by omega) (Nat.zero_le _) (by omega) hne hfield
  refine ⟨.badMagic _, hindex, unwrap_of_magic_ne ?_ hmagic⟩
  rwa [List.length_set]

/-- As long as magic word and size are intact, what is left to notice is that digest and body do not
belong together. -/
theorem unwrap_set_of_digest_ne (found : Bytes) (hnonempty : body ≠ [])
    (hlong : body.length ≤ maxBody) (hindex : 2 ≤ index ∧ index < 10 ∨ Header.width ≤ index)
    (hfound : (((wrap body ++ rest).set index octet).drop Header.width).take body.length = found)
    (hdigest : Digest.fnv1a found
      ≠ (Header.ofBytes ((wrap body ++ rest).set index octet)).digest)
    (hzero : Header.width ≤ index
      → (Header.ofBytes ((wrap body ++ rest).set index octet)).digest ≠ 0) :
    RefusedAt index ((wrap body ++ rest).set index octet) := by
  have hwidth : Header.width = 14 := rfl
  -- magic word and size are as they were, so the digest is the first check that can fail
  have hmagic : (Header.ofBytes ((wrap body ++ rest).set index octet)).magic
      = Header.magicWord := by
    rw [← Header.magic_describing body, ← ofBytes_wrap_append body rest]
    exact congrArg UInt16.ofNat (BigEndian.field_set (by omega) octet _)
  have hsame : (Header.ofBytes ((wrap body ++ rest).set index octet)).size
      = (Header.describing body).size := by
    rw [size_ofBytes_set (by omega), ofBytes_wrap_append]
  have hsize : (Header.ofBytes ((wrap body ++ rest).set index octet)).size.toNat
      = body.length := by
    rw [hsame, toNat_size_describing hlong]
  have hsize_ne : (Header.ofBytes ((wrap body ++ rest).set index octet)).size ≠ 0 :=
    hsame ▸ size_describing_ne_zero hnonempty hlong
  have hfits : Header.width + body.length ≤ ((wrap body ++ rest).set index octet).length := by
    simp
  rw [← hsize] at hfound hfits hlong
  have hunwrap := unwrap_of_digest_ne hmagic hsize_ne hlong hfits hfound hdigest
  refine ⟨_, ?_, hunwrap⟩
  split_ifs with h
  · exact hindex.resolve_right fun hbehind => hzero hbehind h
  · exact hindex

theorem unwrap_set_of_lt_ten (hnonempty : body ≠ []) (hlong : body.length ≤ maxBody)
    (hfirst : 2 ≤ index) (hlast : index < 10)
    (hne : (wrap body ++ rest)[index]? ≠ some octet) :
    RefusedAt index ((wrap body ++ rest).set index octet) := by
  have hwidth : Header.width = 14 := rfl
  have hfits : 14 ≤ (wrap body ++ rest).length := by simp [Header.width]; omega
  refine unwrap_set_of_digest_ne body hnonempty hlong (.inl ⟨hfirst, hlast⟩) ?_ ?_
    (by omega)
  · rw [List.drop_set, if_pos (by omega), drop_wrap_append, List.take_left]
  · -- the body still has the digest that stood in front of it
    rw [← Header.digest_describing body, ← ofBytes_wrap_append body rest]
    intro h
    have hfield := congrArg UInt64.toNat h
    simp only [Header.ofBytes, BigEndian.toNat_ofNat_field_uint64] at hfield
    exact BigEndian.field_set_ne (by omega) hfirst (by omega) hne hfield.symm

theorem unwrap_set_of_body (hdigest : Digest.fnv1a body ≠ 0) (hlong : body.length ≤ maxBody)
    (hbehind : Header.width ≤ index) (hlast : index < Header.width + body.length)
    (hne : (wrap body ++ rest)[index]? ≠ some octet) :
    RefusedAt index ((wrap body ++ rest).set index octet) := by
  have hnonempty : body ≠ [] := List.length_pos_iff.mp (by omega)
  have hinside : index - Header.width < body.length := by omega
  have hheader := ofBytes_set hbehind octet (wrap body ++ rest)
  rw [ofBytes_wrap_append] at hheader
  refine unwrap_set_of_digest_ne (body.set (index - Header.width) octet) hnonempty hlong
    (.inr hbehind) ?_ ?_ fun _ => ?_
  · rw [List.drop_set, if_neg (by omega), drop_wrap_append, List.set_append_left _ _ hinside,
      List.take_left' List.length_set]
  · -- one octet of the body is another one, and the digest tells any two such bodies apart
    rw [hheader, Header.digest_describing]
    refine Digest.fnv1a_set_ne hinside ?_
    rwa [wrap, List.append_assoc, List.getElem?_append_right (by simp; omega),
      Header.length_toBytes, List.getElem?_append_left hinside] at hne
  · rw [hheader, Header.digest_describing]
    exact hdigest

/-- An accepted frame is refused with any octet of its magic word, digest or body replaced. -/
theorem unwrap_set_eq_error {message : Message} {payload : Bytes}
    (h : unwrap bytes = .ok (message, payload))
    (hindex : index < 10 ∨ Header.width ≤ index ∧ index < Header.width + message.header.size.toNat)
    (hne : bytes[index]? ≠ some octet) :
    RefusedAt index (bytes.set index octet) := by
  obtain ⟨body, rest, rfl, hshort, hlong, hdigest, hmessage, -⟩ := eq_wrap_append_of_unwrap h
  have hsize : message.header.size.toNat = body.length := by
    rw [hmessage, toNat_size_describing hlong]
  have hnonempty : body ≠ [] := by
    rintro rfl
    exact absurd hshort (by decide)
  rw [hsize] at hindex
  rcases hindex with hfront | ⟨hbehind, hlast⟩
  · rcases Nat.lt_or_ge index 2 with hmagic | hfirst
    · exact unwrap_set_of_lt_two hmagic hne
    · exact unwrap_set_of_lt_ten hnonempty hlong hfirst hfront hne
  · exact unwrap_set_of_body hdigest hlong hbehind hlast hne

end Frame

theorem Message.decode_of_unwrap_eq_error {bytes : Bytes} {error : DecodeError}
    (h : Frame.unwrap bytes = .error error) : decode bytes = .error error := by
  rw [decode, h, Except.map]

theorem Envelope.decode_of_unwrap_eq_error {α : Type} [Payload α] {bytes : Bytes}
    {error : DecodeError} (h : Frame.unwrap bytes = .error error) :
    decode α bytes = .error error := by
  rw [decode, h]

theorem GameLoop.inbox_onDatagram_of_unwrap_eq_error {δ : Type} (loop : GameLoop δ)
    (sender : SocketAddress) {bytes : Bytes} {error : DecodeError}
    (h : Frame.unwrap bytes = .error error) :
    (loop.onDatagram ⟨sender, bytes⟩).inbox = loop.inbox := by
  have hnone : Event.decoded? ⟨sender, bytes⟩ = none :=
    Event.decoded?_of_unwrap_ne_ok fun opened hopened => by
      rw [h] at hopened
      cases hopened
  rw [onDatagram_eq, hnone, Option.toList_none, List.append_nil]

namespace Frame

/-- One replaced octet outside the size field is always noticed: every reader refuses what was an
accepted frame, for a reason that tells where the octet stands, and no loop queues anything for
it. -/
theorem replaced_octet_detected {bytes payload : Bytes} {message : Message} {index : Nat}
    {octet : UInt8} (h : unwrap bytes = .ok (message, payload))
    (hindex : index < 10 ∨ 14 ≤ index ∧ index < 14 + message.header.size.toNat)
    (hne : bytes[index]? ≠ some octet) :
    ∃ error : DecodeError, error.Reports index
      ∧ Message.decode (bytes.set index octet) = .error error
      ∧ Envelope.decode Login (bytes.set index octet) = .error error
      ∧ Envelope.decode Ping (bytes.set index octet) = .error error
      ∧ Envelope.decode Acknowledge (bytes.set index octet) = .error error
      ∧ ∀ (δ : Type) (loop : GameLoop δ) (sender : SocketAddress),
        (loop.onDatagram ⟨sender, bytes.set index octet⟩).inbox = loop.inbox := by
  obtain ⟨error, hreports, hunwrap⟩ := unwrap_set_eq_error h hindex hne
  exact ⟨error, hreports, Message.decode_of_unwrap_eq_error hunwrap,
    Envelope.decode_of_unwrap_eq_error hunwrap, Envelope.decode_of_unwrap_eq_error hunwrap,
    Envelope.decode_of_unwrap_eq_error hunwrap,
    fun _ loop sender => loop.inbox_onDatagram_of_unwrap_eq_error sender hunwrap⟩

theorem acknowledge_last_octet_detected :
    let bytes := wrap (Envelope.ofPayload { ackedId := 5 : Acknowledge } 1).body
    (∃ opened, unwrap bytes = .ok opened) ∧ bytes[29]? = some 5
    ∧ ∃ error : DecodeError, error.Reports 29
      ∧ Envelope.decode Acknowledge (bytes.set 29 6) = .error error := by
  intro bytes
  have hunwrap : unwrap bytes
      = .ok (⟨.describing (bytes.drop 14), .acknowledge, 1⟩, [0, 0, 0, 0, 0, 0, 0, 5]) := by decide
  obtain ⟨error, hreports, -, -, -, hdecode, -⟩ :=
    @replaced_octet_detected bytes _ _ 29 6 hunwrap (by decide) (by decide)
  exact ⟨⟨_, hunwrap⟩, by decide, error, hreports, hdecode⟩

end Frame

end GridSession
