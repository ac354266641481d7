import GridSession.Proofs.Envelope.Reencoding
import GridSession.Proofs.Frame.Detection

namespace GridSession

namespace Frame

/-- Every reader makes the same of both runs of octets, be it a message or an error. -/
structure ReadAlike (bytes other : Bytes) : Prop where
  unwrap : Frame.unwrap bytes = Frame.unwrap other
  message : Message.decode bytes = Message.decode other
  login : Envelope.decode Login bytes = Envelope.decode Login other
  ping : Envelope.decode Ping bytes = Envelope.decode Ping other
  acknowledge : Envelope.decode Acknowledge bytes = Envelope.decode Acknowledge other

/-- Every reader refuses the octets, and for this reason. -/
structure RefusedFor (error : DecodeError) (bytes : Bytes) : Prop where
  unwrap : Frame.unwrap bytes = .error error
  message : Message.decode bytes = .error error
  login : Envelope.decode Login bytes = .error error
  ping : Envelope.decode Ping bytes = .error error
  acknowledge : Envelope.decode Acknowledge bytes = .error error

variable {bytes other body payload : Bytes} {message : Message}

/-- All readers start by unwrapping, and look at nothing else afterwards. -/
theorem readAlike_of_unwrap_eq (h : Frame.unwrap bytes = Frame.unwrap other) :
    ReadAlike bytes other where
  unwrap := h
  message := by rw [Message.decode, h, Message.decode]
  login := by rw [Envelope.decode, h, Envelope.decode]
  ping := by rw [Envelope.decode, h, Envelope.decode]
  acknowledge := by rw [Envelope.decode, h, Envelope.decode]

theorem refusedFor_of_unwrap_eq {error : DecodeError} (h : Frame.unwrap bytes = .error error) :
    RefusedFor error bytes where
  unwrap := h
  message := Message.decode_of_unwrap_eq_error h
  login := Envelope.decode_of_unwrap_eq_error h
  ping := Envelope.decode_of_unwrap_eq_error h
  acknowledge := Envelope.decode_of_unwrap_eq_error h

theorem unwrap_of_lt (h : bytes.length < Header.width) :
    unwrap bytes = .error (.truncated Header.width bytes.length) := by
  rw [unwrap, Header.decode_of_lt h]

theorem unwrap_header_append_take {length : Nat} (hdigest : Digest.fnv1a body ≠ 0)
    (hlong : body.length ≤ maxBody) (hcut : length < body.length) :
    unwrap ((Header.describing body).toBytes ++ body.take length)
      = .error (.payloadOverrun (Header.describing body).size length) := by
  have hsize := toNat_size_describing hlong
  have hnonempty : body ≠ [] := List.length_pos_iff.mp (by omega)
  -- the header is whole and passes, so only what it claims is missing
  have hheader : Header.decode ((Header.describing body).toBytes ++ body.take length)
      = .ok (.describing body) := by
    rw [Header.decode_eq_ok_iff]
    exact ⟨by simp, (Header.ofBytes_toBytes_append _ _).symm, rfl, hdigest,
      size_describing_ne_zero hnonempty hlong⟩
  have havailable : ((Header.describing body).toBytes ++ body.take length).length - Header.width
      = length := by
    rw [List.length_append, Header.length_toBytes, List.length_take_of_le (by omega)]
    omega
  rw [unwrap, hheader]
  simp only [hsize, havailable]
  rw [if_neg (by omega), if_pos hcut]

def cutError (claimed : UInt32) (length : Nat) : DecodeError :=
  if length < 14 then .truncated 14 length else .payloadOverrun claimed (length - 14)

/-- Wherever a frame is cut, its end is missed. -/
theorem unwrap_take_wrap_append {length : Nat} (hdigest : Digest.fnv1a body ≠ 0)
    (hlong : body.length ≤ maxBody) (hcut : length < Header.width + body.length) (rest : Bytes) :
    unwrap ((wrap body ++ rest).take length)
      = .error (cutError (Header.describing body).size length) := by
  have hwidth : Header.width = 14 := rfl
  unfold cutError
  split_ifs with hheader
  · have hlength : ((wrap body ++ rest).take length).length = length := by
      rw [List.length_take_of_le]
      rw [List.length_append, length_wrap]
      omega
    rw [unwrap_of_lt (by omega), hlength, hwidth]
  · -- the header arrived, and some of the body
    obtain ⟨front, rfl⟩ : ∃ front, length = Header.width + front := ⟨length - 14, by omega⟩
    have hfront : front < body.length := by omega
    rw [take_wrap_append (Nat.le_of_lt hfront), unwrap_header_append_take hdigest hlong hfront,
      hwidth, Nat.add_sub_cancel_left]

/-- An accepted frame ends where its header says. Every reader makes the same of it with anything
behind it or with nothing, and no front of it is a frame: each is refused for the octets it lacks.
-/
theorem accepted_frame_delimits_itself (h : unwrap bytes = .ok (message, payload)) :
    14 + message.header.size.toNat ≤ bytes.length
    ∧ (∀ rest, ReadAlike (bytes.take (14 + message.header.size.toNat) ++ rest) bytes)
    ∧ ∀ length < 14 + message.header.size.toNat,
      RefusedFor (cutError message.header.size length) (bytes.take length) := by
  obtain ⟨body, behind, rfl, hshort, hlong, hdigest, hmessage, haction, -⟩ :=
    eq_wrap_append_of_unwrap h
  have hheader : message.header = .describing body := congrArg Message.header hmessage
  have hwrap : (wrap body).length = 14 + body.length := length_wrap body
  rw [hheader, toNat_size_describing hlong]
  refine ⟨by rw [List.length_append]; omega, ?_, ?_⟩
  · intro rest
    apply readAlike_of_unwrap_eq
    rw [List.take_left' hwrap, unwrap_wrap_append hdigest hshort hlong haction,
      unwrap_wrap_append hdigest hshort hlong haction]
  · intro length hcut
    exact refusedFor_of_unwrap_eq (unwrap_take_wrap_append hdigest hlong hcut behind)

def followedAcknowledge : Bytes :=
  wrap (Envelope.ofPayload { ackedId := 9 : Acknowledge } 3).body ++ [0xAA]

/-- It is read without that octet and with two others in its place, but neither its header without
the last octet nor the frame without its last octet is read at all. -/
theorem followedAcknowledge_delimits_itself :
    (∃ opened, unwrap followedAcknowledge = .ok opened)
    ∧ ReadAlike (followedAcknowledge.take 30) followedAcknowledge
    ∧ ReadAlike (followedAcknowledge.take 30 ++ [0, 1]) followedAcknowledge
    ∧ RefusedFor (.truncated 14 13) (followedAcknowledge.take 13)
    ∧ RefusedFor (.payloadOverrun 16 15) (followedAcknowledge.take 29) := by
  have hunwrap : unwrap followedAcknowledge
      = .ok (⟨.describing ((followedAcknowledge.drop 14).take 16), .acknowledge, 3⟩,
        [0, 0, 0, 0, 0, 0, 0, 9]) := by decide
  obtain ⟨-, halike, hcut⟩ := accepted_frame_delimits_itself hunwrap
  have hwhole := halike []
  rw [List.append_nil] at hwhole
  exact ⟨⟨_, hunwrap⟩, hwhole, halike [0, 1], hcut 13 (by decide), hcut 29 (by decide)⟩

end Frame

end GridSession
