import GridSession.Proofs.Envelope.Checks
import GridSession.Proofs.Envelope.RoundTrip

namespace GridSession

namespace Header

variable {body : Bytes}

theorem toBytes_inj {header other : Header} : header.toBytes = other.toBytes ↔ header = other := by
  refine ⟨fun h => ?_, congrArg toBytes⟩
  rw [← ofBytes_toBytes_append header [], h, ofBytes_toBytes_append]

theorem describing_take_eq_iff {length : Nat} (hfront : length ≤ body.length)
    (hlong : body.length ≤ Frame.maxBody) :
    describing (body.take length) = describing body ↔ body.length = length := by
  have htake : (body.take length).length = length := List.length_take_of_le hfront
  constructor
  · intro h
    have hsize := congrArg UInt32.toNat (congrArg Header.size h)
    rwa [Frame.toNat_size_describing (by omega), Frame.toNat_size_describing hlong, htake,
      eq_comm] at hsize
  · rintro rfl
    rw [List.take_length]

end Header

namespace Frame

variable {body : Bytes}

theorem field_size_wrap_append (hlong : body.length ≤ maxBody) (rest : Bytes) :
    BigEndian.field 10 4 (wrap body ++ rest) = body.length := by
  rw [← Header.toNat_size_ofBytes, ofBytes_wrap_append, toNat_size_describing hlong]

theorem take_wrap_append {length : Nat} (hfront : length ≤ body.length) (rest : Bytes) :
    (wrap body ++ rest).take (Header.width + length)
      = (Header.describing body).toBytes ++ body.take length := by
  have hheader : (Header.describing body).toBytes.length = Header.width := Header.length_toBytes _
  rw [wrap, List.append_assoc, ← hheader, List.take_length_add_append,
    List.take_append_of_le_length hfront]

theorem wrap_take_eq_take_iff {length : Nat} (hfront : length ≤ body.length)
    (hlong : body.length ≤ maxBody) (rest : Bytes) :
    wrap (body.take length) = (wrap body ++ rest).take (Header.width + length)
      ↔ body.length = length := by
  rw [take_wrap_append hfront, wrap, List.append_left_inj, Header.toBytes_inj,
    Header.describing_take_eq_iff hfront hlong]

end Frame

namespace Envelope

variable {α : Type} [Payload α] {bytes : Bytes} {envelope : Envelope α}

theorem stamped_eq_iff (haction : envelope.message.action = Payload.action α) :
    envelope.stamped = envelope ↔ .describing envelope.body = envelope.message.header := by
  constructor
  · intro h
    exact congrArg (fun other => other.message.header) h
  · intro h
    rw [stamped, h, ← haction]

theorem body_eq_take {body : Bytes} (hcode : BigEndian.field 0 4 body = (Payload.action α).code)
    (hid : envelope.message.id.toNat = BigEndian.field 4 4 body)
    (hpayload : envelope.payload = Payload.ofBytes (body.drop Message.baseWidth))
    (hwidth : Message.baseWidth + Payload.width α ≤ body.length) :
    envelope.body = body.take (Message.baseWidth + Payload.width α) := by
  -- the action, the id and the payload stand next to each other from the first octet on
  have hbase : Message.baseWidth = 4 + 4 := rfl
  rw [body_eq_append, ← hcode, hid, hpayload, BigEndian.toBytes_field (by omega),
    BigEndian.toBytes_field (by omega), Payload.toBytes_ofBytes _ (by simp; omega), List.drop_zero,
    hbase, ← List.drop_drop, ← List.take_add, ← List.take_add, Nat.add_assoc]

theorem exists_wrap_append_of_decode (h : decode α bytes = .ok envelope) :
    ∃ body rest, bytes = Frame.wrap body ++ rest
      ∧ Message.baseWidth + Payload.width α ≤ body.length ∧ body.length ≤ Frame.maxBody
      ∧ envelope.message.header = .describing body
      ∧ envelope.message.action = Payload.action α
      ∧ envelope.body = body.take (Message.baseWidth + Payload.width α) := by
  unfold decode at h
  cases hunwrap : Frame.unwrap bytes with
  | error error => simp [hunwrap] at h
  | ok opened =>
    obtain ⟨message, payload⟩ := opened
    simp only [hunwrap] at h
    split_ifs at h with haction hshort
    cases h
    obtain ⟨body, rest, rfl, hbase, hlong, -, hmessage, hcode, rfl⟩ :=
      Frame.eq_wrap_append_of_unwrap hunwrap
    have haction : message.action = Payload.action α := not_not.mp haction
    -- what was read of the body spells its start again
    have hid : message.id.toNat = BigEndian.field 4 4 body := by
      rw [congrArg Message.id hmessage, BigEndian.toNat_ofNat_field_uint32]
    have hwidth : Message.baseWidth + Payload.width α ≤ body.length := by
      rw [List.length_drop] at hshort
      omega
    exact ⟨body, rest, rfl, hwidth, hlong, congrArg Message.header hmessage, haction,
      body_eq_take (haction ▸ hcode) hid rfl hwidth⟩

theorem take_buffer_encode {out body : Bytes} (hout : width α ≤ out.length)
    (hbody : envelope.body = body.take (Message.baseWidth + Payload.width α)) :
    (envelope.encode out).buffer.take (width α)
      = Frame.wrap (body.take (Message.baseWidth + Payload.width α)) := by
  rw [envelope.encode_of_le hout, List.take_left' envelope.length_wrap_body, hbody]

theorem width_eq : width α = Header.width + (Message.baseWidth + Payload.width α) := by
  rw [width, Message.width, Nat.add_assoc]

theorem take_buffer_encode_eq_iff {out : Bytes} (h : decode α bytes = .ok envelope)
    (hout : width α ≤ out.length) :
    (envelope.encode out).buffer.take (width α) = bytes.take (width α)
      ↔ BigEndian.field 10 4 bytes = width α - 14 := by
  obtain ⟨body, rest, rfl, hfront, hlong, -, -, hbody⟩ := exists_wrap_append_of_decode h
  rw [take_buffer_encode hout hbody, width_eq, Frame.wrap_take_eq_take_iff hfront hlong,
    Frame.field_size_wrap_append hlong, Header.width, Nat.add_sub_cancel_left]

theorem message_encode_eq_iff {out : Bytes} (h : decode α bytes = .ok envelope)
    (hout : width α ≤ out.length) :
    (envelope.encode out).message = envelope
      ↔ BigEndian.field 10 4 bytes = width α - 14 := by
  obtain ⟨body, rest, rfl, hfront, hlong, hheader, haction, hbody⟩ :=
    exists_wrap_append_of_decode h
  rw [envelope.encode_of_le hout, stamped_eq_iff haction, hheader, hbody,
    Header.describing_take_eq_iff hfront hlong, Frame.field_size_wrap_append hlong, width_eq,
    Header.width, Nat.add_sub_cancel_left]

/-- Of two frames that claim exactly what the kind is wide and are read as the same envelope, the
octets that are read are the same. -/
theorem take_eq_of_decode {other : Bytes} (h : decode α bytes = .ok envelope)
    (hother : decode α other = .ok envelope) (hsize : BigEndian.field 10 4 bytes = width α - 14)
    (hsizeOther : BigEndian.field 10 4 other = width α - 14) :
    other.take (width α) = bytes.take (width α) := by
  have hout : width α ≤ (List.replicate (width α) (0 : UInt8)).length := by simp
  rw [← (take_buffer_encode_eq_iff h hout).mpr hsize,
    (take_buffer_encode_eq_iff hother hout).mpr hsizeOther]

/-- An envelope that was read is encoded to the octets behind the header that it was read from. The
header comes back too, on the wire and in the envelope, exactly if it claimed what the kind is wide,
and such frames are told apart by what is read. -/
theorem reencodes_exactly_iff_size (out : Bytes) (h : decode α bytes = .ok envelope)
    (hout : width α ≤ out.length) :
    width α ≤ bytes.length ∧ (envelope.encode out).count = width α
    ∧ ((envelope.encode out).buffer.take (width α)).drop 14 = (bytes.take (width α)).drop 14
    ∧ ((envelope.encode out).buffer.take (width α) = bytes.take (width α)
      ↔ BigEndian.field 10 4 bytes = width α - 14)
    ∧ ((envelope.encode out).message = envelope
      ↔ BigEndian.field 10 4 bytes = width α - 14)
    ∧ ∀ other, decode α other = .ok envelope → BigEndian.field 10 4 bytes = width α - 14 →
      BigEndian.field 10 4 other = width α - 14 →
      other.take (width α) = bytes.take (width α) := by
  refine ⟨?_, ?_, ?_, take_buffer_encode_eq_iff h hout, message_encode_eq_iff h hout, ?_⟩
  · obtain ⟨body, rest, rfl, hfront, -⟩ := exists_wrap_append_of_decode h
    simp only [width_eq, List.length_append, Frame.length_wrap]
    omega
  · rw [envelope.encode_of_le hout]
  · obtain ⟨body, rest, rfl, hfront, -, -, -, hbody⟩ := exists_wrap_append_of_decode h
    have hbehind (header : Header) (rest : Bytes) : (header.toBytes ++ rest).drop 14 = rest :=
      List.drop_left' header.length_toBytes
    rw [take_buffer_encode hout hbody, width_eq, Frame.take_wrap_append hfront, Frame.wrap,
      hbehind, hbehind]
  · intro other hother hsize hsizeOther
    exact take_eq_of_decode h hother hsize hsizeOther

/-- An acknowledgment whose frame claims one octet more than it needs. -/
def paddedAcknowledge : Bytes :=
  Frame.wrap [0, 0, 0, 1, 0, 0, 0, 5, 0, 0, 0, 0, 0, 0, 0, 7, 0xFF]

def exactLogin : Bytes :=
  Frame.wrap (ofPayload (default : Login) 7).body

theorem padded_frame_not_reencoded :
    (∃ envelope, decode Acknowledge paddedAcknowledge = .ok envelope
      ∧ (envelope.encode (List.replicate 30 0)).buffer.take 30 ≠ paddedAcknowledge.take 30)
    ∧ ∃ envelope, decode Login exactLogin = .ok envelope
      ∧ (envelope.encode (List.replicate 40 0)).buffer.take 32 = exactLogin.take 32
      ∧ (envelope.encode (List.replicate 40 0)).message = envelope
      ∧ decode Login (exactLogin ++ [0xAA]) = .ok envelope
      ∧ (exactLogin ++ [0xAA]).take 32 = exactLogin.take 32 := by
  have hpadded : decode Acknowledge paddedAcknowledge = .ok _ := rfl
  have hexact : decode Login exactLogin = .ok _ := rfl
  have hlonger : decode Login (exactLogin ++ [0xAA]) = .ok _ := rfl
  obtain ⟨-, -, -, hpaddedWhole, -⟩ :=
    reencodes_exactly_iff_size (List.replicate 30 0) hpadded (by decide)
  obtain ⟨-, -, -, hwhole, hmessage, hother⟩ :=
    reencodes_exactly_iff_size (List.replicate 40 0) hexact (by decide)
  have hsize : BigEndian.field 10 4 exactLogin = width Login - 14 := by decide
  exact ⟨⟨_, hpadded, mt hpaddedWhole.mp (by decide)⟩, _, hexact, hwhole.mpr hsize,
    hmessage.mpr hsize, hlonger, hother _ hlonger hsize (by decide)⟩

end Envelope

end GridSession
