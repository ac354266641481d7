import GridSession.Envelope.Kinds
import GridSession.Proofs.Frame.Sealed

namespace GridSession

/-- A kind whose bodies are short enough for a frame. -/
class Payload.FitsFrame (α : Type) [Payload α] : Prop where
  baseWidth_add_width_le : Message.baseWidth + Payload.width α ≤ Frame.maxBody

instance : Payload.FitsFrame Login := ⟨by decide⟩

instance : Payload.FitsFrame Ping := ⟨by decide⟩

instance : Payload.FitsFrame Acknowledge := ⟨by decide⟩

namespace Message

theorem field_action_baseBytes_append (message : Message) (rest : Bytes) :
    BigEndian.field 0 4 (message.baseBytes ++ rest) = message.action.code := by
  have hlt : message.action.code < BigEndian.capacity 4 :=
    Nat.lt_trans message.action.code_lt (by decide)
  rw [baseBytes, List.append_assoc, BigEndian.field_toBytes, Nat.mod_eq_of_lt hlt]

theorem field_id_baseBytes_append (message : Message) (rest : Bytes) :
    UInt32.ofNat (BigEndian.field 4 4 (message.baseBytes ++ rest)) = message.id := by
  rw [baseBytes, List.append_assoc, BigEndian.field_toBytes_append 4 _ 0, BigEndian.field_toBytes,
    BigEndian.ofNat_toNat_mod_uint32]

end Message

namespace Envelope

variable {α : Type} [Payload α]

theorem body_eq_append (envelope : Envelope α) :
    envelope.body = BigEndian.toBytes 4 (Payload.action α).code
      ++ (BigEndian.toBytes 4 envelope.message.id.toNat ++ Payload.toBytes envelope.payload) :=
  List.append_assoc ..

theorem field_action_body (envelope : Envelope α) :
    BigEndian.field 0 4 envelope.body = (Payload.action α).code :=
  Message.field_action_baseBytes_append ..

theorem field_id_body (envelope : Envelope α) :
    UInt32.ofNat (BigEndian.field 4 4 envelope.body) = envelope.message.id :=
  Message.field_id_baseBytes_append ..

theorem drop_body (envelope : Envelope α) :
    envelope.body.drop Message.baseWidth = Payload.toBytes envelope.payload :=
  List.drop_left' (Message.length_baseBytes _)

theorem payload_eq_of_wrap_body {envelope other : Envelope α}
    (h : Frame.wrap envelope.body = Frame.wrap other.body) : envelope.payload = other.payload := by
  have hpayload := congrArg (List.drop Message.baseWidth) (Frame.wrap_injective h)
  rw [drop_body, drop_body] at hpayload
  rw [← Payload.ofBytes_toBytes envelope.payload [], hpayload, Payload.ofBytes_toBytes]

theorem code_eq_of_wrap_body {β : Type} [Payload β] {envelope : Envelope α} {other : Envelope β}
    (h : Frame.wrap envelope.body = Frame.wrap other.body) :
    (Payload.action α).code = (Payload.action β).code := by
  rw [← envelope.field_action_body, ← other.field_action_body, Frame.wrap_injective h]

theorem encode_of_le {out : Bytes} (envelope : Envelope α) (h : width α ≤ out.length) :
    envelope.encode out
      = ⟨width α, Frame.wrap envelope.body ++ out.drop (width α), envelope.stamped⟩ := by
  rw [encode_eq, if_neg (by omega)]

theorem length_wrap_body (envelope : Envelope α) :
    (Frame.wrap envelope.body).length = width α := by
  rw [Frame.length_wrap, length_body, width, Message.width, Nat.add_assoc]

theorem toBytes?_eq (envelope : Envelope α) :
    envelope.toBytes? = (some (Frame.wrap envelope.body), envelope.stamped) := by
  have hwidth : width α ≤ (List.replicate (width α) (0 : UInt8)).length :=
    Nat.le_of_eq List.length_replicate.symm
  have hencode := envelope.encode_of_le hwidth
  have hpositive : width α ≠ 0 := by
    rw [width, Message.width, Header.width]
    omega
  simp only [toBytes?, hencode]
  rw [if_neg hpositive, List.take_left' envelope.length_wrap_body]

theorem decode_wrap_body_of_digest_eq_zero {envelope : Envelope α}
    (h : Digest.fnv1a envelope.body = 0) :
    decode α (Frame.wrap envelope.body) = .error .zeroDigest := by
  rw [decode, Frame.unwrap_wrap_of_digest_eq_zero h]

variable [Payload.FitsFrame α]

theorem length_body_le (envelope : Envelope α) : envelope.body.length ≤ Frame.maxBody :=
  envelope.length_body ▸ Payload.FitsFrame.baseWidth_add_width_le

theorem unwrap_wrap_body {envelope : Envelope α} (h : Digest.fnv1a envelope.body ≠ 0) :
    Frame.unwrap (Frame.wrap envelope.body)
      = .ok (envelope.stamped.message, Payload.toBytes envelope.payload) := by
  have hunwrap := Frame.unwrap_wrap_append h (by simp) envelope.length_body_le
    envelope.field_action_body []
  rwa [List.append_nil, field_id_body, drop_body] at hunwrap

theorem decode_wrap_body {envelope : Envelope α} (h : Digest.fnv1a envelope.body ≠ 0) :
    decode α (Frame.wrap envelope.body) = .ok envelope.stamped := by
  have hpayload : Payload.ofBytes (Payload.toBytes envelope.payload) = envelope.payload := by
    simpa using Payload.ofBytes_toBytes envelope.payload []
  have haction : envelope.stamped.message.action = Payload.action α := rfl
  rw [decode, unwrap_wrap_body h]
  simp only [Payload.length_toBytes, hpayload]
  rw [if_neg (not_not.mpr haction), if_neg (by omega)]
  rfl

/-- The first octets that encoding wrote, as many as the kind is wide, are read back as the envelope
that encoding left. -/
def RoundTrips (envelope : Envelope α) (out : Bytes) : Prop :=
  decode α ((envelope.encode out).buffer.take (width α)) = .ok (envelope.encode out).message

theorem roundTrips_iff {out : Bytes} (envelope : Envelope α) (h : width α ≤ out.length) :
    envelope.RoundTrips out ↔ Digest.fnv1a envelope.body ≠ 0 := by
  rw [RoundTrips, envelope.encode_of_le h, List.take_left' envelope.length_wrap_body]
  constructor
  · intro hdecode hzero
    rw [decode_wrap_body_of_digest_eq_zero hzero] at hdecode
    cases hdecode
  · exact decode_wrap_body

theorem count_encode_and_roundTrips_iff {out : Bytes} (envelope : Envelope α)
    (h : width α ≤ out.length) :
    (envelope.encode out).count = width α
      ∧ (envelope.RoundTrips out ↔ Digest.fnv1a envelope.body ≠ 0) :=
  ⟨by rw [envelope.encode_of_le h], envelope.roundTrips_iff h⟩

/-- Into every buffer that is long enough an envelope of any kind is encoded in full, whatever
header and action it had before. It comes back exactly if the digest of its body is not zero. -/
theorem roundTrips_iff_digest_ne_zero (login : Envelope Login) (ping : Envelope Ping)
    (acknowledge : Envelope Acknowledge) (out : Bytes) :
    (width Login ≤ out.length →
      (login.encode out).count = width Login
        ∧ (login.RoundTrips out ↔ Digest.fnv1a login.body ≠ 0))
    ∧ (width Ping ≤ out.length →
      (ping.encode out).count = width Ping
        ∧ (ping.RoundTrips out ↔ Digest.fnv1a ping.body ≠ 0))
    ∧ (width Acknowledge ≤ out.length →
      (acknowledge.encode out).count = width Acknowledge
        ∧ (acknowledge.RoundTrips out ↔ Digest.fnv1a acknowledge.body ≠ 0)) :=
  ⟨login.count_encode_and_roundTrips_iff, ping.count_encode_and_roundTrips_iff,
    acknowledge.count_encode_and_roundTrips_iff⟩

theorem login_roundTrips_in_longer_buffer :
    (ofPayload { session := 1, returnTo := ⟨.localhost, 40000⟩ : Login } 7).RoundTrips
      (List.replicate 40 0xAA) :=
  ((roundTrips_iff_digest_ne_zero _ default default _).1 (by decide)).2.mpr (by decide)

def lostLogin : Envelope Login :=
  .ofPayload { returnTo := ⟨.ofOctets 57 52 24 156, 14053⟩ } 0x3C1D549C

def lostPing : Envelope Ping :=
  .ofPayload { playerId := 0x8A1E7835, lastAckId := 0x23985EDDEA8A4412 } 0xD30757CA

def lostAcknowledge : Envelope Acknowledge :=
  .ofPayload { ackedId := 0x2C5F10BB2E31F77E } 0x63047D8C

theorem lost_not_roundTrips :
    ¬ lostLogin.RoundTrips (List.replicate 32 0) ∧ ¬ lostPing.RoundTrips (List.replicate 34 0)
    ∧ ¬ lostAcknowledge.RoundTrips (List.replicate 30 0) := by
  refine ⟨?_, ?_, ?_⟩
  · rw [roundTrips_iff _ (by decide)]
    decide
  · rw [roundTrips_iff _ (by decide)]
    decide
  · rw [roundTrips_iff _ (by decide)]
    decide

end Envelope

end GridSession
