import GridSession.Proofs.Frame.Delimited
import GridSession.Proofs.Frame.Spoiled
import GridSession.SelfTest

namespace GridSession

namespace Envelope

variable {α : Type} [Payload α]

theorem isOk_decode_of_unwrap_eq_error {bytes : Bytes} {error : DecodeError}
    (h : Frame.unwrap bytes = .error error) : (decode α bytes).isOk = false := by
  rw [decode_of_unwrap_eq_error h]
  rfl

variable [Payload.FitsFrame α] {envelope : Envelope α}

theorem isOk_decode_last (envelope : Envelope α) :
    (decode α (Damage.last (Frame.wrap envelope.body))).isOk = false := by
  cases hunwrap : Frame.unwrap (Damage.last (Frame.wrap envelope.body)) with
  | error error => exact isOk_decode_of_unwrap_eq_error hunwrap
  | ok opened =>
    exact absurd hunwrap (Frame.unwrap_last_wrap_ne_ok envelope.length_body_le opened)

theorem isOk_decode_take (h : Digest.fnv1a envelope.body ≠ 0) :
    (decode α ((Frame.wrap envelope.body).take (width α - 1))).isOk = false := by
  have hcut : width α - 1 < Header.width + envelope.body.length := by
    rw [← Frame.length_wrap, length_wrap_body, width, Message.width, Header.width]
    omega
  have herror := Frame.unwrap_take_wrap_append h envelope.length_body_le hcut []
  rw [List.append_nil] at herror
  exact isOk_decode_of_unwrap_eq_error herror

end Envelope

namespace SelfTest

variable {α : Type} [Payload α] [DecidableEq α] {kind : String} {envelope stamped : Envelope α}
  {frame : Bytes}

-- the frame is a variable in these two, so that reading it is never evaluated
theorem checkKind_of_decode_eq_error {error : DecodeError}
    (hwritten : envelope.toBytes? = (some frame, stamped))
    (hdecode : Envelope.decode α frame = .error error) :
    checkKind kind envelope = .error (.decode kind error) := by
  unfold checkKind
  simp only [hwritten, hdecode]

theorem checkKind_of_decode_eq_ok (hwritten : envelope.toBytes? = (some frame, stamped))
    (hdecode : Envelope.decode α frame = .ok stamped)
    (hlast : (Envelope.decode α (Damage.last frame)).isOk = false)
    (htake : (Envelope.decode α (frame.take (Envelope.width α - 1))).isOk = false) :
    checkKind kind envelope = .ok () := by
  unfold checkKind
  simp only [hwritten, hdecode, hlast, htake]
  rw [if_neg (not_not.mpr rfl), if_neg Bool.false_ne_true, if_neg Bool.false_ne_true]

variable [Payload.FitsFrame α]

theorem checkKind_eq_ite (kind : String) (envelope : Envelope α) :
    checkKind kind envelope
      = if Digest.fnv1a envelope.body = 0 then .error (.decode kind .zeroDigest) else .ok () := by
  split_ifs with h
  · exact checkKind_of_decode_eq_error envelope.toBytes?_eq
      (Envelope.decode_wrap_body_of_digest_eq_zero h)
  · exact checkKind_of_decode_eq_ok envelope.toBytes?_eq (Envelope.decode_wrap_body h)
      envelope.isOk_decode_last (Envelope.isOk_decode_take h)

/-- An envelope of any kind passes its check unless the digest of its body is zero, whatever header
and action it had before. If it is, the frame is not read back, and nothing else can go wrong. -/
theorem check_fails_only_for_zero_digest (kind : String) (login : Envelope Login)
    (ping : Envelope Ping) (acknowledge : Envelope Acknowledge) :
    checkKind kind login
      = (if Digest.fnv1a login.body = 0 then .error (.decode kind .zeroDigest) else .ok ())
    ∧ checkKind kind ping
      = (if Digest.fnv1a ping.body = 0 then .error (.decode kind .zeroDigest) else .ok ())
    ∧ checkKind kind acknowledge
      = (if Digest.fnv1a acknowledge.body = 0 then .error (.decode kind .zeroDigest)
        else .ok ()) :=
  ⟨checkKind_eq_ite kind login, checkKind_eq_ite kind ping, checkKind_eq_ite kind acknowledge⟩

/-- The digest of this ping's body is zero. -/
example : checkKind "ping" (.ofPayload
    { playerId := 0x8A1E7835, lastAckId := 0x23985EDDEA8A4412 : Ping } 0xD30757CA)
    = .error (.decode "ping" .zeroDigest) := by
  decide

end SelfTest

end GridSession
