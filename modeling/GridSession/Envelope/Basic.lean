import GridSession.Frame.Message

namespace GridSession

/-- How a kind of message lays out its payload: the fields in their order, each in all its octets
and most significant first, with no length, tag or padding between them. -/
class Payload (α : Type) where
  action : Action
  width : Nat
  toBytes : α → Bytes
  /-- The payload at the start. Too short a run is for the caller to refuse. -/
  ofBytes : Bytes → α
  /-- Every field has a fixed width, so writing cannot fail in a slot of `width` octets. -/
  length_toBytes : ∀ payload, (toBytes payload).length = width
  /-- Octets behind the payload are allowed and left unread. -/
  ofBytes_toBytes : ∀ payload rest, ofBytes (toBytes payload ++ rest) = payload
  /-- Every value of a field is allowed, so a run that is long enough always spells a payload. -/
  toBytes_ofBytes : ∀ bytes, width ≤ bytes.length → toBytes (ofBytes bytes) = bytes.take width

structure Envelope (α : Type) where
  message : Message := {}
  payload : α
deriving DecidableEq, Inhabited

namespace Envelope

variable {α : Type} [Payload α]

/-- Octets of a frame of this kind. -/
def width (α : Type) [Payload α] : Nat :=
  Message.width + Payload.width α

/-- A message of the payload's own action, not yet encoded. -/
def ofPayload (payload : α) (id : UInt32 := 0) : Envelope α :=
  ⟨{ action := Payload.action α, id := id }, payload⟩

def decode (α : Type) [Payload α] (bytes : Bytes) : Except DecodeError (Envelope α) :=
  match Frame.unwrap bytes with
  | .error error => .error error
  | .ok (message, payload) =>
    if message.action ≠ Payload.action α then
      .error (.wrongAction (Payload.action α) message.action)
    else if payload.length < Payload.width α then
      .error (.truncated (width α) (Message.width + payload.length))
    else .ok ⟨message, Payload.ofBytes payload⟩

/-- The body that goes on the wire, under the payload's own action. -/
def body (envelope : Envelope α) : Bytes :=
  { envelope.message with action := Payload.action α }.baseBytes ++ Payload.toBytes envelope.payload

/-- The envelope with its own action and the header of its frame. -/
def stamped (envelope : Envelope α) : Envelope α :=
  ⟨⟨.describing envelope.body, Payload.action α, envelope.message.id⟩, envelope.payload⟩

/-- Writes the payload, then action and id, then the header in front of them, and keeps action and
header. A buffer that is too short stays as it is, and so does the envelope. -/
def encode (envelope : Envelope α) (out : Bytes) : Written (Envelope α) :=
  if out.length < width α then ⟨0, out, envelope⟩
  else
    let (frame, behind) := out.splitAt (width α)
    let (head, body) := frame.splitAt Header.width
    let (base, payload) := body.splitAt Message.baseWidth
    match overwrite payload (Payload.toBytes envelope.payload) with
    | (payload, false) => ⟨0, head ++ (base ++ payload) ++ behind, envelope⟩
    | (payload, true) =>
      let envelope := { envelope with message.action := Payload.action α }
      match overwrite base envelope.message.baseBytes with
      | (base, false) => ⟨0, head ++ (base ++ payload) ++ behind, envelope⟩
      | (base, true) =>
        match Header.stamp? head (base ++ payload) with
        | none => ⟨0, head ++ (base ++ payload) ++ behind, envelope⟩
        | some (header, head) =>
          ⟨width α, head ++ (base ++ payload) ++ behind, { envelope with message.header := header }⟩

/-- Encodes into a buffer of exactly the right width. -/
def toBytes? (envelope : Envelope α) : Option Bytes × Envelope α :=
  let written := envelope.encode (List.replicate (width α) 0)
  (if written.count = 0 then none else some (written.buffer.take written.count), written.message)

@[simp] theorem length_body (envelope : Envelope α) :
    envelope.body.length = Message.baseWidth + Payload.width α := by
  simp [body, Payload.length_toBytes]

theorem encode_eq (envelope : Envelope α) (out : Bytes) :
    envelope.encode out
      = if out.length < width α then ⟨0, out, envelope⟩
        else ⟨width α, Frame.wrap envelope.body ++ out.drop (width α), envelope.stamped⟩ := by
  unfold encode
  split
  · rfl
  · rename_i hroom
    have hhead : ((out.take (width α)).take Header.width).length = Header.width := by
      simp only [List.length_take, width, Message.width] at hroom ⊢
      omega
    have hbase (base : Message) : base.baseBytes.length
        = (((out.take (width α)).drop Header.width).take Message.baseWidth).length := by
      simp only [Message.length_baseBytes, List.length_drop, List.length_take, width,
        Message.width] at hroom ⊢
      omega
    have hpayload : (Payload.toBytes envelope.payload).length
        = (((out.take (width α)).drop Header.width).drop Message.baseWidth).length := by
      simp only [Payload.length_toBytes, List.length_drop, List.length_take, width,
        Message.width] at hroom ⊢
      omega
    simp only [List.splitAt_eq, overwrite_of_length_eq hpayload, overwrite_of_length_eq (hbase _),
      Header.stamp?, hhead, Nat.lt_irrefl, ↓reduceIte,
      List.drop_eq_nil_of_le (Nat.le_of_eq hhead), List.append_nil]
    rfl

end Envelope

end GridSession
