import GridSession.Proofs.Envelope.Checks
import Mathlib.Data.List.Nodup

namespace GridSession

/-- An encoder writes frames of one size. A frame tells the content of its message and nothing else,
and encoding changes nothing of a message but what is not content. -/
structure WritesFrames {μ κ : Type} (encode : μ → Bytes → Written μ)
    (toBytes? : μ → Option Bytes × μ) (size : Nat) (content : μ → κ) : Prop where
  /-- A buffer without room for a frame stays as it is, and so does the message. -/
  eq_unwritten : ∀ message out, out.length < size → encode message out = ⟨0, out, message⟩
  count_eq : ∀ message out, size ≤ out.length → (encode message out).count = size
  length_buffer : ∀ message out, (encode message out).buffer.length = out.length
  /-- Nothing behind the frame is touched. -/
  drop_buffer : ∀ message out, size ≤ out.length →
    (encode message out).buffer.drop size = out.drop size
  /-- Two frames are the same exactly if they have the same content, whatever the buffers held. -/
  take_buffer_eq_iff : ∀ message other out into, size ≤ out.length → size ≤ into.length →
    ((encode message out).buffer.take size = (encode other into).buffer.take size
      ↔ content message = content other)
  content_message : ∀ message out, content (encode message out).message = content message
  /-- Bytes of its own are always found, and they are those written into any buffer with room. -/
  toBytes?_eq : ∀ message out, size ≤ out.length →
    toBytes? message
      = (some ((encode message out).buffer.take size), (encode message out).message)
  /-- A message that was encoded is encoded to the same frame again and stays as it is. -/
  encode_again : ∀ message out into, size ≤ out.length → size ≤ into.length →
    (encode (encode message out).message into).buffer.take size
        = (encode message out).buffer.take size
      ∧ (encode (encode message out).message into).message = (encode message out).message

/-- How an encoder goes about it: a buffer with room gets the frame of the message, and the message
is stamped. The frame shows the content, all of it and nothing else, and so does the stamped
message. -/
structure LaysOut {μ κ : Type} (encode : μ → Bytes → Written μ) (toBytes? : μ → Option Bytes × μ)
    (size : Nat) (content : μ → κ) (frame : μ → Bytes) (stamp : μ → μ) : Prop where
  encode_of_lt : ∀ message out, out.length < size → encode message out = ⟨0, out, message⟩
  encode_of_le : ∀ message out, size ≤ out.length →
    encode message out = ⟨size, frame message ++ out.drop size, stamp message⟩
  toBytes?_eq : ∀ message, toBytes? message = (some (frame message), stamp message)
  length_frame : ∀ message, (frame message).length = size
  frame_eq_iff : ∀ message other, frame message = frame other ↔ content message = content other
  content_stamp : ∀ message, content (stamp message) = content message
  stamp_eq : ∀ message other, content message = content other → stamp message = stamp other

section Layout

variable {μ κ : Type} {encode : μ → Bytes → Written μ} {toBytes? : μ → Option Bytes × μ}
  {size : Nat} {content : μ → κ} {frame : μ → Bytes} {stamp : μ → μ}

theorem LaysOut.take_buffer (h : LaysOut encode toBytes? size content frame stamp) (message : μ)
    {out : Bytes} (hroom : size ≤ out.length) :
    (encode message out).buffer.take size = frame message := by
  rw [h.encode_of_le message out hroom, List.take_left' (h.length_frame message)]

theorem LaysOut.map_length_toBytes? (h : LaysOut encode toBytes? size content frame stamp)
    (message : μ) : (toBytes? message).1.map List.length = some size := by
  rw [h.toBytes?_eq, Option.map_some, h.length_frame]

theorem LaysOut.writesFrames (h : LaysOut encode toBytes? size content frame stamp) :
    WritesFrames encode toBytes? size content where
  eq_unwritten := h.encode_of_lt
  count_eq message out hroom := by rw [h.encode_of_le message out hroom]
  length_buffer message out := by
    rcases Nat.lt_or_ge out.length size with hshort | hroom
    · rw [h.encode_of_lt message out hshort]
    · rw [h.encode_of_le message out hroom, List.length_append, h.length_frame, List.length_drop]
      omega
  drop_buffer message out hroom := by
    rw [h.encode_of_le message out hroom, List.drop_left' (h.length_frame message)]
  take_buffer_eq_iff message other out into hroom hinto := by
    rw [h.take_buffer message hroom, h.take_buffer other hinto, h.frame_eq_iff]
  content_message message out := by
    rcases Nat.lt_or_ge out.length size with hshort | hroom
    · rw [h.encode_of_lt message out hshort]
    · rw [h.encode_of_le message out hroom, h.content_stamp]
  toBytes?_eq message out hroom := by
    rw [h.toBytes?_eq, h.take_buffer message hroom, h.encode_of_le message out hroom]
  -- the first encoding changed the message only where the second one overwrites it
  encode_again message out into hroom hinto := by
    rw [h.take_buffer _ hinto, h.take_buffer message hroom, h.encode_of_le message out hroom,
      h.encode_of_le (stamp message) into hinto, h.frame_eq_iff]
    exact ⟨h.content_stamp message, h.stamp_eq _ _ (h.content_stamp message)⟩

end Layout

namespace Message

def content (message : Message) : Action × UInt32 :=
  (message.action, message.id)

theorem length_wrap_baseBytes (message : Message) :
    (Frame.wrap message.baseBytes).length = width := by
  rw [Frame.length_wrap, length_baseBytes, width]

theorem toBytes?_eq (message : Message) :
    message.toBytes? = (some (Frame.wrap message.baseBytes), message.stamped) := by
  have hroom : ¬ (List.replicate width (0 : UInt8)).length < width := by simp
  simp only [toBytes?, encode_eq, if_neg hroom]
  rw [if_neg (by decide), List.take_left' message.length_wrap_baseBytes]

theorem baseBytes_eq_iff {message other : Message} :
    message.baseBytes = other.baseBytes ↔ message.content = other.content := by
  constructor
  · intro h
    have haction := congrArg (fun bytes => BigEndian.field 0 4 (bytes ++ [])) h
    have hid := congrArg (fun bytes => UInt32.ofNat (BigEndian.field 4 4 (bytes ++ []))) h
    simp only [field_action_baseBytes_append, Action.code_inj] at haction
    simp only [field_id_baseBytes_append] at hid
    exact Prod.ext haction hid
  · intro h
    obtain ⟨haction, hid⟩ := Prod.mk.inj h
    rw [baseBytes, haction, hid, baseBytes]

theorem wrap_baseBytes_eq_iff {message other : Message} :
    Frame.wrap message.baseBytes = Frame.wrap other.baseBytes
      ↔ message.content = other.content := by
  rw [← baseBytes_eq_iff]
  exact ⟨Frame.wrap_injective, congrArg Frame.wrap⟩

theorem stamped_eq_of_content_eq {message other : Message} (h : message.content = other.content) :
    message.stamped = other.stamped := by
  obtain ⟨header, action, id⟩ := message
  obtain ⟨otherHeader, otherAction, otherId⟩ := other
  obtain ⟨rfl, rfl⟩ := Prod.mk.inj h
  rfl

theorem laysOut : LaysOut encode toBytes? width content (Frame.wrap ·.baseBytes) stamped where
  encode_of_lt _ _ h := by rw [encode_eq, if_pos h]
  encode_of_le _ _ h := by rw [encode_eq, if_neg (Nat.not_lt.mpr h)]
  toBytes?_eq := toBytes?_eq
  length_frame := length_wrap_baseBytes
  frame_eq_iff _ _ := wrap_baseBytes_eq_iff
  content_stamp _ := rfl
  stamp_eq _ _ := stamped_eq_of_content_eq

end Message

namespace Envelope

variable {α : Type} [Payload α] {envelope other : Envelope α}

def content (envelope : Envelope α) : UInt32 × α :=
  (envelope.message.id, envelope.payload)

theorem body_eq_of_content_eq (h : envelope.content = other.content) :
    envelope.body = other.body := by
  obtain ⟨hid, hpayload⟩ := Prod.mk.inj h
  rw [body_eq_append, hid, hpayload, ← body_eq_append]

theorem wrap_body_eq_iff :
    Frame.wrap envelope.body = Frame.wrap other.body ↔ envelope.content = other.content := by
  constructor
  · intro h
    refine Prod.ext ?_ (payload_eq_of_wrap_body h)
    rw [content, ← field_id_body, Frame.wrap_injective h, field_id_body, content]
  · intro h
    rw [body_eq_of_content_eq h]

theorem stamped_eq_of_content_eq (h : envelope.content = other.content) :
    envelope.stamped = other.stamped := by
  obtain ⟨hid, hpayload⟩ := Prod.mk.inj h
  rw [stamped, body_eq_of_content_eq h, hid, hpayload, stamped]

theorem laysOut : LaysOut (@encode α _) toBytes? (width α) content (Frame.wrap ·.body) stamped where
  encode_of_lt _ _ h := by rw [encode_eq, if_pos h]
  encode_of_le envelope _ h := envelope.encode_of_le h
  toBytes?_eq := toBytes?_eq
  length_frame := length_wrap_body
  frame_eq_iff _ _ := wrap_body_eq_iff
  content_stamp _ := rfl
  stamp_eq _ _ := stamped_eq_of_content_eq

/-- The frames of two kinds differ in length, and those without payload are shorter than all. -/
theorem nodup_toBytes? (message : Message) (login : Envelope Login) (ping : Envelope Ping)
    (acknowledge : Envelope Acknowledge) :
    [message.toBytes?.1, login.toBytes?.1, ping.toBytes?.1, acknowledge.toBytes?.1].Nodup := by
  have hlengths : [message.toBytes?.1, login.toBytes?.1, ping.toBytes?.1,
      acknowledge.toBytes?.1].map (Option.map List.length)
      = [some Message.width, some (width Login), some (width Ping), some (width Acknowledge)] := by
    simp only [List.map_cons, List.map_nil, Message.laysOut.map_length_toBytes?,
      laysOut.map_length_toBytes?]
  apply List.Nodup.of_map (Option.map List.length)
  rw [hlengths]
  decide

/-- Encoders touch what they say they touch. For a message without payload the content is action and
id, for an envelope it is id and payload. No two kinds have a frame in common. -/
theorem encoders_write_content_only :
    WritesFrames Message.encode Message.toBytes? 22 Message.content
    ∧ WritesFrames (@encode Login _) toBytes? 32 content
    ∧ WritesFrames (@encode Ping _) toBytes? 34 content
    ∧ WritesFrames (@encode Acknowledge _) toBytes? 30 content
    ∧ ∀ (message : Message) (login : Envelope Login) (ping : Envelope Ping)
        (acknowledge : Envelope Acknowledge),
      [message.toBytes?.1, login.toBytes?.1, ping.toBytes?.1, acknowledge.toBytes?.1].Nodup :=
  ⟨Message.laysOut.writesFrames, laysOut.writesFrames, laysOut.writesFrames, laysOut.writesFrames,
    nodup_toBytes?⟩

end Envelope

end GridSession
