import GridSession.Bytes.Overwrite
import GridSession.Frame.Header

namespace GridSession

/-- The head of every frame. The body starts with the action and the message id, and ends with the
payload of its kind. -/
structure Message where
  header : Header := {}
  action : Action := .none
  id : UInt32 := 0
deriving DecidableEq, Inhabited

namespace Message

/-- Octets of action and message id. -/
def baseWidth : Nat := 8

def width : Nat := Header.width + baseWidth

/-- The action by its place in the list of actions, in four octets, then the id. The header stands
outside the body. -/
def baseBytes (message : Message) : Bytes :=
  BigEndian.toBytes 4 message.action.code ++ BigEndian.toBytes 4 message.id.toNat

@[simp] theorem length_baseBytes (message : Message) : message.baseBytes.length = baseWidth := by
  simp [baseBytes, baseWidth]

end Message

namespace Frame

def wrap (body : Bytes) : Bytes :=
  (Header.describing body).toBytes ++ body

@[simp] theorem length_wrap (body : Bytes) : (wrap body).length = Header.width + body.length := by
  simp [wrap]

/-- The most octets a body may have. -/
def maxBody : Nat := maxDatagram - Header.width

/-- Checks a whole frame and splits it into its message and the payload behind it. Only the octets
the header claims are looked at, so a datagram may be longer than its frame. Every four octets spell
an id, so a body that is long enough can only fail to be read for an action nobody knows. -/
def unwrap (bytes : Bytes) : Except DecodeError (Message × Bytes) :=
  match Header.decode bytes with
  | .error error => .error error
  | .ok header =>
    let claimed := header.size.toNat
    let available := bytes.length - Header.width
    let body := (bytes.drop Header.width).take claimed
    let actual := Digest.fnv1a body
    let code := BigEndian.field 0 4 body
    if maxBody < claimed then .error (.payloadTooLarge header.size)
    else if available < claimed then .error (.payloadOverrun header.size available)
    else if actual ≠ header.digest then .error (.digestMismatch header.digest actual)
    else if body.length < Message.baseWidth then
      .error (.truncated Message.width (Header.width + body.length))
    else match Action.ofCode? code with
      | none => .error (.unknownAction code)
      | some action =>
        .ok (⟨header, action, UInt32.ofNat (BigEndian.field 4 4 body)⟩, body.drop Message.baseWidth)

end Frame

/-- What writing into a buffer leaves: how many octets were written, the buffer and the message. -/
structure Written (α : Type) where
  count : Nat
  buffer : Bytes
  message : α

namespace Message

def decode (bytes : Bytes) : Except DecodeError Message :=
  (Frame.unwrap bytes).map Prod.fst

/-- The message with the header of its own frame. -/
def stamped (message : Message) : Message :=
  { message with header := .describing message.baseBytes }

/-- Writes action and id, then the header in front of them, and keeps the header. A buffer that is
too short stays as it is. -/
def encode (message : Message) (out : Bytes) : Written Message :=
  if out.length < width then ⟨0, out, message⟩
  else
    let (frame, behind) := out.splitAt width
    let (head, body) := frame.splitAt Header.width
    match overwrite body message.baseBytes with
    | (body, false) => ⟨0, head ++ body ++ behind, message⟩
    | (body, true) =>
      match Header.stamp? head body with
      | none => ⟨0, head ++ body ++ behind, message⟩
      | some (header, head) => ⟨width, head ++ body ++ behind, { message with header }⟩

/-- The frame in a buffer of its own. Only messages with a payload are sent like that. -/
def toBytes? (message : Message) : Option Bytes × Message :=
  let written := message.encode (List.replicate width 0)
  (if written.count = 0 then none else some (written.buffer.take written.count), written.message)

theorem encode_eq (message : Message) (out : Bytes) :
    message.encode out
      = if out.length < width then ⟨0, out, message⟩
        else ⟨width, Frame.wrap message.baseBytes ++ out.drop width, message.stamped⟩ := by
  unfold encode
  split
  · rfl
  · rename_i hroom
    have hhead : ((out.take width).take Header.width).length = Header.width := by
      simp only [List.length_take, width] at hroom ⊢
      omega
    have hbody : message.baseBytes.length = ((out.take width).drop Header.width).length := by
      simp only [length_baseBytes, List.length_drop, List.length_take, width] at hroom ⊢
      omega
    simp only [List.splitAt_eq, overwrite_of_length_eq hbody, Header.stamp?, hhead, Nat.lt_irrefl,
      ↓reduceIte, List.drop_eq_nil_of_le (Nat.le_of_eq hhead), List.append_nil]
    rfl

end Message

end GridSession
