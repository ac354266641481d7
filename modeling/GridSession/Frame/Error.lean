import GridSession.Frame.Action
import GridSession.Text.Hex

namespace GridSession

inductive DecodeError where
  | truncated (needed available : Nat)
  | badMagic (found : UInt16)
  | zeroDigest
  | emptyPayload
  | payloadTooLarge (claimed : UInt32)
  | payloadOverrun (claimed : UInt32) (available : Nat)
  | digestMismatch (expected actual : UInt64)
  | wrongAction (expected found : Action)
  | unknownAction (code : Nat)
deriving DecidableEq

namespace DecodeError

def digestText (digest : UInt64) : String :=
  "0x" ++ Hex.ofNat 16 digest.toNat

def message : DecodeError → String
  | truncated needed available => s!"frame truncated: need {needed} bytes, got {available}"
  | badMagic found =>
    s!"bad magic bytes [{Hex.ofNat 2 (found.toNat / 256)}, {Hex.ofNat 2 found.toNat}]"
  | zeroDigest => "header hash is zero"
  | emptyPayload => "header payload size is zero"
  | payloadTooLarge claimed => s!"payload size {claimed} exceeds the maximum datagram size"
  | payloadOverrun claimed available =>
    s!"payload size {claimed} exceeds the {available} bytes received"
  | digestMismatch expected actual =>
    s!"hash mismatch: header says {digestText expected}, payload hashes to {digestText actual}"
  | wrongAction expected found => s!"expected a {expected} message, found {found}"
  | unknownAction code =>
    "malformed message body: invalid value: integer `" ++ toString code
      ++ "`, expected variant index 0 <= i < 4"

instance : ToString DecodeError := ⟨message⟩

end DecodeError

end GridSession
