import GridSession.Bytes.Digest
import GridSession.Frame.Error

namespace GridSession

/-- The standard 1500 octet link unit less 20 of address header and 8 of datagram header. -/
def maxDatagram : Nat := 1472

/-- In front of every frame: a magic word, the digest of the body and the body's size, without
padding. -/
structure Header where
  magic : UInt16 := 0
  digest : UInt64 := 0
  size : UInt32 := 0
deriving DecidableEq, Inhabited

namespace Header

def width : Nat := 14

def magicWord : UInt16 := 0xBEEF

/-- The header that belongs in front of `body`. -/
def describing (body : Bytes) : Header :=
  ⟨magicWord, Digest.fnv1a body, UInt32.ofNat body.length⟩

def toBytes (header : Header) : Bytes :=
  BigEndian.toBytes 2 header.magic.toNat ++ BigEndian.toBytes 8 header.digest.toNat
    ++ BigEndian.toBytes 4 header.size.toNat

@[simp] theorem length_toBytes (header : Header) : header.toBytes.length = width := by
  simp [toBytes, width]

/-- The fields of the first `width` octets, unchecked. -/
def ofBytes (bytes : Bytes) : Header :=
  ⟨UInt16.ofNat (BigEndian.field 0 2 bytes), UInt64.ofNat (BigEndian.field 2 8 bytes),
    UInt32.ofNat (BigEndian.field 10 4 bytes)⟩

/-- Checks the header alone. Whether the rest of the datagram fits it is for `Frame.unwrap` to say.
-/
def decode (bytes : Bytes) : Except DecodeError Header :=
  let header := ofBytes bytes
  if bytes.length < width then .error (.truncated width bytes.length)
  else if header.magic ≠ magicWord then .error (.badMagic header.magic)
  else if header.digest = 0 then .error .zeroDigest
  else if header.size = 0 then .error .emptyPayload
  else .ok header

/-- Writes the header of `body` over the start of `out`, or nothing when `out` is too short for it.
-/
def stamp? (out body : Bytes) : Option (Header × Bytes) :=
  if out.length < width then none
  else some (describing body, (describing body).toBytes ++ out.drop width)

end Header

end GridSession
