import GridSession.Bytes.BigEndian

namespace GridSession.Digest

def basis : UInt64 := 14695981039346656037

def prime : UInt64 := 1099511628211

def absorb (digest : UInt64) (octet : UInt8) : UInt64 :=
  (digest ^^^ octet.toUInt64) * prime

def absorbAll (digest : UInt64) (bytes : Bytes) : UInt64 :=
  bytes.foldl absorb digest

/-- The 64-bit FNV-1a digest: each octet is mixed in before the multiplication. -/
def fnv1a (bytes : Bytes) : UInt64 :=
  absorbAll basis bytes

end GridSession.Digest
