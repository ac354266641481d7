namespace GridSession

structure IPv4 where
  bits : UInt32
deriving DecidableEq, Inhabited

namespace IPv4

def ofOctets (a b c d : UInt8) : IPv4 :=
  ⟨a.toUInt32 <<< 24 ||| b.toUInt32 <<< 16 ||| c.toUInt32 <<< 8 ||| d.toUInt32⟩

/-- The four octets, most significant first. -/
def octets (address : IPv4) : List UInt8 :=
  [24, 16, 8, 0].map fun shift : UInt32 => (address.bits >>> shift).toUInt8

def unspecified : IPv4 := ⟨0⟩

def localhost : IPv4 := ofOctets 127 0 0 1

end IPv4

structure IPv6 where
  bits : BitVec 128
deriving DecidableEq, Inhabited

namespace IPv6

/-- The eight groups of sixteen bits, most significant first. -/
def groups (address : IPv6) : List UInt16 :=
  [112, 96, 80, 64, 48, 32, 16, 0].map fun shift => UInt16.ofNat (address.bits >>> shift).toNat

def ofGroups (groups : List UInt16) : IPv6 :=
  ⟨BitVec.ofNat 128 (groups.foldl (fun n group => n * 65536 + group.toNat) 0)⟩

/-- The address carried by an IPv4-mapped one, `::ffff:a.b.c.d`. -/
def mapped? (address : IPv6) : Option IPv4 :=
  if address.bits >>> 32 = 0xFFFF#128 then some ⟨UInt32.ofNat address.bits.toNat⟩ else none

def ofMapped (address : IPv4) : IPv6 :=
  ⟨BitVec.ofNat 128 (0xFFFF00000000 + address.bits.toNat)⟩

end IPv6

structure IPv4Endpoint where
  address : IPv4
  port : UInt16
deriving DecidableEq, Inhabited

structure IPv6Endpoint where
  address : IPv6
  port : UInt16
  /-- The link the address belongs to, zero when it names none. -/
  scope : UInt32 := 0
deriving DecidableEq, Inhabited

/-- Where a datagram comes from or goes to. An IPv4 address and its IPv4-mapped form are different.
-/
inductive SocketAddress where
  | v4 (endpoint : IPv4Endpoint)
  | v6 (endpoint : IPv6Endpoint)
deriving DecidableEq, Inhabited

end GridSession
