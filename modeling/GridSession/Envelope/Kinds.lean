import GridSession.Address.Basic
import GridSession.Envelope.Basic

namespace GridSession

/-- Carried by a login that asks for a session, in place of the session. -/
def noSession : UInt32 := 0xFFFFFFFF

/-- Carried by a ping that names no player, in place of the player. -/
def noPlayer : UInt32 := 0xFFFFFFFF

/-- Asks for a session, or tells which one was given. -/
structure Login where
  session : UInt32 := noSession
  /-- Where the client wants its reply. -/
  returnTo : IPv4Endpoint := ⟨.unspecified, 0⟩
deriving DecidableEq, Inhabited

def Login.hasSession (login : Login) : Bool :=
  login.session != noSession

/-- Keeps a session alive and tells which message the sender last saw acknowledged. -/
structure Ping where
  playerId : UInt32 := noPlayer
  lastAckId : UInt64 := 0
deriving DecidableEq, Inhabited

/-- Confirms a message by its id, the only field of the payload. -/
structure Acknowledge where
  ackedId : UInt64 := 0
deriving DecidableEq, Inhabited

/-- Session, four octets of the address, port. -/
instance : Payload Login where
  action := .login
  width := 10
  toBytes login :=
    BigEndian.toBytes 4 login.session.toNat
      ++ (BigEndian.toBytes 4 login.returnTo.address.bits.toNat
        ++ BigEndian.toBytes 2 login.returnTo.port.toNat)
  ofBytes bytes :=
    ⟨UInt32.ofNat (BigEndian.field 0 4 bytes), ⟨⟨UInt32.ofNat (BigEndian.field 4 4 bytes)⟩,
      UInt16.ofNat (BigEndian.field 8 2 bytes)⟩⟩
  length_toBytes := by simp
  ofBytes_toBytes := by
    rintro ⟨session, ⟨bits⟩, port⟩ rest
    simp only [List.append_assoc]
    rw [BigEndian.field_toBytes, BigEndian.field_toBytes_append 4 _ 0, BigEndian.field_toBytes,
      BigEndian.field_toBytes_append 4 _ 4, BigEndian.field_toBytes_append 4 _ 0,
      BigEndian.field_toBytes]
    simp only [BigEndian.ofNat_toNat_mod_uint32, BigEndian.ofNat_toNat_mod_uint16]
  toBytes_ofBytes := by
    intro bytes h
    simp only [BigEndian.toNat_ofNat_field_uint32, BigEndian.toNat_ofNat_field_uint16]
    rw [BigEndian.toBytes_field (by omega), BigEndian.toBytes_field (by omega),
      BigEndian.toBytes_field (by omega), List.drop_zero,
      show bytes.drop 8 = (bytes.drop 4).drop 4 by rw [List.drop_drop], ← List.take_add,
      ← List.take_add]

/-- Player, id of the last acknowledged message. -/
instance : Payload Ping where
  action := .ping
  width := 12
  toBytes ping :=
    BigEndian.toBytes 4 ping.playerId.toNat ++ BigEndian.toBytes 8 ping.lastAckId.toNat
  ofBytes bytes :=
    ⟨UInt32.ofNat (BigEndian.field 0 4 bytes), UInt64.ofNat (BigEndian.field 4 8 bytes)⟩
  length_toBytes := by simp
  ofBytes_toBytes := by
    rintro ⟨playerId, lastAckId⟩ rest
    simp only [List.append_assoc]
    rw [BigEndian.field_toBytes, BigEndian.field_toBytes_append 4 _ 0, BigEndian.field_toBytes]
    simp only [BigEndian.ofNat_toNat_mod_uint32, BigEndian.ofNat_toNat_mod_uint64]
  toBytes_ofBytes := by
    intro bytes h
    simp only [BigEndian.toNat_ofNat_field_uint32, BigEndian.toNat_ofNat_field_uint64]
    rw [BigEndian.toBytes_field (by omega), BigEndian.toBytes_field (by omega), List.drop_zero,
      ← List.take_add]

instance : Payload Acknowledge where
  action := .acknowledge
  width := 8
  toBytes acknowledge := BigEndian.toBytes 8 acknowledge.ackedId.toNat
  ofBytes bytes := ⟨UInt64.ofNat (BigEndian.field 0 8 bytes)⟩
  length_toBytes := by simp
  ofBytes_toBytes := by
    rintro ⟨ackedId⟩ rest
    rw [BigEndian.field_toBytes, BigEndian.ofNat_toNat_mod_uint64]
  toBytes_ofBytes := by
    intro bytes h
    simp only [BigEndian.toNat_ofNat_field_uint64]
    rw [BigEndian.toBytes_field (by omega), List.drop_zero]

end GridSession
