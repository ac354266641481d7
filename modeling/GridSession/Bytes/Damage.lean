import GridSession.Bytes.BigEndian

namespace GridSession.Damage

/-- Flips every bit of the first octet. -/
def first : Bytes → Bytes
  | [] => []
  | octet :: rest => ~~~octet :: rest

/-- Flips four bits of the last octet. -/
def last : Bytes → Bytes
  | [] => []
  | [octet] => [octet ^^^ 0x5A]
  | octet :: rest => octet :: last rest

end GridSession.Damage
