import GridSession.Bytes.BigEndian

namespace GridSession.Hex

/-- The lowest `width` hexadecimal digits of a number, lower case. -/
def digits : (width : Nat) → (n : Nat) → List Char
  | 0, _ => []
  | width + 1, n => digits width (n / 16) ++ [Nat.digitChar (n % 16)]

def ofNat (width n : Nat) : String :=
  String.ofList (digits width n)

def ofBytes (bytes : Bytes) : String :=
  String.ofList (bytes.flatMap fun octet => digits 2 octet.toNat)

def digit? (c : Char) : Option Nat :=
  if '0' ≤ c ∧ c ≤ '9' then some (c.toNat - '0'.toNat)
  else if 'a' ≤ c ∧ c ≤ 'f' then some (c.toNat - 'a'.toNat + 10)
  else none

/-- Octets of a text of digit pairs. -/
def octets? : List Char → Option Bytes
  | [] => some []
  | [_] => none
  | high :: low :: rest =>
    match digit? high, digit? low, octets? rest with
    | some h, some l, some bytes => some (UInt8.ofNat (16 * h + l) :: bytes)
    | _, _, _ => none

def toBytes? (text : String) : Option Bytes :=
  octets? text.toList

/-- The number spelled by a run of digits; an empty run spells nothing. -/
def toNat? : List Char → Option Nat
  | [] => none
  | digits => digits.foldl (fun n c => n.bind fun n => (digit? c).map (16 * n + ·)) (some 0)

/-- Lower case digits without leading zeros. -/
def shortest (n : Nat) : String :=
  String.ofList (Nat.toDigits 16 n)

end GridSession.Hex
