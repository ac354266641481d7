import GridSession.Address.Basic
import GridSession.Text.Hex

namespace GridSession

/-- The pieces of a text between the separators. -/
def pieces (separator : Char) : List Char → List (List Char)
  | [] => [[]]
  | c :: rest =>
    if c = separator then [] :: pieces separator rest
    else match pieces separator rest with
      | [] => [[c]]
      | first :: others => (c :: first) :: others

/-- A decimal number without sign, at most `most`. -/
def decimal? (most : Nat) (text : List Char) : Option Nat :=
  if text.isEmpty ∨ ¬ text.all Char.isDigit then none
  else
    let n := text.foldl (fun n c => 10 * n + (c.toNat - '0'.toNat)) 0
    if n ≤ most then some n else none

def IPv4.parse? (text : List Char) : Option IPv4 :=
  match (pieces '.' text).mapM (decimal? 255) with
  | some [a, b, c, d] =>
    some (.ofOctets (UInt8.ofNat a) (UInt8.ofNat b) (UInt8.ofNat c) (UInt8.ofNat d))
  | _ => none

namespace IPv6

def group? (text : List Char) : Option UInt16 :=
  if 4 < text.length then none else (Hex.toNat? text).map UInt16.ofNat

/-- Groups between single colons; the last two may be written as an IPv4 address. -/
def groups? (text : List Char) : Option (List UInt16) :=
  if text.isEmpty then some []
  else
    let parts := pieces ':' text
    let last := parts.getLastD []
    if last.contains '.' then
      match IPv4.parse? last, parts.dropLast.mapM group? with
      | some inner, some front =>
        some (front ++ [UInt16.ofNat (inner.bits.toNat / 65536), UInt16.ofNat inner.bits.toNat])
      | _, _ => none
    else parts.mapM group?

/-- The text before the first double colon and the text after it. -/
def splitDouble : List Char → Option (List Char × List Char)
  | [] => none
  | ':' :: ':' :: rest => some ([], rest)
  | c :: rest => (splitDouble rest).map fun (front, back) => (c :: front, back)

def parse? (text : List Char) : Option IPv6 :=
  match splitDouble text with
  | none =>
    match groups? text with
    | some groups => if groups.length = 8 then some (ofGroups groups) else none
    | none => none
  | some (front, back) =>
    match groups? front, groups? back with
    | some front, some back =>
      if front.length + back.length < 8 then
        some (ofGroups (front ++ List.replicate (8 - front.length - back.length) 0 ++ back))
      else none
    | _, _ => none

end IPv6

def IPv4Endpoint.parse? (text : List Char) : Option IPv4Endpoint :=
  match pieces ':' text with
  | [host, port] =>
    match IPv4.parse? host, decimal? 65535 port with
    | some address, some port => some ⟨address, UInt16.ofNat port⟩
    | _, _ => none
  | _ => none

def IPv6Endpoint.parse? (text : List Char) : Option IPv6Endpoint :=
  match text with
  | '[' :: rest =>
    match pieces ']' rest with
    | [host, ':' :: port] =>
      match pieces '%' host, decimal? 65535 port with
      | [host], some port => (IPv6.parse? host).map (⟨·, UInt16.ofNat port, 0⟩)
      | [host, scope], some port =>
        match IPv6.parse? host, decimal? 4294967295 scope with
        | some address, some scope => some ⟨address, UInt16.ofNat port, UInt32.ofNat scope⟩
        | _, _ => none
      | _, _ => none
    | _ => none
  | _ => none

def SocketAddress.parse? (text : String) : Option SocketAddress :=
  match IPv4Endpoint.parse? text.toList with
  | some endpoint => some (.v4 endpoint)
  | none => (IPv6Endpoint.parse? text.toList).map .v6

end GridSession
