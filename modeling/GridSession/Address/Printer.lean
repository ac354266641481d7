import GridSession.Address.Basic
import GridSession.Text.Hex

namespace GridSession

def IPv4.text (address : IPv4) : String :=
  ".".intercalate (address.octets.map toString)

namespace IPv6

structure ZeroRun where
  start : Nat
  length : Nat

/-- The first of the longest runs of zero groups, counting groups from `index` on. -/
def longestZeroRun (index : Nat) (current best : ZeroRun) : List UInt16 → ZeroRun
  | [] => best
  | group :: rest =>
    if group = 0 then
      let start := if current.length = 0 then index else current.start
      let current := ⟨start, current.length + 1⟩
      let best := if best.length < current.length then current else best
      longestZeroRun (index + 1) current best rest
    else longestZeroRun (index + 1) ⟨0, 0⟩ best rest

def joinGroups (groups : List UInt16) : String :=
  ":".intercalate (groups.map fun group => Hex.shortest group.toNat)

/-- The longest run of two or more zero groups is written as a double colon. -/
def text (address : IPv6) : String :=
  match address.mapped? with
  | some inner => "::ffff:" ++ inner.text
  | none =>
    let groups := address.groups
    let run := longestZeroRun 0 ⟨0, 0⟩ ⟨0, 0⟩ groups
    if run.length ≤ 1 then joinGroups groups
    else joinGroups (groups.take run.start) ++ "::" ++ joinGroups (groups.drop (run.start + run.length))

end IPv6

def IPv4Endpoint.text (endpoint : IPv4Endpoint) : String :=
  endpoint.address.text ++ ":" ++ toString endpoint.port

def IPv6Endpoint.text (endpoint : IPv6Endpoint) : String :=
  let link := if endpoint.scope = 0 then "" else "%" ++ toString endpoint.scope
  "[" ++ endpoint.address.text ++ link ++ "]:" ++ toString endpoint.port

def SocketAddress.text : SocketAddress → String
  | .v4 endpoint => endpoint.text
  | .v6 endpoint => endpoint.text

instance : ToString IPv4 := ⟨IPv4.text⟩

instance : ToString IPv4Endpoint := ⟨IPv4Endpoint.text⟩

instance : ToString SocketAddress := ⟨SocketAddress.text⟩

end GridSession
