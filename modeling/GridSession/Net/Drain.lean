import GridSession.Transport

namespace GridSession

inductive ReceiveError where
  | wouldBlock
  | connectionReset
  | connectionRefused
  | other (code : Nat)
deriving DecidableEq

/-- Errors that a socket without connections reports for earlier sends. -/
def ReceiveError.isTransient : ReceiveError → Bool
  | connectionReset | connectionRefused => true
  | wouldBlock | other _ => false

/-- One answer of the socket. A datagram is the first `length` octets of the shared buffer, which
may hold anything behind them. -/
inductive Receive where
  | datagram (sender : SocketAddress) (length : Nat) (buffer : Bytes)
  | failed (error : ReceiveError)
deriving DecidableEq

structure TickAnswer (σ : Type) where
  state : σ
  goesOn : Bool
  asksToStop : Bool := false

/-- What a loop calls. Either callback may itself ask for the stop. -/
structure Handler (σ : Type) where
  onDatagram : Datagram → σ → σ × Bool
  /-- At most once per interval, with the time. -/
  onTick : Nat → σ → TickAnswer σ

/-- What emptying a socket leaves. -/
structure Drained (σ : Type) where
  state : σ
  /-- The datagrams handed over, in order. -/
  delivered : List Datagram
  /-- Whether a callback asked for the stop. -/
  asksToStop : Bool
  /-- The answers that were not asked for. -/
  rest : List Receive
  failure : Option ReceiveError

/-- Hands every ready datagram to the handler. Errors left over from earlier sends are passed over,
any other error ends the reading. A socket with no more answers has nothing ready. -/
def drain {σ : Type} (handler : Handler σ) : List Receive → σ → Drained σ
  | [], state => ⟨state, [], false, [], none⟩
  | .datagram sender length buffer :: rest, state =>
    let datagram := ⟨sender, buffer.take length⟩
    let (state, asks) := handler.onDatagram datagram state
    let drained := drain handler rest state
    { drained with
      delivered := datagram :: drained.delivered, asksToStop := asks || drained.asksToStop }
  | .failed error :: rest, state =>
    if error = .wouldBlock then ⟨state, [], false, rest, none⟩
    else if error.isTransient then drain handler rest state
    else ⟨state, [], false, rest, some error⟩

end GridSession
