import GridSession.Frame.Header
import GridSession.Net.ServerLoop

namespace GridSession

inductive SocketError where
  | notConnected
  | addressInUse
deriving DecidableEq

def SocketError.message : SocketError → String
  | notConnected => "server socket is not initialized"
  | addressInUse => "address in use"

/-- Hands out ports. On an isolated host datagrams sent on the interface never arrive. -/
structure Host where
  delivers : Bool
  ports : List UInt16 := []

namespace Host

/-- The first port handed out to whoever asks for none. -/
def firstFreePort : UInt16 := 49152

/-- A port past all that are taken. -/
def freePort (host : Host) : UInt16 :=
  host.ports.foldl (fun free taken => max free (taken + 1)) firstFreePort

/-- Takes the port asked for. Zero asks for any. -/
def bind (host : Host) (port : UInt16) : Except SocketError (UInt16 × Host) :=
  let port := if port = 0 then host.freePort else port
  if port ∈ host.ports then .error .addressInUse
  else .ok (port, { host with ports := port :: host.ports })

end Host

/-- A server for one port of the interface, zero standing for any. -/
structure LoopbackServer where
  port : UInt16 := 0
  address : Option IPv4Endpoint := none
  signal : StopSignal := {}

namespace LoopbackServer

/-- Binds the server's socket. A server that has one keeps it. -/
def bind (server : LoopbackServer) (host : Host) : Except SocketError (LoopbackServer × Host) :=
  match server.address with
  | some _ => .ok (server, host)
  | none =>
    match host.bind server.port with
    | .error error => .error error
    | .ok (port, host) => .ok ({ server with address := some ⟨.localhost, port⟩ }, host)

def localAddress (server : LoopbackServer) : Except SocketError IPv4Endpoint :=
  match server.address with
  | some address => .ok address
  | none => .error .notConnected

def transportAddress (server : LoopbackServer) : Except SocketError IPv4Endpoint :=
  server.localAddress

end LoopbackServer

/-- A run of a loopback server in front of a client that sends datagrams and counts what it sees. -/
structure Exercise where
  datagrams : List Bytes
  echo : Bool := false
  /-- The tick, counted from one, that answers that the loop must end. -/
  stopTick : Option Nat := none
  /-- The tick, counted from one, that asks for the stop. -/
  shutdownTick : Option Nat := none
  /-- The datagram, counted from one, at which the stop is asked for. -/
  shutdownDatagram : Option Nat := none

namespace Exercise

/-- What the handler of an exercise has seen. Ticks count once every datagram has arrived. -/
structure Seen where
  received : List Datagram := []
  replies : List Bytes := []
  ticks : Nat := 0

def handler (exercise : Exercise) : Handler Seen where
  onDatagram datagram seen :=
    let received := seen.received ++ [datagram]
    let replies := if exercise.echo then seen.replies ++ [datagram.bytes] else seen.replies
    ({ seen with received, replies }, exercise.shutdownDatagram == some received.length)
  onTick _ seen :=
    if seen.received.length < exercise.datagrams.length then ⟨seen, true, false⟩
    else
      let ticks := seen.ticks + 1
      ⟨{ seen with ticks }, exercise.stopTick != some ticks, exercise.shutdownTick == some ticks⟩

/-- Nanoseconds between the ticks of an exercise. -/
def interval : Nat := 5000000

/-- A cycle that needs no time. -/
def cycleAt (time : Nat) (wake : Wake) (receives : List Receive) : Cycle :=
  { wake, receives, checkedAt := time, tickedAt := time, restedAt := time }

/-- Every datagram is ready when the loop starts, cut short if it is longer than the longest one.
Then a tick follows each interval, as far as the conditions on ticks need it. -/
def cycles (exercise : Exercise) (client : SocketAddress) : List Cycle :=
  let arrivals := exercise.datagrams.map fun bytes =>
    Receive.datagram client (min bytes.length maxDatagram) bytes
  let ticks := max (exercise.stopTick.getD 0) (exercise.shutdownTick.getD 0)
  cycleAt 0 .readable arrivals
    :: (List.range ticks).map fun index => cycleAt ((index + 1) * interval) .timer []

/-- What an exercise shows. -/
structure Report where
  received : List Bytes
  replies : List Bytes
  ticks : Nat
  senderOk : Bool

/-- Nothing to report when the client's datagrams never arrive. -/
def perform (exercise : Exercise) (host : Host) (server : LoopbackServer) (client : SocketAddress) :
    Option (Report × LoopbackServer) :=
  if ¬ exercise.datagrams.isEmpty ∧ ¬ host.delivers then none
  else
    let run := ServerLoop.run exercise.handler interval 0 {} server.signal (exercise.cycles client)
    some (⟨run.state.received.map Datagram.bytes, run.state.replies, run.state.ticks,
      run.state.received.all (·.sender == client)⟩, { server with signal := run.signal })

end Exercise

end GridSession
