import GridSession.GameLoop.Station

namespace GridSession

structure ClientConfig where
  /-- Where the client wants its replies. -/
  clientAddress : IPv4Endpoint
  serverAddress : SocketAddress
deriving DecidableEq, Inhabited

inductive ClientState where
  | fresh
  | loggedIn
  | disconnected
deriving DecidableEq, Inhabited

/-- A new client asks for a session until it gets one, then keeps it alive with pings. A
disconnected client only ends its loop. -/
structure Client where
  config : ClientConfig
  state : ClientState := .fresh
  playerId : Option UInt32 := none
  lastLoginAttempt : Option Nat := none
  loginAttempts : UInt32 := 0
  lastPing : Option Nat := none
deriving DecidableEq, Inhabited

namespace Client

/-- Nanoseconds between two login attempts. -/
def loginRetryInterval : Nat := 500000000

/-- Nanoseconds between two pings. -/
def pingInterval : Nat := 100000000

/-- What was never done is due. A time before the last one is too early. -/
def isDue (last : Option Nat) (now interval : Nat) : Bool :=
  match last with
  | none => true
  | some last => decide (interval ≤ now - last)

/-- Leaves for good. Only the first time is noted. -/
def disconnect (station : Station Client) : Station Client :=
  if station.driver.state = .disconnected then station
  else
    { station with driver := { station.driver with state := .disconnected } }.tell
      (.disconnecting station.driver.config.serverAddress)

/-- An attempt counts, and so does its number, whether the send works or not. -/
def tryLogin (now : Nat) (station : Station Client) : Station Client :=
  let client := station.driver
  if ¬ isDue client.lastLoginAttempt now loginRetryInterval then station
  else
    let station := { station with
      driver := { client with
        lastLoginAttempt := some now, loginAttempts := client.loginAttempts + 1 } }
    let server := client.config.serverAddress
    let login := Envelope.ofPayload { returnTo := client.config.clientAddress : Login }
      client.loginAttempts
    match login.toBytes? with
    | (none, _) => station.tell .loginEncodingFailed
    | (some bytes, _) =>
      match station.transport.send ⟨server, bytes⟩ with
      | (.ok (), transport) =>
        { station with transport }.tell (.loginAttemptSent client.loginAttempts server)
      | (.error error, transport) =>
        { station with transport }.tell (.loginAttemptFailed server error)

def tryPing (now : Nat) (station : Station Client) : Station Client :=
  let client := station.driver
  if ¬ isDue client.lastPing now pingInterval then station
  else
    match client.playerId with
    | none => station
    | some id =>
      match station.game.roster.get? id with
      | none => station.tell (.ownPlayerMissing id)
      | some player =>
        let (messageId, player) := player.takeMessageId
        let station := { station with driver := { client with lastPing := some now } }
        let ping := { playerId := id, lastAckId := player.ackCount.toUInt64 : Ping }
        (station.sendTracked player client.config.serverAddress (.ofPayload ping messageId)).1

/-- The first session a new client is told of is its own. -/
def enter (now : Nat) (session : UInt32) (station : Station Client) : Station Client :=
  let client := station.driver
  match station.game.register? session now with
  | none => station.tell (.sessionTaken session)
  | some (game, player) =>
    let own := { player with endpoint := some (.v4 client.config.clientAddress) }
    let station := { station with
      game, driver := { client with state := .loggedIn, playerId := some session } }
    (station.keep own).tell (.loggedIn client.config.serverAddress session)

/-- Any later session is another player's. -/
def registerRemote (now : Nat) (session : UInt32) (station : Station Client) : Station Client :=
  if station.driver.playerId = some session then station.tell (.ownLoginRepeated session)
  else
    match station.game.register? session now with
    | none => station.tell (.remotePlayerTaken session)
    | some (game, _) => { station with game }.tell (.remotePlayerRegistered session)

def onLogin (moment : Moment) (received : Received Login) (station : Station Client) :
    Station Client :=
  let login := received.envelope.payload
  if ¬ login.hasSession then station.tell (.loginWithoutSession received.sender)
  else
    match station.driver.state with
    | .fresh => enter moment.now login.session station
    | .loggedIn => registerRemote moment.now login.session station
    | .disconnected => station.tell (.loginWhileDisconnected login.session)

def onPing (_ : Moment) (received : Received Ping) (station : Station Client) : Station Client :=
  station.tell (.pingIgnored received.envelope.payload.playerId received.sender)

def onAcknowledge (_ : Moment) (received : Received Acknowledge) (station : Station Client) :
    Station Client :=
  station.tell (.serverAcknowledged received.envelope.payload.ackedId)

def onTick (moment : Moment) (station : Station Client) : Station Client × Bool :=
  match station.driver.state with
  | .fresh => (tryLogin moment.now station, true)
  | .loggedIn => (tryPing moment.now station, true)
  | .disconnected => (station, false)

instance : Role Client := ⟨onLogin, onPing, onAcknowledge, onTick⟩

end Client

end GridSession
