import GridSession.GameLoop.Station

namespace GridSession

/-- The server knows which sessions it has reported as stale, by ascending id. -/
structure Server where
  stale : List UInt32 := []
deriving DecidableEq, Inhabited

namespace Server

/-- Ticks between two summaries. -/
def summaryInterval : Nat := 100

/-- The reply goes to the endpoint in the payload, whoever sent the login. -/
def onLogin (moment : Moment) (received : Received Login) (station : Station Server) :
    Station Server :=
  let login := received.envelope.payload
  let endpoint := SocketAddress.v4 login.returnTo
  match station.game.enroll endpoint moment.now with
  | .error refusal => station.tell (.loginRejected endpoint received.sender refusal)
  | .ok enrolment =>
    let player := enrolment.player
    let station := { station with game := enrolment.game }.tell
      (if enrolment.created then .playerCreated player.id endpoint
        else .playerReturned player.id endpoint)
    let (id, player) := (player.touch moment.now).takeMessageId
    let reply := Envelope.ofPayload { session := player.id, returnTo := login.returnTo : Login } id
    let (station, delivered) := station.sendTracked player endpoint reply
    if delivered then station.tell (.loginReplySent player.id endpoint) else station

/-- The acknowledgment goes to the session's endpoint if there is one, else back to the sender. -/
def onPing (moment : Moment) (received : Received Ping) (station : Station Server) :
    Station Server :=
  let ping := received.envelope.payload
  if ping.playerId = noPlayer then station.tell (.pingWithoutPlayer received.sender)
  else
    match station.game.roster.get? ping.playerId with
    | none => station.tell (.pingForUnknownPlayer ping.playerId received.sender)
    | some player =>
      let (id, player) := (player.touch moment.now).takeMessageId
      let target := player.endpoint.getD received.sender
      (station.sendTracked player target (.ofPayload { ackedId := ping.lastAckId : Acknowledge } id)).1

def onAcknowledge (_ : Moment) (received : Received Acknowledge) (station : Station Server) :
    Station Server :=
  station.tell (.acknowledgmentIgnored received.envelope.payload.ackedId received.sender)

/-- Notes on the sessions that fell silent since the last report and then on those that came back.
-/
def staleNotes (before after : List UInt32) (timeout : Nat) : List Note :=
  (after.filter (· ∉ before)).map (.playerSilent · timeout)
    ++ (before.filter (· ∉ after)).map .playerActive

def reportStale (now : Nat) (station : Station Server) : Station Server :=
  let stale := station.game.staleIds now
  { station with
    driver := { stale }
    journal := station.journal ++ staleNotes station.driver.stale stale station.game.playerTimeout }

def onTick (moment : Moment) (station : Station Server) : Station Server × Bool :=
  let station := reportStale moment.now station
  let ticks := station.game.ticks
  if ticks % summaryInterval = 0 then
    (station.tell (.tickSummary ticks station.game.roster.size station.driver.stale.length), true)
  else (station, true)

/-- Logins open or resume the session of the endpoint they name, pings keep a session alive, and
sessions that fall silent are reported once per silence. -/
instance : Role Server := ⟨onLogin, onPing, onAcknowledge, onTick⟩

end Server

end GridSession
