import GridSession.Frame.Message
import GridSession.Game.Refusal
import GridSession.Text.Span
import GridSession.Transport

namespace GridSession

inductive Level where
  | warn
  | info
  | debug
deriving DecidableEq

def Level.name : Level → String
  | warn => "WARN"
  | info => "INFO"
  | debug => "DEBUG"

/-- What is worth telling. The level and the text of a note follow from what it tells. -/
inductive Note where
  | selfTestPassed
  | datagramDropped (size : Nat) (sender : SocketAddress) (error : DecodeError)
  | datagramReceived (message : Message) (sender : SocketAddress)
  | actionMissing (sender : SocketAddress)
  | messageDropped (action : Action) (sender : SocketAddress) (error : DecodeError)
  | handling (action : Action) (sender : SocketAddress)
  | encodingFailed (action : Action) (player : UInt32)
  | messageSent (action : Action) (id player : UInt32) (target : SocketAddress)
  | sendingFailed (action : Action) (player : UInt32) (target : SocketAddress) (error : SendError)
  | loginRejected (endpoint sender : SocketAddress) (refusal : Refusal)
  | playerCreated (id : UInt32) (endpoint : SocketAddress)
  | playerReturned (id : UInt32) (endpoint : SocketAddress)
  | loginReplySent (id : UInt32) (endpoint : SocketAddress)
  | pingWithoutPlayer (sender : SocketAddress)
  | pingForUnknownPlayer (id : UInt32) (sender : SocketAddress)
  | acknowledgmentIgnored (ackedId : UInt64) (sender : SocketAddress)
  | playerSilent (id : UInt32) (timeout : Nat)
  | playerActive (id : UInt32)
  | tickSummary (ticks players stale : Nat)
  | disconnecting (server : SocketAddress)
  | loginEncodingFailed
  | loginAttemptSent (id : UInt32) (server : SocketAddress)
  | loginAttemptFailed (server : SocketAddress) (error : SendError)
  | ownPlayerMissing (id : UInt32)
  | loginWithoutSession (sender : SocketAddress)
  | sessionTaken (session : UInt32)
  | loggedIn (server : SocketAddress) (id : UInt32)
  | ownLoginRepeated (session : UInt32)
  | remotePlayerRegistered (session : UInt32)
  | remotePlayerTaken (session : UInt32)
  | loginWhileDisconnected (session : UInt32)
  | pingIgnored (id : UInt32) (sender : SocketAddress)
  | serverAcknowledged (ackedId : UInt64)
deriving DecidableEq

namespace Note

def level : Note → Level
  | datagramDropped .. | messageDropped .. | encodingFailed .. | sendingFailed .. | loginRejected ..
  | pingWithoutPlayer .. | pingForUnknownPlayer .. | playerSilent .. | loginEncodingFailed
  | loginAttemptFailed .. | ownPlayerMissing .. | loginWithoutSession .. | sessionTaken ..
  | remotePlayerTaken .. => .warn
  | selfTestPassed | playerCreated .. | playerActive .. | disconnecting .. | loggedIn ..
  | remotePlayerRegistered .. => .info
  | datagramReceived .. | actionMissing .. | handling .. | messageSent .. | playerReturned ..
  | loginReplySent .. | acknowledgmentIgnored .. | tickSummary .. | loginAttemptSent ..
  | ownLoginRepeated .. | loginWhileDisconnected .. | pingIgnored .. | serverAcknowledged .. =>
    .debug

def text : Note → String
  | selfTestPassed => "Codec self-test passed"
  | datagramDropped size sender error => s!"Dropping {size} byte datagram from {sender}: {error}"
  | datagramReceived message sender =>
    let digest := DecodeError.digestText message.header.digest
    s!"Received {message.action} message {message.id} from {sender} "
      ++ s!"({message.header.size} payload bytes, hash {digest})"
  | actionMissing sender => s!"Ignoring message without an action from {sender}"
  | messageDropped action sender error => s!"Dropping {action} datagram from {sender}: {error}"
  | handling action sender => s!"Handling {action} from {sender}"
  | encodingFailed action player => s!"Failed to encode {action} message for player {player}"
  | messageSent action id player target =>
    s!"Sent {action} message {id} to player {player} at {target}"
  | sendingFailed action player target error =>
    s!"Failed to send {action} message to player {player} at {target}: {error}"
  | loginRejected endpoint sender refusal =>
    s!"Rejecting login from {endpoint} (sent from {sender}): {refusal}"
  | playerCreated id endpoint => s!"Player {id} created for {endpoint}"
  | playerReturned id endpoint => s!"Player {id} logged in again from {endpoint}"
  | loginReplySent id endpoint => s!"Sent login reply to player {id} at {endpoint}"
  | pingWithoutPlayer sender => s!"Dropping ping without a player id from {sender}"
  | pingForUnknownPlayer id sender => s!"Dropping ping for unknown player {id} from {sender}"
  | acknowledgmentIgnored ackedId sender =>
    s!"Ignoring acknowledgment of message {ackedId} from {sender}"
  | playerSilent id timeout => s!"Player {id} silent for more than {Span.text timeout}"
  | playerActive id => s!"Player {id} is active again"
  | tickSummary ticks players stale => s!"Tick {ticks}: {players} players, {stale} stale"
  | disconnecting server => s!"Disconnecting from {server}"
  | loginEncodingFailed => "Failed to encode login request"
  | loginAttemptSent id server => s!"Sent login attempt {id} to {server}"
  | loginAttemptFailed server error => s!"Failed to send login to {server}: {error}"
  | ownPlayerMissing id => s!"Own player {id} missing from the player table"
  | loginWithoutSession sender => s!"Login reply from {sender} carries no session id"
  | sessionTaken session => s!"Session {session} is already registered, dropping login"
  | loggedIn server id => s!"Logged in to {server} as player {id}"
  | ownLoginRepeated session => s!"Ignoring repeated login reply for own session {session}"
  | remotePlayerRegistered session => s!"Registered remote player {session}"
  | remotePlayerTaken session => s!"Player {session} is already registered, dropping login"
  | loginWhileDisconnected session => s!"Ignoring login for session {session} while disconnected"
  | pingIgnored id sender => s!"Ignoring ping from player {id} at {sender}"
  | serverAcknowledged ackedId => s!"Server acknowledged message {ackedId}"

/-- The note as a line of the journal. -/
def line (note : Note) : String :=
  note.level.name ++ " " ++ note.text

end Note

end GridSession
