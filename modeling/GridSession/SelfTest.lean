import GridSession.Bytes.Damage
import GridSession.Envelope.Kinds
import GridSession.Journal

namespace GridSession.SelfTest

inductive Failure where
  | encode (kind : String)
  | decode (kind : String) (error : DecodeError)
  | mismatch (kind : String)
  | acceptedCorrupt (kind : String)
deriving DecidableEq

def Failure.message : Failure → String
  | encode kind => s!"{kind} message did not encode"
  | decode kind error => s!"{kind} message did not decode: {error}"
  | mismatch kind => s!"{kind} message changed across a round trip"
  | acceptedCorrupt kind => s!"{kind} frame was accepted after being corrupted"

/-- One message survives a round trip, and its frame is refused once damaged or cut short. -/
def checkKind {α : Type} [Payload α] [DecidableEq α] (kind : String) (envelope : Envelope α) :
    Except Failure Unit :=
  let (bytes?, stamped) := envelope.toBytes?
  match bytes? with
  | none => .error (.encode kind)
  | some bytes =>
    match Envelope.decode α bytes with
    | .error error => .error (.decode kind error)
    | .ok decoded =>
      if decoded ≠ stamped then .error (.mismatch kind)
      else if (Envelope.decode α (Damage.last bytes)).isOk then .error (.acceptedCorrupt kind)
      else if (Envelope.decode α (bytes.take (Envelope.width α - 1))).isOk then
        .error (.acceptedCorrupt kind)
      else .ok ()

def checkBase : Except Failure Unit :=
  let written := { action := .acknowledge, id := 1 : Message }.encode (List.replicate Message.width 0)
  if written.count ≠ Message.width then .error (.encode "base")
  else
    match Message.decode written.buffer with
    | .error error => .error (.decode "base" error)
    | .ok decoded =>
      if decoded ≠ written.message then .error (.mismatch "base")
      else if (Message.decode (Damage.first written.buffer)).isOk then
        .error (.acceptedCorrupt "base")
      else .ok ()

/-- The checks in order, stopping at the first that fails. -/
def checks : List (Except Failure Unit) :=
  [checkBase,
    checkKind "login" (.ofPayload { returnTo := ⟨.localhost, 40000⟩ : Login }),
    checkKind "login" (.ofPayload { session := 1, returnTo := ⟨.ofOctets 10 0 0 1, 1⟩ : Login }),
    checkKind "ping" (.ofPayload { lastAckId := 0xFFFFFFFFFFFFFFFF : Ping }),
    checkKind "ping" (.ofPayload { playerId := 1 : Ping }),
    checkKind "acknowledge" (.ofPayload { ackedId := 0 : Acknowledge }),
    checkKind "acknowledge" (.ofPayload { ackedId := 0xFFFFFFFFFFFFFFFF : Acknowledge })]

/-- Runs every check, and notes it when all pass. -/
def run : Except Failure (List Note) :=
  match checks.mapM id with
  | .error failure => .error failure
  | .ok _ => .ok [.selfTestPassed]

end GridSession.SelfTest
