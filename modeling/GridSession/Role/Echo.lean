import GridSession.GameLoop.Station

namespace GridSession

/-- Acknowledges every ping to its sender, without sessions, and counts acknowledgments. -/
structure Echo where
  acks : Nat := 0
deriving Inhabited

namespace Echo

def reply (received : Received Ping) (station : Station Echo) : Station Echo :=
  let payload := received.envelope.payload
  match (Envelope.ofPayload { ackedId := payload.lastAckId : Acknowledge }).toBytes? with
  | (none, _) => station
  | (some bytes, _) =>
    { station with transport := (station.transport.send ⟨received.sender, bytes⟩).2 }

instance : Role Echo where
  onLogin _ _ station := station
  onPing _ := reply
  onAcknowledge _ _ station :=
    { station with driver := { station.driver with acks := station.driver.acks + 1 } }
  onTick _ station := (station, true)

end Echo

end GridSession
