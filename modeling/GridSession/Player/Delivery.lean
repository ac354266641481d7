import GridSession.Envelope.Kinds
import GridSession.Journal
import GridSession.Player.Basic

namespace GridSession

/-- What a tracked send leaves: whether it went out, and everything it may have changed. -/
structure Delivery (α : Type) where
  delivered : Bool
  player : Player
  transport : Transport
  envelope : Envelope α
  note : Note

/-- Encodes a message, sends it and retains the octets under the message's id. What could not be
sent is not retained. -/
def Player.sendTracked {α : Type} [Payload α] (player : Player) (transport : Transport)
    (target : SocketAddress) (envelope : Envelope α) : Delivery α :=
  match envelope.toBytes? with
  | (none, stamped) =>
    ⟨false, player, transport, stamped, .encodingFailed (Payload.action α) player.id⟩
  | (some bytes, stamped) =>
    match transport.send ⟨target, bytes⟩ with
    | (.ok (), transport) =>
      ⟨true, { player with sent := player.sent.insert stamped.message.id bytes }, transport, stamped,
        .messageSent (Payload.action α) stamped.message.id player.id target⟩
    | (.error error, transport) =>
      ⟨false, player, transport, stamped, .sendingFailed (Payload.action α) player.id target error⟩

end GridSession
