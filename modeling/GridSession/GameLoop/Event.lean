import GridSession.Envelope.Kinds
import GridSession.Transport

namespace GridSession

structure Received (α : Type) where
  sender : SocketAddress
  envelope : Envelope α
deriving DecidableEq

inductive Event where
  | login (received : Received Login)
  | ping (received : Received Ping)
  | acknowledge (received : Received Acknowledge)
deriving DecidableEq

namespace Event

def action : Event → Action
  | login _ => .login
  | ping _ => .ping
  | acknowledge _ => .acknowledge

def sender : Event → SocketAddress
  | login received => received.sender
  | ping received => received.sender
  | acknowledge received => received.sender

end Event

/-- The datagram as a message of one kind. -/
def Received.ofDatagram (α : Type) [Payload α] (datagram : Datagram) :
    Except DecodeError (Received α) :=
  (Envelope.decode α datagram.bytes).map (⟨datagram.sender, ·⟩)

/-- The datagram as an event of the given action. No event belongs to the action `none`. -/
def Event.ofDatagram? (datagram : Datagram) : Action → Option (Except DecodeError Event)
  | .none => none
  | .login => some ((Received.ofDatagram Login datagram).map .login)
  | .ping => some ((Received.ofDatagram Ping datagram).map .ping)
  | .acknowledge => some ((Received.ofDatagram Acknowledge datagram).map .acknowledge)

end GridSession
