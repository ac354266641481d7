import GridSession.Proofs.GameLoop.Arrivals
import GridSession.Proofs.Player.Retained

namespace GridSession

namespace Outgoing

def isLogin (outgoing : Outgoing) : Bool :=
  outgoing.actionCode == Action.login.code

def isReadable (outgoing : Outgoing) : Bool :=
  Digest.fnv1a (outgoing.bytes.drop Header.width) != 0

section Envelope

variable {α : Type} [Payload α] (target : SocketAddress) (envelope : Envelope α)

theorem isLogin_wrap_body :
    isLogin ⟨target, Frame.wrap envelope.body⟩
      = ((Payload.action α).code == Action.login.code) := by
  rw [isLogin, actionCode_wrap_body]

theorem isReadable_wrap_body_iff :
    isReadable ⟨target, Frame.wrap envelope.body⟩ = true ↔ Digest.fnv1a envelope.body ≠ 0 := by
  have hbody : (Frame.wrap envelope.body).drop Header.width = envelope.body :=
    List.drop_left' (Header.length_toBytes _)
  rw [isReadable, hbody, bne_iff_ne]

end Envelope

end Outgoing

namespace Event

def Tells : Event → Prop
  | login received => received.envelope.payload.hasSession
  | _ => False

/-- A login asks for one of these addresses. -/
def AsksFor (addresses : List IPv4Endpoint) : Event → Prop
  | login received => received.envelope.payload.returnTo ∈ addresses
  | _ => True

theorem decoded?_of_isReadable {target : SocketAddress} {login : Envelope Login}
    (h : Outgoing.isReadable ⟨target, Frame.wrap login.body⟩ = true) (sender : SocketAddress) :
    decoded? ⟨sender, Frame.wrap login.body⟩ = some (.login ⟨sender, login.stamped⟩) := by
  rw [decoded?_wrap_login, if_neg ((Outgoing.isReadable_wrap_body_iff _ _).mp h)]

end Event

end GridSession
