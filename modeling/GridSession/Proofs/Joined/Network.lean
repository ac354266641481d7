import GridSession.Joined
import GridSession.Proofs.GameLoop.Arrivals

namespace GridSession

namespace Joined

/-- A new server and any number of new clients. Any of their sends may fail. -/
structure Fresh (joined : Joined) : Prop where
  server : ∃ params fails, joined.server = .start params {} { fails }
  clients : ∀ client ∈ joined.clients,
    ∃ params config fails, client = .start params { config } { fails }

/-- One thing that happens: a loop ticks at any time, a client leaves, or of a datagram that was
sent something arrives, from whatever sender it seems to come. -/
inductive Step (joined : Joined) : Joined → Prop where
  | serverTick (now : Nat) : Step joined { joined with server := (joined.server.tick now).1 }
  | clientTick {index : Nat} {client : GameLoop Client}
      (hclient : joined.clients[index]? = some client) (now : Nat) :
      Step joined { joined with clients := joined.clients.set index (client.tick now).1 }
  | leave {index : Nat} {client : GameLoop Client}
      (hclient : joined.clients[index]? = some client) :
      Step joined { joined with
        clients := joined.clients.set index
          { client with toStation := Client.disconnect client.toStation } }
  | request {client : GameLoop Client} {outgoing : Outgoing} {arrived : Bytes}
      (hclient : client ∈ joined.clients) (hsent : outgoing ∈ client.transport.sent)
      (harrives : Frame.Arrives outgoing.bytes arrived) (sender : SocketAddress) :
      Step joined { joined with server := joined.server.onDatagram ⟨sender, arrived⟩ }
  | reply {index : Nat} {client : GameLoop Client} {outgoing : Outgoing} {arrived : Bytes}
      (hclient : joined.clients[index]? = some client)
      (hsent : outgoing ∈ joined.server.transport.sent)
      (htarget : outgoing.target = .v4 client.driver.config.clientAddress)
      (harrives : Frame.Arrives outgoing.bytes arrived) (sender : SocketAddress) :
      Step joined { joined with
        clients := joined.clients.set index (client.onDatagram ⟨sender, arrived⟩) }

inductive Reachable : Joined → Prop where
  | fresh {joined : Joined} (h : Fresh joined) : Reachable joined
  | step {joined after : Joined} (h : Reachable joined) (hstep : Step joined after) :
      Reachable after

end Joined

end GridSession
