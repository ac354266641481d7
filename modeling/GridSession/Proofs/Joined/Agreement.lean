import GridSession.Proofs.Client.Sessions
import GridSession.Proofs.Joined.Network
import GridSession.Proofs.Server.Grants

namespace GridSession

namespace Joined

open Server (Assigns)

/-- A client that agrees with the table of a game, now and when it handles what waits. -/
structure InAgreement (game : Game) (client : GameLoop Client) : Prop where
  agrees : Client.Agrees (Assigns game) client.driver.config.clientAddress client.toStation
  granted : ∀ event ∈ client.inbox,
    event.Grants (Assigns game) client.driver.config.clientAddress

/-- What no step breaks: the server is honest, the waiting pings name sessions of its table, and all
clients agree with it. -/
structure Agreement (joined : Joined) : Prop where
  honest : Server.Honest joined.server.toStation
  named : ∀ event ∈ joined.server.inbox, event.Names (Assigns joined.server.game)
  clients : ∀ client ∈ joined.clients, InAgreement joined.server.game client

variable {joined after : Joined}

theorem Fresh.agreement (h : Fresh joined) : Agreement joined := by
  obtain ⟨⟨params, fails, hserver⟩, hclients⟩ := h
  refine ⟨?_, ?_, fun client hmem => ?_⟩
  · rw [hserver]
    exact Server.start_honest params fails
  · rw [hserver]
    exact fun _ hmem => absurd hmem List.not_mem_nil
  · obtain ⟨params, config, fails, rfl⟩ := hclients client hmem
    exact ⟨Client.start_agrees params config fails, fun _ hmem => absurd hmem List.not_mem_nil⟩

theorem InAgreement.of_enlists {game after : Game} {client : GameLoop Client}
    {events : List (Nat × Event)} (h : InAgreement game client)
    (henlists : Server.Enlists game events after) : InAgreement after client := by
  have hlater : ∀ id endpoint, Assigns game id endpoint → Assigns after id endpoint :=
    fun _ _ hassigns => hassigns.of_enlists henlists
  exact ⟨h.agrees.mono hlater, fun event hmem => (h.granted event hmem).mono hlater⟩

theorem InAgreement.of_agrees {game : Game} {address : IPv4Endpoint} {client : GameLoop Client}
    (hagrees : Client.Agrees (Assigns game) address client.toStation)
    (hgranted : ∀ event ∈ client.inbox, event.Grants (Assigns game) address) :
    InAgreement game client := by
  obtain rfl := hagrees.clientAddress_eq
  exact ⟨hagrees, hgranted⟩

theorem InAgreement.tick {game : Game} {client : GameLoop Client} (htable : Server.Table game)
    (h : InAgreement game client) (now : Nat) : InAgreement game (client.tick now).1 := by
  have hagrees := Client.tick_agrees (fun _ _ hid hother => hid.id_eq htable hother) h.agrees
    h.granted now
  exact .of_agrees hagrees fun _ hmem => absurd hmem List.not_mem_nil

theorem InAgreement.reply {game : Game} {client : GameLoop Client} {outgoing : Outgoing}
    {arrived : Bytes} (h : InAgreement game client) (hreply : Server.IsReply game outgoing)
    (htarget : outgoing.target = .v4 client.driver.config.clientAddress)
    (harrives : Frame.Arrives outgoing.bytes arrived) (sender : SocketAddress) :
    InAgreement game (client.onDatagram ⟨sender, arrived⟩) := by
  obtain ⟨endpoint, hendpoint, hcarries⟩ := hreply
  rw [htarget] at hendpoint
  cases hendpoint
  exact .of_agrees (Client.onDatagram_agrees h.agrees _)
    (GameLoop.inbox_onDatagram h.granted (hcarries.of_arrives harrives sender))

theorem Agreement.set_client (h : Agreement joined) (index : Nat) {client : GameLoop Client}
    (hclient : InAgreement joined.server.game client) :
    Agreement { joined with clients := joined.clients.set index client } := by
  refine ⟨h.honest, h.named, fun other hmem => ?_⟩
  rcases List.mem_or_eq_of_mem_set hmem with hold | rfl
  · exact h.clients other hold
  · exact hclient

theorem Agreement.serverTick (h : Agreement joined) (now : Nat) :
    Agreement { joined with server := (joined.server.tick now).1 } := by
  have henlists := Server.tick_enlists h.honest.table now
  refine ⟨Server.tick_honest h.honest h.named now, fun _ hmem => absurd hmem List.not_mem_nil, ?_⟩
  exact fun client hmem => (h.clients client hmem).of_enlists henlists

theorem Agreement.request (h : Agreement joined) {client : GameLoop Client} {outgoing : Outgoing}
    {arrived : Bytes} (hclient : client ∈ joined.clients)
    (hsent : outgoing ∈ client.transport.sent) (harrives : Frame.Arrives outgoing.bytes arrived)
    (sender : SocketAddress) :
    Agreement { joined with server := joined.server.onDatagram ⟨sender, arrived⟩ } := by
  have hcarries := (h.clients client hclient).agrees.sent outgoing hsent
  have hnamed := GameLoop.inbox_onDatagram h.named (hcarries.of_arrives harrives sender)
  have hgame : (joined.server.onDatagram ⟨sender, arrived⟩).game = joined.server.game := by
    rw [GameLoop.onDatagram_eq]
  refine ⟨Server.onDatagram_honest h.honest _, ?_, ?_⟩
  · rw [hgame]
    exact hnamed
  · rw [hgame]
    exact h.clients

/-- No step breaks the agreement. -/
theorem Step.agreement (hstep : Step joined after) (h : Agreement joined) : Agreement after := by
  cases hstep with
  | serverTick now => exact h.serverTick now
  | clientTick hclient now =>
    exact h.set_client _ ((h.clients _ (List.mem_of_getElem? hclient)).tick h.honest.table now)
  | leave hclient =>
    have hagrees := h.clients _ (List.mem_of_getElem? hclient)
    exact h.set_client _ (.of_agrees hagrees.agrees.disconnect hagrees.granted)
  | request hclient hsent harrives sender => exact h.request hclient hsent harrives sender
  | reply hclient hsent htarget harrives sender =>
    exact h.set_client _ ((h.clients _ (List.mem_of_getElem? hclient)).reply
      (h.honest.sent _ hsent) htarget harrives sender)

theorem Reachable.agreement (h : Reachable joined) : Agreement joined := by
  induction h with
  | fresh h => exact h.agreement
  | step _ hstep ih => exact hstep.agreement ih

/-- In every reachable state a client's player is the server's player of the client's address. So
clients that are logged in have the same player exactly if they have the same address, a client
knows no player but its own, and the server never drops a ping for the player in it. -/
theorem sessions_agree (h : Reachable joined) :
    (∀ client ∈ joined.clients, ∀ id, client.driver.playerId = some id →
      ∃ player, joined.server.game.roster.get? id = some player
        ∧ player.endpoint = some (.v4 client.driver.config.clientAddress))
    ∧ (∀ client ∈ joined.clients, ∀ other ∈ joined.clients,
      client.driver.state = .loggedIn → other.driver.state = .loggedIn →
      ∃ id otherId, client.driver.playerId = some id ∧ other.driver.playerId = some otherId
        ∧ (id = otherId
          ↔ client.driver.config.clientAddress = other.driver.config.clientAddress))
    ∧ (∀ client ∈ joined.clients, client.game.roster.size ≤ 1
      ∧ ∀ player ∈ client.game.roster.players, client.driver.playerId = some player.id)
    ∧ ∀ note ∈ joined.server.journal, (∀ sender, note ≠ .pingWithoutPlayer sender)
      ∧ ∀ id sender, note ≠ .pingForUnknownPlayer id sender := by
  obtain ⟨honest, -, hclients⟩ := h.agreement
  have hassigns : ∀ client ∈ joined.clients, ∀ id, client.driver.playerId = some id →
      Assigns joined.server.game id client.driver.config.clientAddress :=
    fun client hmem id hid => ((hclients client hmem).agrees.playerId id hid).2
  refine ⟨hassigns, ?_, ?_, ?_⟩
  · intro client hclient other hother hloggedIn hloggedIn'
    obtain ⟨id, hid⟩ := (hclients client hclient).agrees.loggedIn hloggedIn
    obtain ⟨otherId, hotherId⟩ := (hclients other hother).agrees.loggedIn hloggedIn'
    have hassigned := hassigns client hclient id hid
    have hassigned' := hassigns other hother otherId hotherId
    refine ⟨id, otherId, hid, hotherId, ?_, ?_⟩
    · -- a player has one endpoint
      rintro rfl
      exact hassigned.endpoint_eq hassigned'
    · -- an endpoint has one player
      intro haddress
      rw [← haddress] at hassigned'
      exact hassigned.id_eq honest.table hassigned'
  · intro client hmem
    have hagrees := (hclients client hmem).agrees
    exact ⟨hagrees.size_le_one, fun player hplayer => hagrees.ids _ (List.mem_map_of_mem hplayer)⟩
  · intro note hmem
    refine ⟨fun sender hnote => ?_, fun id sender hnote => ?_⟩
    · exact honest.quiet note hmem (hnote ▸ trivial)
    · exact honest.quiet note hmem (hnote ▸ trivial)

section SharedReply

def received (client : GameLoop Client) (reply : Outgoing) : GameLoop Client :=
  ((client.onDatagram ⟨client.driver.config.serverAddress, reply.bytes⟩).tick 0).1

def asked (server : GameLoop Server) (client : GameLoop Client) (request : Outgoing) :
    GameLoop Server :=
  ((server.onDatagram ⟨.v4 client.driver.config.clientAddress, request.bytes⟩).tick 0).1

/-- The first of two clients asks, and the server's reply reaches both of them. -/
theorem Reachable.shared_reply {server : GameLoop Server} {first second : GameLoop Client}
    {request reply : Outgoing} (h : Reachable ⟨server, [first, second]⟩)
    (hrequest : request ∈ (first.tick 0).1.transport.sent)
    (hreply : reply ∈ (asked server first request).transport.sent)
    (hfirst : reply.target = .v4 (first.tick 0).1.driver.config.clientAddress)
    (hsecond : reply.target = .v4 second.driver.config.clientAddress) :
    Reachable ⟨asked server first request,
      [received (first.tick 0).1 reply, received second reply]⟩ := by
  have hasked : Reachable ⟨asked server first request, [(first.tick 0).1, second]⟩ :=
    ((h.step (@Step.clientTick _ 0 _ rfl 0)).step
      (.request List.mem_cons_self hrequest .intact _)).step (.serverTick 0)
  have hreceived : Reachable ⟨asked server first request,
      [received (first.tick 0).1 reply, second]⟩ :=
    (hasked.step (@Step.reply _ 0 _ _ _ rfl hreply hfirst .intact _)).step
      (@Step.clientTick _ 0 _ rfl 0)
  exact (hreceived.step (@Step.reply _ 1 _ _ _ rfl hreply hsecond .intact _)).step
    (@Step.clientTick _ 1 _ rfl 0)

def newcomer : GameLoop Client :=
  .start {} { config := ⟨⟨.localhost, 40000⟩, .v4 ⟨.localhost, 8088⟩⟩ }

def firstRequest : Outgoing :=
  ⟨.v4 ⟨.localhost, 8088⟩,
    Frame.wrap (Envelope.ofPayload { returnTo := ⟨.localhost, 40000⟩ : Login } 0).body⟩

def firstReply : Outgoing :=
  ⟨.v4 ⟨.localhost, 40000⟩,
    Frame.wrap (Envelope.ofPayload { session := 1, returnTo := ⟨.localhost, 40000⟩ : Login }
      0).body⟩

theorem newcomers_share_player :
    let joined : Joined := ⟨asked (.start {} {}) newcomer firstRequest,
      [received (newcomer.tick 0).1 firstReply, received newcomer firstReply]⟩
    Reachable joined ∧ (∀ client ∈ joined.clients, client.driver.state = .loggedIn)
    ∧ ∃ id, ∀ client ∈ joined.clients, client.driver.playerId = some id := by
  intro joined
  have hstart : Reachable ⟨.start {} {}, [newcomer, newcomer]⟩ := by
    refine .fresh ⟨⟨{}, fun _ => false, rfl⟩, fun client hmem => ?_⟩
    obtain rfl : client = newcomer := by simpa using hmem
    exact ⟨{}, _, fun _ => false, rfl⟩
  have hreachable : Reachable joined :=
    hstart.shared_reply (by decide) (by decide) (by decide) (by decide)
  have hloggedIn : ∀ client ∈ joined.clients, client.driver.state = .loggedIn := by decide
  refine ⟨hreachable, hloggedIn, ?_⟩
  obtain ⟨id, otherId, hid, hotherId, hiff⟩ := (sessions_agree hreachable).2.1
    _ List.mem_cons_self _ (List.mem_cons_of_mem _ List.mem_cons_self)
    (hloggedIn _ List.mem_cons_self)
    (hloggedIn _ (List.mem_cons_of_mem _ List.mem_cons_self))
  obtain rfl : id = otherId := hiff.mpr (by decide)
  refine ⟨id, fun client hmem => ?_⟩
  rcases List.mem_cons.mp hmem with rfl | hmem
  · exact hid
  · rwa [List.mem_singleton.mp hmem]

end SharedReply

end Joined

end GridSession
