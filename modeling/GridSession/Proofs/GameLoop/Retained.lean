import GridSession.Proofs.Client.Retained
import GridSession.Proofs.Server.Retained

namespace GridSession

namespace GameLoop

open Transport in
/-- After every run of a server, and of a client, each player counts what was to be sent through it,
and as long as its message ids do not come back it retains the last 32 of what did go out, under the
ids in those datagrams. Through a server's player go the replies to its endpoint, and through a
client's own player its pings. -/
theorem players_retain_last_sent (params : GameParams) (config : ClientConfig)
    (fails : Nat → Bool) (arrivals : List Input) (inputs : List Client.Input) :
    (let start : GameLoop Server := .start params {} { fails }
      let loop := start.run arrivals
      let tried := Server.replies params.maxPlayers.toNat [] (start.handed arrivals)
      let failed := letThrough (fun number => !fails number) 0 tried
      loop.transport.sent = letThrough fails 0 tried
      ∧ ∀ player ∈ loop.game.roster.players,
        let through := Outgoing.isTo player.endpoint
        player.nextMessage = UInt32.ofNat (tried.filter through).length
        ∧ ((tried.filter through).length < 4294967296 →
          player.RetainsLast (loop.transport.sent.filter through) (failed.filter through)))
    ∧ (let start : GameLoop Client := .start params { config } { fails }
      let loop := Client.run start inputs
      let tried := (Client.turns start inputs).flatMap Client.Turn.tried
      let failed := letThrough (fun number => !fails number) 0 tried
      loop.transport.sent = letThrough fails 0 tried
      ∧ ∀ player ∈ loop.game.roster.players,
        let through := loop.driver.sendsThrough player
        player.nextMessage = UInt32.ofNat (tried.filter through).length
        ∧ ((tried.filter through).length < 4294967296 →
          player.RetainsLast (loop.transport.sent.filter through) (failed.filter through))) := by
  -- a transport that starts empty has sent what the schedule let through
  have hsent : ∀ tried : List Outgoing,
      (({ fails } : Transport).sendAll tried).sent = letThrough fails 0 tried :=
    fun tried => (sent_sendAll_eq_letThrough ..).trans (List.nil_append _)
  constructor
  · intro start loop tried failed
    have htracks : Server.Tracks fails tried loop.toStation :=
      (Server.run_retains (Server.start_retains params fails) arrivals).tracks
    have hpassed : loop.transport.sent = letThrough fails 0 tried := by
      rw [htracks.transport_eq, hsent]
    rw [hpassed]
    exact ⟨rfl, fun player hmem => (htracks.player player hmem).retainsLast_filter⟩
  · intro start loop tried failed
    have htracks : Client.Tracks fails tried loop.toStation :=
      Client.run_tracks (Client.start_paced params config fails)
        (Client.start_tracks params config fails) inputs
    have hpassed : loop.transport.sent = letThrough fails 0 tried := by
      rw [htracks.transport_eq, hsent]
    rw [hpassed]
    exact ⟨rfl, fun player hmem => (htracks.player player hmem).retainsLast_filter⟩

/-- A server whose first send fails answers a login and a ping in one tick. -/
def answeredOnce : GameLoop Server :=
  (start {} ({} : Server) { fails := fun number => number == 0 }).run
    (Server.firstArrivals ++ [.tick 5])

/-- A client whose first send fails asks for a session, is granted one and pings. -/
def pingedOnce : GameLoop Client :=
  Client.run (start {} ({ config := ⟨⟨.localhost, 40000⟩, .v4 ⟨.localhost, 7⟩⟩ } : Client)
      { fails := fun number => number == 0 })
    [.tick 0, .datagram ⟨Client.firstGrant.sender, Frame.wrap Client.firstGrant.envelope.body⟩,
      .tick 5]

/-- Of the server's replies the second is retained, under its own id, and nothing is under the id of
the first. The client retains its ping. -/
theorem reply_and_ping_are_retained :
    (∃ player ∈ answeredOnce.game.roster.players, player.nextMessage = 2
      ∧ player.sent.entries
        = [(1, Frame.wrap (Envelope.ofPayload { ackedId := 3 : Acknowledge } 1).body)]
      ∧ player.sent.get? 0 = none)
    ∧ ∃ player ∈ pingedOnce.game.roster.players,
      player.sent.entries
        = [(0, Frame.wrap
          (Envelope.ofPayload { playerId := 1, lastAckId := 0 : Ping } 0).body)] := by
  obtain ⟨⟨-, hserver⟩, -, hclient⟩ := players_retain_last_sent {}
    ⟨⟨.localhost, 40000⟩, .v4 ⟨.localhost, 7⟩⟩ (fun number => number == 0)
    (Server.firstArrivals ++ [.tick 5])
    [.tick 0, .datagram ⟨Client.firstGrant.sender, Frame.wrap Client.firstGrant.envelope.body⟩,
      .tick 5]
  constructor
  · have hjoined : ∃ player ∈ answeredOnce.game.roster.players,
        player.endpoint = some (.v4 ⟨.localhost, 40000⟩) := by
      decide +kernel
    obtain ⟨player, hmem, hendpoint⟩ := hjoined
    obtain ⟨hnext, hlast⟩ := hserver player hmem
    rw [hendpoint] at hnext hlast
    have hretains := hlast (by decide +kernel)
    refine ⟨player, hmem, hnext.trans (by decide +kernel), ?_, ?_⟩
    · exact hretains.entries_eq.trans (by decide +kernel)
    · exact hretains.get?_eq_none 0 (by decide +kernel)
  · have hentered : ∃ player ∈ pingedOnce.game.roster.players, player.id = 1 := by
      decide +kernel
    obtain ⟨player, hmem, hid⟩ := hentered
    have hown : pingedOnce.driver.playerId = some player.id := by
      rw [hid]
      decide +kernel
    have hthrough : pingedOnce.driver.sendsThrough player = Outgoing.isPing := by
      funext outgoing
      rw [Client.sendsThrough, decide_eq_true hown, Bool.true_and]
    have hlast := (hclient player hmem).2
    change (List.filter (pingedOnce.driver.sendsThrough player) _).length < 4294967296 →
      player.RetainsLast
        (pingedOnce.transport.sent.filter (pingedOnce.driver.sendsThrough player)) _ at hlast
    rw [hthrough] at hlast
    exact ⟨player, hmem, (hlast (by decide +kernel)).entries_eq.trans (by decide +kernel)⟩

end GameLoop

end GridSession
