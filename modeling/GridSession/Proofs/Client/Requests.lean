import GridSession.Proofs.Client.Conduct

namespace GridSession

namespace Client

/-- A login or a ping that a client sends in its present state. -/
inductive IsRequest (client : Client) : Outgoing → Prop where
  | login (id : UInt32) :
    IsRequest client ⟨client.config.serverAddress, Frame.wrap
      (Envelope.ofPayload { returnTo := client.config.clientAddress : Login } id).body⟩
  | ping {playerId : UInt32} (h : client.playerId = some playerId) (lastAckId : UInt64)
      (id : UInt32) :
    IsRequest client ⟨client.config.serverAddress, Frame.wrap
      (Envelope.ofPayload { playerId, lastAckId : Ping } id).body⟩

structure Works (before after : Station Client) : Prop where
  config_eq : after.driver.config = before.driver.config
  state_eq : after.driver.state = before.driver.state
  playerId_eq : after.driver.playerId = before.driver.playerId
  ids_eq : after.game.roster.ids = before.game.roster.ids
  sent : ∀ outgoing ∈ after.transport.sent,
    outgoing ∈ before.transport.sent ∨ IsRequest before.driver outgoing

theorem Works.refl (station : Station Client) : Works station station :=
  ⟨rfl, rfl, rfl, rfl, fun _ hmem => .inl hmem⟩

theorem tryLogin_works (now : Nat) (station : Station Client) :
    Works station (tryLogin now station) := by
  rw [tryLogin_eq]
  split_ifs
  · refine ⟨rfl, rfl, rfl, rfl, fun outgoing hmem => ?_⟩
    rcases Transport.mem_sent_send hmem with hold | rfl
    · exact .inl hold
    · exact .inr (.login _)
  · exact .refl station

theorem tryPing_works (now : Nat) (station : Station Client) :
    Works station (tryPing now station) := by
  unfold tryPing
  dsimp only
  by_cases hdue : isDue station.driver.lastPing now pingInterval
  · rw [if_neg (not_not.mpr hdue)]
    cases hplayerId : station.driver.playerId with
    | none => exact .refl station
    | some id =>
      dsimp only
      cases station.game.roster.get? id with
      | none => exact ⟨rfl, rfl, rfl, rfl, fun _ hmem => .inl hmem⟩
      | some player =>
        refine ⟨rfl, rfl, hplayerId.symm, Roster.ids_replace .., fun outgoing hmem => ?_⟩
        change outgoing ∈ (player.takeMessageId.2.sendTracked ..).transport.sent at hmem
        rw [Player.transport_sendTracked] at hmem
        rcases Transport.mem_sent_send hmem with hold | rfl
        · exact .inl hold
        · exact .inr (.ping hplayerId _ _)
  · rw [if_pos hdue]
    exact .refl station

theorem onTick_works (moment : Moment) (station : Station Client) :
    Works station (onTick moment station).1 := by
  unfold onTick
  cases station.driver.state with
  | fresh => exact tryLogin_works moment.now station
  | loggedIn => exact tryPing_works moment.now station
  | disconnected => exact .refl station

end Client

end GridSession
