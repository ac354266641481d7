import GridSession.Proofs.Client.Requests
import GridSession.Proofs.GameLoop.Arrivals
import Mathlib.Data.List.Perm.Subperm

namespace GridSession

namespace Client

/-- A client knows no session but its own, which is assigned to its address, and names no other. -/
structure Agrees (assigned : UInt32 → IPv4Endpoint → Prop) (address : IPv4Endpoint)
    (station : Station Client) : Prop where
  clientAddress_eq : station.driver.config.clientAddress = address
  playerId : ∀ id, station.driver.playerId = some id → id ≠ noPlayer ∧ assigned id address
  fresh : station.driver.state = .fresh → station.driver.playerId = none
  loggedIn : station.driver.state = .loggedIn → ∃ id, station.driver.playerId = some id
  ids : ∀ id ∈ station.game.roster.ids, station.driver.playerId = some id
  sent : ∀ outgoing ∈ station.transport.sent, Frame.Carries (Event.Names assigned) outgoing.bytes

variable {assigned later : UInt32 → IPv4Endpoint → Prop} {address : IPv4Endpoint}
  {station after : Station Client}

theorem start_agrees (params : GameParams) (config : ClientConfig) (fails : Nat → Bool) :
    Agrees assigned config.clientAddress
      (GameLoop.start params ({ config } : Client) { fails }).toStation where
  clientAddress_eq := rfl
  playerId _ h := nomatch h
  fresh _ := rfl
  loggedIn h := nomatch h
  ids _ h := absurd h List.not_mem_nil
  sent _ h := absurd h List.not_mem_nil

theorem Agrees.mono (hlater : ∀ id endpoint, assigned id endpoint → later id endpoint)
    (h : Agrees assigned address station) : Agrees later address station where
  clientAddress_eq := h.clientAddress_eq
  playerId id hid := ⟨(h.playerId id hid).1, hlater _ _ (h.playerId id hid).2⟩
  fresh := h.fresh
  loggedIn := h.loggedIn
  ids := h.ids
  sent outgoing hmem := (h.sent outgoing hmem).mono fun _ hnames => hnames.mono hlater

theorem Agrees.tell (h : Agrees assigned address station) (note : Note) :
    Agrees assigned address (station.tell note) :=
  ⟨h.clientAddress_eq, h.playerId, h.fresh, h.loggedIn, h.ids, h.sent⟩

theorem Agrees.disconnect (h : Agrees assigned address station) :
    Agrees assigned address (Client.disconnect station) := by
  unfold Client.disconnect
  split_ifs
  · exact h
  · exact ⟨h.clientAddress_eq, h.playerId, nofun, nofun, h.ids, h.sent⟩

/-- A client in agreement asks only for what the server grants. -/
theorem Agrees.names_of_isRequest (h : Agrees assigned address station) {outgoing : Outgoing}
    (hrequest : IsRequest station.driver outgoing) :
    Frame.Carries (Event.Names assigned) outgoing.bytes := by
  cases hrequest with
  | login id => exact Frame.carries_login fun _ => trivial
  | ping hplayerId lastAckId id =>
    obtain ⟨hplayer, hassigned⟩ := h.playerId _ hplayerId
    exact Frame.carries_ping fun _ => ⟨hplayer, address, hassigned⟩

theorem Agrees.of_works (h : Agrees assigned address station) (hworks : Works station after) :
    Agrees assigned address after where
  clientAddress_eq := by rw [hworks.config_eq, h.clientAddress_eq]
  playerId := by
    rw [hworks.playerId_eq]
    exact h.playerId
  fresh := by
    rw [hworks.state_eq, hworks.playerId_eq]
    exact h.fresh
  loggedIn := by
    rw [hworks.state_eq, hworks.playerId_eq]
    exact h.loggedIn
  ids := by
    rw [hworks.ids_eq, hworks.playerId_eq]
    exact h.ids
  sent outgoing hmem := by
    rcases hworks.sent outgoing hmem with hold | hrequest
    · exact h.sent outgoing hold
    · exact h.names_of_isRequest hrequest

theorem enter_agrees (h : Agrees assigned address station)
    (hfresh : station.driver.state = .fresh) (now : Nat) {session : UInt32}
    (hsession : session ≠ noPlayer) (hassigned : assigned session address) :
    Agrees assigned address (enter now session station) := by
  -- a new client knows nobody, so the session is not taken
  have hnone := h.fresh hfresh
  have hnobody : ∀ id, id ∉ station.game.roster.ids := by
    intro id hmem
    have hid := h.ids id hmem
    rw [hnone] at hid
    cases hid
  rcases enter_cases now session station with ⟨htaken, -⟩ | ⟨-, roster, hplayers, henter⟩
  · exact absurd htaken (hnobody session)
  · rw [henter]
    refine ⟨h.clientAddress_eq, ?_, nofun, fun _ => ⟨session, rfl⟩, ?_, h.sent⟩
    · rintro id ⟨⟩
      exact ⟨hsession, hassigned⟩
    · intro id hmem
      change id ∈ roster.ids at hmem
      rw [Roster.ids, hplayers, List.map_append] at hmem
      rcases List.mem_append.mp hmem with hold | hnew
      · exact absurd hold (hnobody id)
      · exact congrArg some (List.mem_singleton.mp hnew).symm

theorem onLogin_agrees
    (hunique : ∀ id other, assigned id address → assigned other address → id = other)
    (h : Agrees assigned address station) (moment : Moment) {received : Received Login}
    (hgrants : (Event.login received).Grants assigned address) :
    Agrees assigned address (onLogin moment received station) := by
  unfold onLogin
  dsimp only
  by_cases hsession : received.envelope.payload.hasSession
  · have hassigned := hgrants hsession
    rw [if_neg (not_not.mpr hsession)]
    cases hstate : station.driver.state with
    | fresh => exact enter_agrees h hstate moment.now (bne_iff_ne.mp hsession) hassigned
    | loggedIn =>
      -- the session granted now is the one that the client has
      obtain ⟨id, hid⟩ := h.loggedIn hstate
      have hsame := hunique id _ (h.playerId id hid).2 hassigned
      dsimp only [registerRemote]
      rw [if_pos (by rw [hid, hsame])]
      exact h.tell _
    | disconnected => exact h.tell _
  · rw [if_pos hsession]
    exact h.tell _

theorem handle_agrees
    (hunique : ∀ id other, assigned id address → assigned other address → id = other)
    (h : Agrees assigned address station) (moment : Moment) {event : Event}
    (hgrants : event.Grants assigned address) :
    Agrees assigned address (station.handle moment event) := by
  have htold := h.tell (.handling event.action event.sender)
  cases event with
  | login received => exact onLogin_agrees hunique htold moment hgrants
  | ping received => exact htold.tell _
  | acknowledge received => exact htold.tell _

theorem onDatagram_agrees {loop : GameLoop Client} (h : Agrees assigned address loop.toStation)
    (datagram : Datagram) : Agrees assigned address (loop.onDatagram datagram).toStation := by
  rw [GameLoop.onDatagram_eq]
  exact ⟨h.clientAddress_eq, h.playerId, h.fresh, h.loggedIn, h.ids, h.sent⟩

theorem tick_agrees {loop : GameLoop Client}
    (hunique : ∀ id other, assigned id address → assigned other address → id = other)
    (h : Agrees assigned address loop.toStation)
    (hinbox : ∀ event ∈ loop.inbox, event.Grants assigned address) (now : Nat) :
    Agrees assigned address (loop.tick now).1.toStation := by
  have hcounted : Agrees assigned address loop.counted :=
    ⟨h.clientAddress_eq, h.playerId, h.fresh, h.loggedIn, h.ids, h.sent⟩
  have hhandled := Station.handleAll_induction (P := Agrees assigned address)
    (fun event hmem moment _ h => handle_agrees hunique h moment (hinbox event hmem)) now hcounted
  exact hhandled.of_works (onTick_works ..)

theorem Agrees.size_le_one (h : Agrees assigned address station) :
    station.game.roster.size ≤ 1 := by
  have hsub : station.game.roster.ids ⊆ station.driver.playerId.toList :=
    fun id hmem => Option.mem_toList.mpr (h.ids id hmem)
  have hlength := (station.game.roster.nodup_ids.subperm hsub).length_le
  rw [List.length_map] at hlength
  exact Nat.le_trans hlength Option.length_toList_le

end Client

end GridSession
