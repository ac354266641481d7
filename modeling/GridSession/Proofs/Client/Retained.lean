import GridSession.Proofs.Client.Schedule
import GridSession.Proofs.Player.Retained

namespace GridSession

def Outgoing.isPing (outgoing : Outgoing) : Bool :=
  outgoing.actionCode == Action.ping.code

namespace Client

/-- Goes through this player: the pings do if it is the client's own. -/
def sendsThrough (client : Client) (player : Player) (outgoing : Outgoing) : Bool :=
  decide (client.playerId = some player.id) && outgoing.isPing

/-- After these tries to send something, each player tracked what went through it, and without a
player there were no pings. -/
structure Tracks (fails : Nat → Bool) (tried : List Outgoing) (station : Station Client) :
    Prop where
  transport_eq : station.transport = ({ fails } : Transport).sendAll tried
  player : ∀ player ∈ station.game.roster.players,
    player.Tracks fails (Transport.numbered (station.driver.sendsThrough player) tried)
  nobody : station.driver.playerId = none → ∀ outgoing ∈ tried, outgoing.isPing = false

section SendsThrough

variable {client : Client} {player : Player} {tried : List Outgoing}

theorem numbered_of_other (h : client.playerId ≠ some player.id) (tried : List Outgoing) :
    Transport.numbered (client.sendsThrough player) tried = [] := by
  refine Transport.numbered_eq_nil fun outgoing _ => ?_
  rw [sendsThrough, decide_eq_false h, Bool.false_and]

theorem numbered_of_silent (h : ∀ outgoing ∈ tried, outgoing.isPing = false) (client : Client)
    (player : Player) : Transport.numbered (client.sendsThrough player) tried = [] := by
  refine Transport.numbered_eq_nil fun outgoing hmem => ?_
  rw [sendsThrough, h outgoing hmem, Bool.and_false]

theorem isPing_loginRequest (client : Client) : client.loginRequest.isPing = false := by
  rw [Outgoing.isPing, loginRequest, Outgoing.actionCode_wrap_body]
  rfl

theorem isPing_pingRequest (client : Client) (player : Player) :
    (client.pingRequest player).isPing = true := by
  rw [Outgoing.isPing, pingRequest, Outgoing.actionCode_wrap_body]
  rfl

end SendsThrough

section Handling

variable {config : ClientConfig} {fails : Nat → Bool} {tried : List Outgoing}
  {station after : Station Client}

theorem Tracks.congr (h : Tracks fails tried station)
    (htransport : after.transport = station.transport)
    (hroster : after.game.roster = station.game.roster)
    (hplayerId : after.driver.playerId = station.driver.playerId) : Tracks fails tried after := by
  obtain ⟨htried, hplayer, hnobody⟩ := h
  refine ⟨htransport.trans htried, fun player hmem => ?_, fun hnone => hnobody ?_⟩
  · unfold sendsThrough at hplayer ⊢
    rw [hplayerId]
    exact hplayer player (hroster ▸ hmem)
  · exact hplayerId ▸ hnone

theorem enter_tracks (h : Tracks fails tried station) (hnobody : station.driver.playerId = none)
    (now : Nat) (session : UInt32) : Tracks fails tried (enter now session station) := by
  rcases enter_cases now session station with ⟨-, henter⟩ | ⟨hnew, roster, hplayers, henter⟩
  · rw [henter]
    exact h.congr rfl rfl rfl
  · -- there were no pings yet, so nothing went through anybody
    rw [henter]
    refine ⟨h.transport_eq, fun player hmem => ?_, nofun⟩
    change player ∈ roster.players at hmem
    rw [hplayers] at hmem
    rw [numbered_of_silent (h.nobody hnobody)]
    rcases List.mem_append.mp hmem with hold | hjoined
    · have hplayer := h.player player hold
      rwa [numbered_of_silent (h.nobody hnobody)] at hplayer
    · rw [List.mem_singleton.mp hjoined]
      exact .joining ..

theorem registerRemote_tracks (h : Tracks fails tried station) (now : Nat) (session : UInt32) :
    Tracks fails tried (registerRemote now session station) := by
  rcases registerRemote_cases now session station with
    ⟨-, hremote⟩ | ⟨-, -, hremote⟩ | ⟨hother, -, roster, hplayers, hremote⟩
  · rw [hremote]
    exact h.congr rfl rfl rfl
  · rw [hremote]
    exact h.congr rfl rfl rfl
  · rw [hremote]
    refine ⟨h.transport_eq, fun player hmem => ?_, h.nobody⟩
    change player ∈ roster.players at hmem
    rw [hplayers] at hmem
    rcases List.mem_append.mp hmem with hold | hjoined
    · exact h.player player hold
    · obtain rfl := List.mem_singleton.mp hjoined
      -- nothing is sent through a player who is not the own one
      have hnothing : Transport.numbered (station.driver.sendsThrough (.joining session none now))
          tried = [] := numbered_of_other hother tried
      change Player.Tracks fails (Transport.numbered (station.driver.sendsThrough _) tried) _
      rw [hnothing]
      exact .joining ..

theorem handle_tracks (hinStep : InStep config station) (h : Tracks fails tried station)
    (moment : Moment) (event : Event) : Tracks fails tried (station.handle moment event) := by
  let told := station.tell (.handling event.action event.sender)
  have htold : Tracks fails tried told := h.congr rfl rfl rfl
  cases event with
  | login received =>
    change Tracks fails tried (onLogin moment received told)
    rcases onLogin_cases moment received told with
      ⟨-, hlogin⟩ | ⟨-, hfresh, hlogin⟩ | ⟨-, -, hlogin⟩ | ⟨-, -, hlogin⟩
    · rw [hlogin]
      exact htold.congr rfl rfl rfl
    · rw [hlogin]
      exact enter_tracks htold (hinStep.fresh hfresh) ..
    · rw [hlogin]
      exact registerRemote_tracks htold ..
    · rw [hlogin]
      exact htold.congr rfl rfl rfl
  | ping received => exact htold.congr rfl rfl rfl
  | acknowledge received => exact htold.congr rfl rfl rfl

theorem handleAll_tracks (hinStep : InStep config station) (h : Tracks fails tried station)
    (now : Nat) (events : List Event) :
    Tracks fails tried (Station.handleAll now events station) := by
  have hboth : InStep config (Station.handleAll now events station)
      ∧ Tracks fails tried (Station.handleAll now events station) := by
    refine Station.handleAll_induction
      (P := fun after => InStep config after ∧ Tracks fails tried after)
      (fun event _ moment after hafter => ?_) now ⟨hinStep, h⟩
    exact ⟨(handle_inStep hafter.1 moment event).1, handle_tracks hafter.1 hafter.2 moment event⟩
  exact hboth.2

theorem disconnect_tracks (h : Tracks fails tried station) :
    Tracks fails tried (disconnect station) := by
  unfold disconnect
  split_ifs
  · exact h
  · exact h.congr rfl rfl rfl

end Handling

section Attempts

variable {config : ClientConfig} {fails : Nat → Bool} {tried : List Outgoing}
  {station : Station Client}

theorem attemptLogin_tracks (h : Tracks fails tried station) (now : Nat) :
    Tracks fails (tried ++ [station.driver.loginRequest]) (attemptLogin now station) := by
  have hlogin := isPing_loginRequest station.driver
  refine ⟨?_, fun player hmem => ?_, fun hnone outgoing hmem => ?_⟩
  · rw [Transport.sendAll_append, ← h.transport_eq]
    rfl
  · have hkind : station.driver.sendsThrough player station.driver.loginRequest = false := by
      rw [sendsThrough, hlogin, Bool.and_false]
    have hplayer := h.player player hmem
    rw [← Transport.numbered_concat_of_not hkind] at hplayer
    exact hplayer
  · rcases List.mem_append.mp hmem with hold | hnew
    · exact h.nobody hnone outgoing hold
    · rwa [List.mem_singleton.mp hnew]

theorem attemptPing_tracks (h : Tracks fails tried station) (now : Nat) {player : Player}
    (hmem : player ∈ station.game.roster.players)
    (hplayerId : station.driver.playerId = some player.id) :
    Tracks fails (tried ++ [station.driver.pingRequest player])
      (attemptPing now player station) := by
  let request := station.driver.pingRequest player
  let pinged := (player.takeMessageId.2.sendTracked station.transport
    station.driver.config.serverAddress (nextPing player)).player
  have hid : pinged.id = player.id := congrArg Session.id (Player.session_sendTracked ..)
  refine ⟨?_, fun other hother => ?_, fun hnone => ?_⟩
  · rw [Transport.sendAll_append, ← h.transport_eq, transport_attemptPing]
    rfl
  · change Player.Tracks fails (Transport.numbered (station.driver.sendsThrough other) _) other
    obtain ⟨old, hold, hreplaced⟩ := List.mem_map.mp hother
    by_cases hsame : old.id = pinged.id
    · -- the player pinged through has one more try, under the next number
      obtain rfl : pinged = other := (if_pos hsame).symm.trans hreplaced
      have hkind : station.driver.sendsThrough player request = true := by
        rw [sendsThrough, decide_eq_true hplayerId, isPing_pingRequest, Bool.and_true]
      have hattempts : station.transport.attempts = tried.length := by
        rw [h.transport_eq, Transport.attempts_sendAll]
        exact Nat.zero_add _
      have hfails : station.transport.fails = fails := by
        rw [h.transport_eq, Transport.fails_sendAll]
      have hplayer := h.player player hmem
      rw [show station.driver.sendsThrough pinged = station.driver.sendsThrough player by
        unfold sendsThrough; rw [hid]]
      rw [Transport.numbered_concat hkind, ← hattempts, ← hfails]
      rw [← hfails] at hplayer
      exact hplayer.sendTracked rfl
    · -- nobody else has
      obtain rfl : old = other := (if_neg hsame).symm.trans hreplaced
      have hkind : station.driver.sendsThrough old request = false := by
        rw [sendsThrough, decide_eq_false fun hown => hsame ?_, Bool.false_and]
        rw [hid]
        exact Option.some.inj (hown.symm.trans hplayerId)
      rw [Transport.numbered_concat_of_not hkind]
      exact h.player old hold
  · cases hplayerId.symm.trans hnone

end Attempts

section Run

variable {config : ClientConfig} {fails : Nat → Bool} {turns : List Turn}
  {station : Station Client} {loop : GameLoop Client}

theorem onTick_tracks (hinStep : InStep config station) (htally : Tally turns station)
    (h : Tracks fails (turns.flatMap Turn.tried) station) (now : Nat) :
    Tracks fails ((turns ++ [Turn.ofStation now station]).flatMap Turn.tried)
      (onTick ⟨now, 0⟩ station).1 := by
  rw [List.flatMap_append, List.flatMap_singleton]
  rcases onTick_turn_cases hinStep htally now with
    ⟨htried, hafter, -⟩ | ⟨-, -, htried, hafter⟩
    | ⟨-, -, player, hmem, hplayerId, htried, hafter⟩
  · rw [htried, hafter, List.append_nil]
    exact h
  · rw [htried, hafter, ← loginRequest_eq hinStep htally]
    exact attemptLogin_tracks h now
  · rw [htried, hafter, ← pingRequest_eq hinStep htally hmem hplayerId]
    exact attemptPing_tracks h now hmem hplayerId

theorem step_tracks {start : Transport} (hpaced : Paced config start turns loop)
    (h : Tracks fails (turns.flatMap Turn.tried) loop.toStation) (input : Input) :
    Tracks fails ((turns ++ (turn? loop input).toList).flatMap Turn.tried)
      (step loop input).toStation := by
  cases input with
  | datagram datagram =>
    rw [turn?, Option.toList_none, List.append_nil, step, GameLoop.onDatagram_eq]
    exact h.congr rfl rfl rfl
  | tick now =>
    obtain ⟨hinStep, htally⟩ := hpaced.handled now
    have hcounted : Tracks fails (turns.flatMap Turn.tried) loop.counted := h.congr rfl rfl rfl
    exact onTick_tracks hinStep htally
      (handleAll_tracks hpaced.inStep.counted hcounted now loop.inbox) now
  | disconnect =>
    rw [turn?, Option.toList_none, List.append_nil]
    exact disconnect_tracks h

theorem run_tracks {start : Transport} (hpaced : Paced config start turns loop)
    (h : Tracks fails (turns.flatMap Turn.tried) loop.toStation) (inputs : List Input) :
    Tracks fails ((turns ++ Client.turns loop inputs).flatMap Turn.tried)
      (run loop inputs).toStation := by
  induction inputs generalizing turns loop with
  | nil =>
    rw [Client.turns, List.append_nil]
    exact h
  | cons input rest ih =>
    rw [Client.turns, ← List.append_assoc]
    exact ih (step_paced hpaced input) (step_tracks hpaced h input)

theorem start_tracks (params : GameParams) (config : ClientConfig) (fails : Nat → Bool) :
    Tracks fails [] (GameLoop.start params { config : Client } { fails }).toStation :=
  ⟨rfl, nofun, nofun⟩

end Run

end Client

end GridSession
