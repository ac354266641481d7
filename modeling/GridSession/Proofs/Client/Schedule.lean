import GridSession.Proofs.Client.Lifecycle
import GridSession.Proofs.Game.Unsent
import Mathlib.Data.List.Chain

namespace GridSession

namespace Client

/-- A tick of a run: its time, the client when the waiting events were handled, and what it then
tried to send, which is what it sends if no send fails. -/
structure Turn where
  now : Nat
  client : Client
  tried : List Outgoing

def Turn.ofStation (now : Nat) (station : Station Client) : Turn :=
  ⟨now, station.driver, (onTick ⟨now, 0⟩ { station with transport := {} }).1.transport.sent⟩

def turn (loop : GameLoop Client) (now : Nat) : Turn :=
  .ofStation now (Station.handleAll now loop.inbox loop.counted)

def turn? (loop : GameLoop Client) : Input → Option Turn
  | .tick now => some (turn loop now)
  | .datagram _ | .disconnect => none

def turns (loop : GameLoop Client) : List Input → List Turn
  | [] => []
  | input :: rest => (turn? loop input).toList ++ turns (step loop input) rest

def attempts (state : ClientState) (turns : List Turn) : List Turn :=
  turns.filter fun turn => decide (turn.client.state = state ∧ turn.tried ≠ [])

/-- There was no attempt yet, or the last one is at least the interval ago. -/
def Due (interval : Nat) (earlier : List Turn) (now : Nat) : Prop :=
  ∀ last ∈ earlier.getLast?, last.now + interval ≤ now

/-- Each attempt comes at least the interval after the one before it. -/
def Spaced (interval : Nat) (attempts : List Turn) : Prop :=
  attempts.IsChain fun earlier later => earlier.now + interval ≤ later.now

/-- The login with this number. It names no session, and the client's own address. -/
def numberedLogin (config : ClientConfig) (number : Nat) : Outgoing :=
  ⟨config.serverAddress, Frame.wrap (Envelope.ofPayload
    { session := noSession, returnTo := config.clientAddress : Login } (UInt32.ofNat number)).body⟩

/-- The ping with this number. It names the player, and no acknowledgment. -/
def numberedPing (config : ClientConfig) (id : UInt32) (number : Nat) : Outgoing :=
  ⟨config.serverAddress, Frame.wrap (Envelope.ofPayload
    { playerId := id, lastAckId := 0 : Ping } (UInt32.ofNat number)).body⟩

section Attempts

variable {state : ClientState} {turns : List Turn} {turn : Turn} {interval now : Nat}

theorem attempts_concat (hstate : turn.client.state = state) (htried : turn.tried ≠ []) :
    attempts state (turns ++ [turn]) = attempts state turns ++ [turn] := by
  simp [attempts, hstate, htried]

theorem attempts_concat_of_idle (htried : turn.tried = []) :
    attempts state (turns ++ [turn]) = attempts state turns := by
  simp [attempts, htried]

theorem attempts_concat_of_ne (hstate : turn.client.state ≠ state) :
    attempts state (turns ++ [turn]) = attempts state turns := by
  simp [attempts, hstate]

theorem isDue_iff (earlier : List Turn) (hinterval : 0 < interval) :
    isDue (earlier.getLast?.map Turn.now) now interval = true ↔ Due interval earlier now := by
  unfold isDue Due
  cases earlier.getLast? with
  | none => simp
  | some last =>
    simp only [Option.map_some, decide_eq_true_eq, Option.mem_def, Option.some.injEq,
      forall_eq']
    omega

theorem Spaced.concat {earlier : List Turn} (h : Spaced interval earlier)
    (hdue : Due interval earlier turn.now) : Spaced interval (earlier ++ [turn]) := by
  refine List.IsChain.append h (List.isChain_singleton _) fun last hlast later hlater => ?_
  obtain rfl : turn = later := by simpa using hlater
  exact hdue last hlast

theorem forall_getElem?_concat {P : Nat → Turn → Prop}
    (h : ∀ number turn, turns[number]? = some turn → P number turn) (hturn : P turns.length turn)
    (number : Nat) (other : Turn) (hother : (turns ++ [turn])[number]? = some other) :
    P number other := by
  rcases Nat.lt_or_ge number turns.length with hold | hnew
  · rw [List.getElem?_append_left hold] at hother
    exact h number other hother
  · rw [List.getElem?_append_right hnew, List.getElem?_singleton] at hother
    split_ifs at hother with hlast
    obtain rfl : turn = other := Option.some.inj hother
    obtain rfl : number = turns.length := by omega
    exact hturn

end Attempts

/-- What a client remembers of its attempts: when the last ones were and how many there were. The
pings are counted by its own player, which acknowledgments leave alone. -/
structure Tally (turns : List Turn) (station : Station Client) : Prop where
  lastLoginAttempt_eq :
    station.driver.lastLoginAttempt = (attempts .fresh turns).getLast?.map Turn.now
  loginAttempts_eq : station.driver.loginAttempts = UInt32.ofNat (attempts .fresh turns).length
  lastPing_eq : station.driver.lastPing = (attempts .loggedIn turns).getLast?.map Turn.now
  own : ∀ player ∈ station.game.roster.players, station.driver.playerId = some player.id →
    player.nextMessage = UInt32.ofNat (attempts .loggedIn turns).length ∧ player.ackCount = 0
  nobody : station.driver.playerId = none → attempts .loggedIn turns = []

variable {config : ClientConfig} {turns : List Turn} {station : Station Client}

section Tally

theorem Tally.tell (h : Tally turns station) (note : Note) : Tally turns (station.tell note) :=
  ⟨h.lastLoginAttempt_eq, h.loginAttempts_eq, h.lastPing_eq, h.own, h.nobody⟩

theorem Tally.idle (h : Tally turns station) {turn : Turn} (htried : turn.tried = []) :
    Tally (turns ++ [turn]) station := by
  obtain ⟨hlast, hcount, hping, hown, hnobody⟩ := h
  constructor <;> rw [attempts_concat_of_idle htried] <;> assumption

theorem enter_tally (h : Tally turns station) (hnobody : station.driver.playerId = none)
    (now : Nat) (session : UInt32) : Tally turns (enter now session station) := by
  rcases enter_cases now session station with ⟨-, henter⟩ | ⟨hnew, roster, hplayers, henter⟩
  · rw [henter]
    exact h.tell _
  · -- nobody pings before entering, so the new player counts from zero as the pings do
    have hpings : attempts .loggedIn turns = [] := h.nobody hnobody
    rw [henter]
    refine ⟨h.lastLoginAttempt_eq, h.loginAttempts_eq, h.lastPing_eq, fun player hmem hown => ?_,
      nofun⟩
    change player ∈ roster.players at hmem
    rw [hplayers] at hmem
    rcases List.mem_append.mp hmem with hold | hjoined
    · obtain rfl : session = player.id := Option.some.inj hown
      exact absurd (List.mem_map_of_mem hold) hnew
    · obtain rfl := List.mem_singleton.mp hjoined
      rw [hpings]
      exact ⟨rfl, rfl⟩

theorem registerRemote_tally (h : Tally turns station) (now : Nat) (session : UInt32) :
    Tally turns (registerRemote now session station) := by
  rcases registerRemote_cases now session station with
    ⟨-, hremote⟩ | ⟨-, -, hremote⟩ | ⟨hother, -, roster, hplayers, hremote⟩
  · rw [hremote]
    exact h.tell _
  · rw [hremote]
    exact h.tell _
  · rw [hremote]
    refine ⟨h.lastLoginAttempt_eq, h.loginAttempts_eq, h.lastPing_eq, fun player hmem hown => ?_,
      h.nobody⟩
    change player ∈ roster.players at hmem
    rw [hplayers] at hmem
    rcases List.mem_append.mp hmem with hold | hjoined
    · exact h.own player hold hown
    · obtain rfl := List.mem_singleton.mp hjoined
      exact absurd hown hother

theorem handle_tally (hinStep : InStep config station) (h : Tally turns station) (moment : Moment)
    (event : Event) : Tally turns (station.handle moment event) := by
  let told := station.tell (.handling event.action event.sender)
  have htold : Tally turns told := h.tell _
  cases event with
  | login received =>
    change Tally turns (onLogin moment received told)
    rcases onLogin_cases moment received told with
      ⟨-, hlogin⟩ | ⟨-, hfresh, hlogin⟩ | ⟨-, -, hlogin⟩ | ⟨-, -, hlogin⟩
    · rw [hlogin]
      exact htold.tell _
    · rw [hlogin]
      exact enter_tally htold (hinStep.fresh hfresh) ..
    · rw [hlogin]
      exact registerRemote_tally htold ..
    · rw [hlogin]
      exact htold.tell _
  | ping received => exact htold.tell _
  | acknowledge received => exact htold.tell _

theorem handleAll_tally (hinStep : InStep config station) (h : Tally turns station) (now : Nat)
    (events : List Event) : Tally turns (Station.handleAll now events station) := by
  have hboth : InStep config (Station.handleAll now events station)
      ∧ Tally turns (Station.handleAll now events station) := by
    refine Station.handleAll_induction (P := fun after => InStep config after ∧ Tally turns after)
      (fun event _ moment after hafter => ?_) now ⟨hinStep, h⟩
    exact ⟨(handle_inStep hafter.1 moment event).1, handle_tally hafter.1 hafter.2 moment event⟩
  exact hboth.2

theorem transport_disconnect (station : Station Client) :
    (disconnect station).transport = station.transport := by
  unfold disconnect
  split_ifs <;> rfl

theorem disconnect_tally (h : Tally turns station) : Tally turns (disconnect station) := by
  obtain ⟨hlast, hcount, hping, hown, hnobody⟩ := h
  unfold disconnect
  split_ifs <;> exact ⟨hlast, hcount, hping, hown, hnobody⟩

end Tally

section OnTick

theorem loginRequest_eq (hinStep : InStep config station) (h : Tally turns station) :
    station.driver.loginRequest = numberedLogin config (attempts .fresh turns).length := by
  rw [loginRequest, hinStep.config_eq, h.loginAttempts_eq]
  rfl

theorem pingRequest_eq (hinStep : InStep config station) (h : Tally turns station)
    {player : Player} (hmem : player ∈ station.game.roster.players)
    (hplayerId : station.driver.playerId = some player.id) :
    station.driver.pingRequest player
      = numberedPing config player.id (attempts .loggedIn turns).length := by
  obtain ⟨hnext, hacks⟩ := h.own player hmem hplayerId
  rw [pingRequest, nextPing, hinStep.config_eq, hnext, hacks]
  rfl

theorem onTick_of_fresh (h : Tally turns station) (hstate : station.driver.state = .fresh)
    (now : Nat) :
    (Due loginRetryInterval (attempts .fresh turns) now →
      (onTick ⟨now, 0⟩ station).1 = attemptLogin now station)
    ∧ (¬ Due loginRetryInterval (attempts .fresh turns) now →
      (onTick ⟨now, 0⟩ station).1 = station) := by
  simp only [onTick, hstate, tryLogin_eq, h.lastLoginAttempt_eq]
  rw [← isDue_iff _ (by decide)]
  exact ⟨fun hdue => if_pos hdue, fun hnot => if_neg hnot⟩

theorem onTick_of_loggedIn (h : Tally turns station) (hstate : station.driver.state = .loggedIn)
    {player : Player} (hmem : player ∈ station.game.roster.players)
    (hplayerId : station.driver.playerId = some player.id) (now : Nat) :
    (Due pingInterval (attempts .loggedIn turns) now →
      (onTick ⟨now, 0⟩ station).1 = attemptPing now player station)
    ∧ (¬ Due pingInterval (attempts .loggedIn turns) now →
      (onTick ⟨now, 0⟩ station).1 = station) := by
  simp only [onTick, hstate, tryPing_eq now hmem hplayerId, h.lastPing_eq]
  rw [← isDue_iff _ (by decide)]
  exact ⟨fun hdue => if_pos hdue, fun hnot => if_neg hnot⟩

/-- All that a tick can do after the waiting events: nothing, since nothing is due, or the next
login, or the next ping. -/
theorem onTick_turn_cases (hinStep : InStep config station) (h : Tally turns station) (now : Nat) :
    let logins := attempts .fresh turns
    let pings := attempts .loggedIn turns
    ((Turn.ofStation now station).tried = [] ∧ (onTick ⟨now, 0⟩ station).1 = station
      ∧ (station.driver.state = .fresh → ¬ Due loginRetryInterval logins now)
      ∧ (station.driver.state = .loggedIn → ¬ Due pingInterval pings now))
    ∨ (station.driver.state = .fresh ∧ Due loginRetryInterval logins now
      ∧ (Turn.ofStation now station).tried = [numberedLogin config logins.length]
      ∧ (onTick ⟨now, 0⟩ station).1 = attemptLogin now station)
    ∨ (station.driver.state = .loggedIn ∧ Due pingInterval pings now
      ∧ ∃ player ∈ station.game.roster.players, station.driver.playerId = some player.id
        ∧ (Turn.ofStation now station).tried = [numberedPing config player.id pings.length]
        ∧ (onTick ⟨now, 0⟩ station).1 = attemptPing now player station) := by
  intro logins pings
  -- the same client, all of whose sends work
  let working : Station Client := { station with transport := {} }
  have hworking : Tally turns working :=
    ⟨h.lastLoginAttempt_eq, h.loginAttempts_eq, h.lastPing_eq, h.own, h.nobody⟩
  have htried : (Turn.ofStation now station).tried
      = (onTick ⟨now, 0⟩ working).1.transport.sent := rfl
  cases hstate : station.driver.state with
  | fresh =>
    obtain ⟨hwhen, hunless⟩ := onTick_of_fresh h hstate now
    obtain ⟨hwhen', hunless'⟩ := onTick_of_fresh hworking hstate now
    by_cases hdue : Due loginRetryInterval logins now
    · refine .inr (.inl ⟨rfl, hdue, ?_, hwhen hdue⟩)
      rw [htried, hwhen' hdue, ← loginRequest_eq hinStep h]
      rfl
    · refine .inl ⟨?_, hunless hdue, fun _ => hdue, nofun⟩
      rw [htried, hunless' hdue]
  | loggedIn =>
    -- the own player was never lost, so a ping that is due has somebody to count it
    obtain ⟨id, hplayerId⟩ := hinStep.loggedIn hstate
    obtain ⟨-, player, hfound, -⟩ := hinStep.own id hplayerId
    obtain ⟨hmem, rfl⟩ := Roster.get?_eq_some_iff.mp hfound
    obtain ⟨hwhen, hunless⟩ := onTick_of_loggedIn h hstate hmem hplayerId now
    obtain ⟨hwhen', hunless'⟩ := onTick_of_loggedIn hworking hstate hmem hplayerId now
    by_cases hdue : Due pingInterval pings now
    · refine .inr (.inr ⟨rfl, hdue, player, hmem, hplayerId, ?_, hwhen hdue⟩)
      rw [htried, hwhen' hdue, transport_attemptPing, ← pingRequest_eq hinStep h hmem hplayerId]
      rfl
    · refine .inl ⟨?_, hunless hdue, nofun, fun _ => hdue⟩
      rw [htried, hunless' hdue]
  | disconnected =>
    have hnothing : ∀ station : Station Client, station.driver.state = .disconnected →
        (onTick ⟨now, 0⟩ station).1 = station := by
      intro station hstate
      simp only [onTick, hstate]
    refine .inl ⟨?_, hnothing station hstate, nofun, nofun⟩
    rw [htried, hnothing working hstate]

theorem attemptLogin_tally (h : Tally turns station) {turn : Turn}
    (hstate : turn.client.state = .fresh) (htried : turn.tried ≠ []) :
    Tally (turns ++ [turn]) (attemptLogin turn.now station) := by
  -- the turn is one more attempt of a new client, and none of one that is logged in
  have hlogins : attempts .fresh (turns ++ [turn]) = attempts .fresh turns ++ [turn] :=
    attempts_concat hstate htried
  have hpings : attempts .loggedIn (turns ++ [turn]) = attempts .loggedIn turns :=
    attempts_concat_of_ne (hstate ▸ nofun)
  refine ⟨?_, ?_, ?_, ?_, ?_⟩
  · rw [hlogins, List.getLast?_concat]
    rfl
  · rw [hlogins, List.length_append, UInt32.ofNat_add, ← h.loginAttempts_eq]
    rfl
  · rw [hpings]
    exact h.lastPing_eq
  · rw [hpings]
    exact h.own
  · rw [hpings]
    exact h.nobody

theorem attemptPing_tally (h : Tally turns station) {turn : Turn}
    (hstate : turn.client.state = .loggedIn) (htried : turn.tried ≠ []) {player : Player}
    (hmem : player ∈ station.game.roster.players)
    (hplayerId : station.driver.playerId = some player.id) :
    Tally (turns ++ [turn]) (attemptPing turn.now player station) := by
  have hlogins : attempts .fresh (turns ++ [turn]) = attempts .fresh turns :=
    attempts_concat_of_ne (hstate ▸ nofun)
  have hpings : attempts .loggedIn (turns ++ [turn]) = attempts .loggedIn turns ++ [turn] :=
    attempts_concat hstate htried
  refine ⟨?_, ?_, ?_, fun other hother hown => ?_, fun hnobody => ?_⟩
  · rw [hlogins]
    exact h.lastLoginAttempt_eq
  · rw [hlogins]
    exact h.loginAttempts_eq
  · rw [hpings, List.getLast?_concat]
    rfl
  · let pinged := (player.takeMessageId.2.sendTracked station.transport
      station.driver.config.serverAddress (nextPing player)).player
    obtain ⟨hid, -, hnext, hacks⟩ := Player.eq_of_unsent_eq (Player.unsent_sendTracked
      player.takeMessageId.2 station.transport station.driver.config.serverAddress
      (nextPing player))
    obtain ⟨hcount, hnone⟩ := h.own player hmem hplayerId
    have hsame : other.id = pinged.id :=
      (Option.some.inj (hown.symm.trans hplayerId)).trans hid.symm
    -- the own player is the one that was replaced
    obtain ⟨old, hold, hreplaced⟩ := List.mem_map.mp hother
    obtain rfl : other = pinged := by
      split_ifs at hreplaced with hcase
      · exact hreplaced.symm
      · exact absurd (hreplaced ▸ hsame) hcase
    rw [hpings, List.length_append, UInt32.ofNat_add, ← hcount]
    exact ⟨hnext, hacks.trans hnone⟩
  · cases hplayerId.symm.trans hnobody

end OnTick

/-- The attempts of a run keep to their intervals and are numbered. A client that has left tries
nothing. -/
structure Record (config : ClientConfig) (turns : List Turn) : Prop where
  logins_spaced : Spaced loginRetryInterval (attempts .fresh turns)
  pings_spaced : Spaced pingInterval (attempts .loggedIn turns)
  login_numbered : ∀ number turn, (attempts .fresh turns)[number]? = some turn →
    turn.tried = [numberedLogin config number]
  ping_numbered : ∀ number turn, (attempts .loggedIn turns)[number]? = some turn →
    ∃ id, turn.client.playerId = some id ∧ turn.tried = [numberedPing config id number]
  left : attempts .disconnected turns = []

section Record

variable {turn : Turn}

theorem Record.idle (h : Record config turns) (htried : turn.tried = []) :
    Record config (turns ++ [turn]) := by
  obtain ⟨hlogins, hpings, hlogin, hping, hleft⟩ := h
  constructor <;> rw [attempts_concat_of_idle htried] <;> assumption

theorem Record.login (h : Record config turns) (hstate : turn.client.state = .fresh)
    (hdue : Due loginRetryInterval (attempts .fresh turns) turn.now)
    (htried : turn.tried = [numberedLogin config (attempts .fresh turns).length]) :
    Record config (turns ++ [turn]) := by
  have hlogins : attempts .fresh (turns ++ [turn]) = attempts .fresh turns ++ [turn] :=
    attempts_concat hstate (by simp [htried])
  constructor
  · rw [hlogins]
    exact h.logins_spaced.concat hdue
  · rw [attempts_concat_of_ne (hstate ▸ nofun)]
    exact h.pings_spaced
  · rw [hlogins]
    exact forall_getElem?_concat h.login_numbered htried
  · rw [attempts_concat_of_ne (hstate ▸ nofun)]
    exact h.ping_numbered
  · rw [attempts_concat_of_ne (hstate ▸ nofun)]
    exact h.left

theorem Record.ping (h : Record config turns) (hstate : turn.client.state = .loggedIn)
    (hdue : Due pingInterval (attempts .loggedIn turns) turn.now) {id : UInt32}
    (hplayerId : turn.client.playerId = some id)
    (htried : turn.tried = [numberedPing config id (attempts .loggedIn turns).length]) :
    Record config (turns ++ [turn]) := by
  have hpings : attempts .loggedIn (turns ++ [turn]) = attempts .loggedIn turns ++ [turn] :=
    attempts_concat hstate (by simp [htried])
  constructor
  · rw [attempts_concat_of_ne (hstate ▸ nofun)]
    exact h.logins_spaced
  · rw [hpings]
    exact h.pings_spaced.concat hdue
  · rw [attempts_concat_of_ne (hstate ▸ nofun)]
    exact h.login_numbered
  · rw [hpings]
    exact forall_getElem?_concat h.ping_numbered ⟨id, hplayerId, htried⟩
  · rw [attempts_concat_of_ne (hstate ▸ nofun)]
    exact h.left

end Record

/-- A tick goes on with the record and with what the client remembers of it, and what it tried to
send is what its transport was given. -/
theorem onTick_record (hinStep : InStep config station) (h : Tally turns station)
    (hrecord : Record config turns) (now : Nat) :
    let turn := Turn.ofStation now station
    Tally (turns ++ [turn]) (onTick ⟨now, 0⟩ station).1 ∧ Record config (turns ++ [turn])
      ∧ (onTick ⟨now, 0⟩ station).1.transport = station.transport.sendAll turn.tried := by
  intro turn
  rcases onTick_turn_cases hinStep h now with
    ⟨htried, hafter, -⟩ | ⟨hstate, hdue, htried, hafter⟩
    | ⟨hstate, hdue, player, hmem, hplayerId, htried, hafter⟩
  · refine ⟨?_, hrecord.idle htried, ?_⟩
    · rw [hafter]
      exact h.idle htried
    · rw [htried, hafter]
      rfl
  · have hsome : turn.tried ≠ [] := htried ▸ List.cons_ne_nil _ _
    refine ⟨?_, hrecord.login hstate hdue htried, ?_⟩
    · rw [hafter]
      exact attemptLogin_tally h hstate hsome
    · rw [htried, hafter, ← loginRequest_eq hinStep h]
      rfl
  · have hsome : turn.tried ≠ [] := htried ▸ List.cons_ne_nil _ _
    refine ⟨?_, hrecord.ping hstate hdue hplayerId htried, ?_⟩
    · rw [hafter]
      exact attemptPing_tally h hstate hsome hmem hplayerId
    · rw [htried, hafter, transport_attemptPing, ← pingRequest_eq hinStep h hmem hplayerId]
      rfl

/-- After these ticks the client and its transport are where the ticks have brought them. -/
structure Paced (config : ClientConfig) (start : Transport) (turns : List Turn)
    (loop : GameLoop Client) : Prop where
  inStep : InStep config loop.toStation
  tally : Tally turns loop.toStation
  record : Record config turns
  transport_eq : loop.transport = start.sendAll (turns.flatMap Turn.tried)

section Run

variable {start : Transport} {loop : GameLoop Client}

theorem Paced.handled (h : Paced config start turns loop) (now : Nat) :
    InStep config (Station.handleAll now loop.inbox loop.counted)
      ∧ Tally turns (Station.handleAll now loop.inbox loop.counted) := by
  obtain ⟨hlast, hcount, hping, hown, hnobody⟩ := h.tally
  have hcounted : Tally turns loop.counted := ⟨hlast, hcount, hping, hown, hnobody⟩
  exact ⟨(handleAll_inStep h.inStep.counted now loop.inbox).1,
    handleAll_tally h.inStep.counted hcounted now loop.inbox⟩

theorem tick_paced (h : Paced config start turns loop) (now : Nat) :
    Paced config start (turns ++ [turn loop now]) (loop.tick now).1 := by
  obtain ⟨hinStep, htally⟩ := h.handled now
  obtain ⟨htally', hrecord, htransport⟩ := onTick_record hinStep htally h.record now
  refine ⟨(tick_inStep h.inStep now).1, htally', hrecord, ?_⟩
  rw [List.flatMap_append, List.flatMap_singleton, Transport.sendAll_append, ← h.transport_eq]
  rw [transport_handleAll] at htransport
  exact htransport

theorem step_paced (h : Paced config start turns loop) (input : Input) :
    Paced config start (turns ++ (turn? loop input).toList) (step loop input) := by
  cases input with
  | datagram datagram =>
    obtain ⟨hlast, hcount, hping, hown, hnobody⟩ := h.tally
    rw [turn?, Option.toList_none, List.append_nil]
    refine ⟨onDatagram_inStep h.inStep datagram, ?_, h.record, ?_⟩
    · rw [step, GameLoop.onDatagram_eq]
      exact ⟨hlast, hcount, hping, hown, hnobody⟩
    · rw [step, GameLoop.onDatagram_eq]
      exact h.transport_eq
  | tick now => exact tick_paced h now
  | disconnect =>
    rw [turn?, Option.toList_none, List.append_nil]
    refine ⟨disconnect_inStep h.inStep, disconnect_tally h.tally, h.record, ?_⟩
    rw [← h.transport_eq]
    exact transport_disconnect loop.toStation

theorem run_paced (h : Paced config start turns loop) (inputs : List Input) :
    Paced config start (turns ++ Client.turns loop inputs) (run loop inputs) := by
  -- the ticks before each input are carried along, since what is due depends on all of them
  induction inputs generalizing turns loop with
  | nil =>
    rw [Client.turns, List.append_nil]
    exact h
  | cons input rest ih =>
    rw [Client.turns, ← List.append_assoc]
    exact ih (step_paced h input)

theorem start_paced (params : GameParams) (config : ClientConfig) (fails : Nat → Bool) :
    Paced config { fails } [] (.start params { config } { fails }) := by
  refine ⟨start_inStep params config fails, ⟨rfl, rfl, rfl, nofun, fun _ => rfl⟩,
    ⟨List.isChain_nil, List.isChain_nil, nofun, nofun, rfl⟩, rfl⟩

/-- In every run of a new client the logins it tries, and so the pings, are at least their interval
apart and numbered from zero on. A login names no session and the client's own address, a ping the
client's own player and no acknowledgment. The next tick tries a login exactly if it finds the
client new and one is due, and a ping exactly if it finds the client logged in and one is due. What
the transport was given are these logins and pings, those whose sends failed among them. -/
theorem requests_on_schedule (params : GameParams) (config : ClientConfig) (fails : Nat → Bool)
    (inputs : List Input) :
    let start : GameLoop Client := .start params { config } { fails }
    let loop := run start inputs
    let turns := Client.turns start inputs
    let logins := attempts .fresh turns
    let pings := attempts .loggedIn turns
    Spaced loginRetryInterval logins
    ∧ (∀ number turn, logins[number]? = some turn → turn.tried = [numberedLogin config number])
    ∧ Spaced pingInterval pings
    ∧ (∀ number turn, pings[number]? = some turn →
      ∃ id, turn.client.playerId = some id ∧ turn.tried = [numberedPing config id number])
    ∧ (∀ turn ∈ turns, turn.client.state = .disconnected → turn.tried = [])
    ∧ (∀ now, let next := turn loop now
      (next.client.state = .fresh → (next.tried ≠ [] ↔ Due loginRetryInterval logins now))
      ∧ (next.client.state = .loggedIn → (next.tried ≠ [] ↔ Due pingInterval pings now)))
    ∧ loop.transport = start.transport.sendAll (turns.flatMap Turn.tried) := by
  intro start loop turns logins pings
  have hpaced : Paced config start.transport turns loop :=
    run_paced (start_paced params config fails) inputs
  obtain ⟨hlogins, hpings, hlogin, hping, hleft⟩ := hpaced.record
  refine ⟨hlogins, hlogin, hpings, hping, ?_, fun now => ?_, hpaced.transport_eq⟩
  · intro turn hmem hstate
    by_contra htried
    -- a turn that tried something would be an attempt, and a client that left makes none
    have hattempt : turn ∈ attempts .disconnected turns :=
      List.mem_filter.mpr ⟨hmem, decide_eq_true ⟨hstate, htried⟩⟩
    rw [hleft] at hattempt
    cases hattempt
  · intro next
    obtain ⟨hinStep, htally⟩ := hpaced.handled now
    -- what a turn tries tells which request was due, and so which state the client was in
    rcases onTick_turn_cases hinStep htally now with
      ⟨htried, -, hlogin, hping⟩ | ⟨hfresh, hdue, htried, -⟩
      | ⟨hloggedIn, hdue, player, -, -, htried, -⟩
    · exact ⟨fun hstate => iff_of_false (not_not.mpr htried) (hlogin hstate),
        fun hstate => iff_of_false (not_not.mpr htried) (hping hstate)⟩
    · have hsome : next.tried ≠ [] := htried ▸ List.cons_ne_nil _ _
      refine ⟨fun _ => iff_of_true hsome hdue, fun hstate => ?_⟩
      cases hfresh.symm.trans hstate
    · have hsome : next.tried ≠ [] := htried ▸ List.cons_ne_nil _ _
      refine ⟨fun hstate => ?_, fun _ => iff_of_true hsome hdue⟩
      cases hloggedIn.symm.trans hstate

/-- A clock that runs back delays the next login, and sends that fail do not. -/
example :
    let start : GameLoop Client := .start {} { config := default } { fails := fun _ => true }
    (attempts .fresh (Client.turns start
      [.tick 500000000, .tick 0, .tick 999999999, .tick 1000000000])).map Turn.now
      = [500000000, 1000000000] := by
  decide

end Run

end Client

end GridSession
