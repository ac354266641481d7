import GridSession.Proofs.Client.Lifecycle
import Mathlib.Data.List.Nodup

namespace GridSession

theorem eraseDups_concat {α : Type} [BEq α] [LawfulBEq α] [DecidableEq α] (l : List α) (a : α) :
    (l ++ [a]).eraseDups = if a ∈ l then l.eraseDups else l.eraseDups ++ [a] := by
  rw [List.eraseDups_append]
  split_ifs with hmem
  · simp [List.removeAll, hmem]
  · simp [List.removeAll, hmem, List.eraseDups_cons]

/-- Who is in the table after a player was put back under its session was there under its own, and
is the same unless it is that player. -/
theorem Roster.exists_of_mem_replace {roster : Roster} {own pinged player : Player}
    (hmem : own ∈ roster.players) (hsession : pinged.session = own.session)
    (hplayer : player ∈ (roster.replace pinged).players) :
    ∃ old ∈ roster.players, player.session = old.session ∧ (player.id ≠ own.id → player = old) := by
  have hid : pinged.id = own.id := congrArg Session.id hsession
  obtain ⟨old, hold, hreplaced⟩ := List.mem_map.mp hplayer
  by_cases hsame : old.id = pinged.id
  · obtain rfl : pinged = player := (if_pos hsame).symm.trans hreplaced
    exact ⟨own, hmem, hsession, fun hne => absurd hid hne⟩
  · obtain rfl : old = player := (if_neg hsame).symm.trans hreplaced
    exact ⟨old, hold, rfl, fun _ => rfl⟩

def Event.told? : Event → Option UInt32
  | login received =>
    if received.envelope.payload.session = noSession then none
    else some received.envelope.payload.session
  | ping _ | acknowledge _ => none

namespace Client

def tellings (handled : List (Nat × Event)) : List (Nat × UInt32) :=
  handled.filterMap fun timed => timed.2.told?.map (timed.1, ·)

theorem tellings_append (handled later : List (Nat × Event)) :
    tellings (handled ++ later) = tellings handled ++ tellings later :=
  List.filterMap_append

theorem tellings_singleton (now : Nat) (event : Event) :
    tellings [(now, event)] = (event.told?.map (now, ·)).toList := by
  cases htold : event.told? <;> simp [tellings, htold]

/-- The events that ticks hand over before the client leaves, each with the time of its tick. At
first these events wait. -/
def handledBeforeLeaving (waiting : List Event) : List Input → List (Nat × Event)
  | [] => []
  | .datagram arrived :: rest =>
    handledBeforeLeaving (waiting ++ (Event.decoded? arrived).toList) rest
  | .tick now :: rest => waiting.map (now, ·) ++ handledBeforeLeaving [] rest
  | .disconnect :: _ => []

/-- The table has exactly the sessions that the client was told of, in the order in which it was
first told. The first one is its own. Of any other it knows the id and when it was told. -/
structure Knows (config : ClientConfig) (told : List (Nat × UInt32)) (station : Station Client) :
    Prop where
  ids_eq : station.game.roster.ids = (told.map Prod.snd).eraseDups
  playerId_eq : station.driver.playerId = told.head?.map Prod.snd
  first : ∀ player ∈ station.game.roster.players,
    told.find? (·.2 == player.id) = some (player.connectedAt, player.id)
  own : ∀ player ∈ station.game.roster.players, station.driver.playerId = some player.id →
    player.endpoint = some (.v4 config.clientAddress)
  remote : ∀ player ∈ station.game.roster.players, station.driver.playerId ≠ some player.id →
    player = .joining player.id none player.connectedAt
  not_taken : ∀ session, .sessionTaken session ∉ station.journal

variable {config : ClientConfig} {told : List (Nat × UInt32)} {station after : Station Client}

namespace Knows

theorem mem_ids_iff (h : Knows config told station) {id : UInt32} :
    id ∈ station.game.roster.ids ↔ id ∈ told.map Prod.snd := by
  rw [h.ids_eq, List.mem_eraseDups]

theorem congr (h : Knows config told station) (hroster : after.game.roster = station.game.roster)
    (hplayerId : after.driver.playerId = station.driver.playerId)
    (hjournal : ∀ session, .sessionTaken session ∉ after.journal) : Knows config told after := by
  obtain ⟨hids, hid, hfirst, hown, hremote, -⟩ := h
  rw [← hroster] at hids hfirst hown hremote
  rw [← hplayerId] at hid hown hremote
  exact ⟨hids, hid, hfirst, hown, hremote, hjournal⟩

theorem tell (h : Knows config told station) {note : Note}
    (hnote : ∀ session, note ≠ .sessionTaken session) : Knows config told (station.tell note) := by
  refine h.congr rfl rfl fun session hmem => ?_
  rcases List.mem_append.mp hmem with hold | hnew
  · exact h.not_taken session hold
  · exact hnote session (List.mem_singleton.mp hnew).symm

theorem players_eq_nil (h : Knows config told station) (hnone : station.driver.playerId = none) :
    told = [] ∧ station.game.roster.players = [] := by
  have htold : told = [] := by
    rw [h.playerId_eq, Option.map_eq_none_iff] at hnone
    exact List.head?_eq_none_iff.mp hnone
  have hids : station.game.roster.ids = [] := by
    rw [h.ids_eq, htold]
    rfl
  exact ⟨htold, List.map_eq_nil_iff.mp hids⟩

theorem again (h : Knows config told station) {id : UInt32} (hknown : id ∈ station.game.roster.ids)
    (now : Nat) : Knows config (told ++ [(now, id)]) station := by
  have hmem := h.mem_ids_iff.mp hknown
  have hne : told ≠ [] := by
    rintro rfl
    cases hmem
  refine ⟨?_, ?_, fun player hplayer => ?_, h.own, h.remote, h.not_taken⟩
  · rw [List.map_append, List.map_singleton, eraseDups_concat, if_pos hmem, h.ids_eq]
  · rw [h.playerId_eq, List.head?_append_of_ne_nil _ hne]
  · rw [List.find?_append, h.first player hplayer, Option.some_or]

theorem joined (h : Knows config told station) {now : Nat} {player : Player} {roster : Roster}
    (hplayers : roster.players = station.game.roster.players ++ [player])
    (hnew : player.id ∉ station.game.roster.ids) (htime : player.connectedAt = now) :
    roster.ids = ((told ++ [(now, player.id)]).map Prod.snd).eraseDups
    ∧ ∀ other ∈ roster.players, (told ++ [(now, player.id)]).find? (·.2 == other.id)
      = some (other.connectedAt, other.id) := by
  have hunheard : player.id ∉ told.map Prod.snd := mt h.mem_ids_iff.mpr hnew
  constructor
  · rw [List.map_append, List.map_singleton, eraseDups_concat, if_neg hunheard, ← h.ids_eq,
      Roster.ids, hplayers, List.map_append]
    rfl
  · intro other hmem
    rw [hplayers] at hmem
    rw [List.find?_append]
    rcases List.mem_append.mp hmem with hold | hlast
    · rw [h.first other hold, Option.some_or]
    · obtain rfl := List.mem_singleton.mp hlast
      have hnone : told.find? (·.2 == other.id) = none := by
        rw [List.find?_eq_none]
        intro telling htelling hsame
        exact hunheard (List.mem_map.mpr ⟨telling, htelling, by simpa using hsame⟩)
      simp [hnone, htime]

theorem replace (h : Knows config told station) {own pinged : Player}
    (hmem : own ∈ station.game.roster.players)
    (hplayerId : station.driver.playerId = some own.id) (hsession : pinged.session = own.session) :
    Knows config told
      { station with
        game := { station.game with roster := station.game.roster.replace pinged } } := by
  -- a player who changes keeps its session, and only the own one changes
  have hold : ∀ player ∈ (station.game.roster.replace pinged).players,
      ∃ old ∈ station.game.roster.players, player.session = old.session
        ∧ (player.id ≠ own.id → player = old) :=
    fun _ => Roster.exists_of_mem_replace hmem hsession
  refine ⟨(Roster.ids_replace ..).trans h.ids_eq, h.playerId_eq, fun player hplayer => ?_,
    fun player hplayer hown => ?_, fun player hplayer hnot => ?_, h.not_taken⟩
  · obtain ⟨old, hmem', hsame, -⟩ := hold player hplayer
    rw [show player.id = old.id from congrArg Session.id hsame,
      show player.connectedAt = old.connectedAt from congrArg Session.connectedAt hsame]
    exact h.first old hmem'
  · obtain ⟨old, hmem', hsame, -⟩ := hold player hplayer
    rw [show player.id = old.id from congrArg Session.id hsame] at hown
    rw [show player.endpoint = old.endpoint from congrArg Session.endpoint hsame]
    exact h.own old hmem' hown
  · obtain ⟨old, hmem', -, hkept⟩ := hold player hplayer
    obtain rfl := hkept fun hid => hnot (hid ▸ hplayerId)
    exact h.remote player hmem' hnot

end Knows

section Handling

theorem enter_knows (hinStep : InStep config station) (h : Knows config told station)
    (hfresh : station.driver.state = .fresh) (now : Nat) (session : UInt32) :
    Knows config (told ++ [(now, session)]) (enter now session station) := by
  -- a new client was told nothing yet, so what it enters with is its whole table
  obtain ⟨rfl, hnobody⟩ := h.players_eq_nil (hinStep.fresh hfresh)
  rcases enter_cases now session station with ⟨htaken, -⟩ | ⟨hnew, roster, hplayers, henter⟩
  · rw [Roster.ids, hnobody] at htaken
    cases htaken
  · let own := Player.joining session (some (.v4 station.driver.config.clientAddress)) now
    have honly : ∀ player ∈ roster.players, player = own := by
      intro player hmem
      rw [hplayers, hnobody] at hmem
      exact List.mem_singleton.mp hmem
    obtain ⟨hids, hfirst⟩ := h.joined hplayers hnew rfl
    have hentered : Knows config ([] ++ [(now, session)])
        { station with
          game := { station.game with roster }
          driver := { station.driver with state := .loggedIn, playerId := some session } } := by
      refine ⟨hids, rfl, hfirst, fun player hmem _ => ?_, fun player hmem hother => ?_,
        h.not_taken⟩
      · rw [honly player hmem, ← hinStep.config_eq]
        rfl
      · rw [honly player hmem] at hother
        exact absurd rfl hother
    rw [henter]
    refine hentered.tell fun other hsame => ?_
    cases hsame

theorem registerRemote_knows (hinStep : InStep config station) (h : Knows config told station)
    (hloggedIn : station.driver.state = .loggedIn) (now : Nat) (session : UInt32) :
    Knows config (told ++ [(now, session)]) (registerRemote now session station) := by
  rcases registerRemote_cases now session station with
    ⟨hown, hremote⟩ | ⟨-, htaken, hremote⟩ | ⟨hother, hnew, roster, hplayers, hremote⟩
  · obtain ⟨-, player, hfound, -⟩ := hinStep.own session hown
    obtain ⟨hmem, rfl⟩ := Roster.get?_eq_some_iff.mp hfound
    rw [hremote]
    exact (h.again (List.mem_map_of_mem hmem) now).tell nofun
  · rw [hremote]
    exact (h.again htaken now).tell nofun
  · obtain ⟨id, hid⟩ := hinStep.loggedIn hloggedIn
    -- the own session was told first, so it stays at the head
    have hne : told ≠ [] := by
      rintro rfl
      cases h.playerId_eq.symm.trans hid
    obtain ⟨hids, hfirst⟩ := h.joined hplayers hnew rfl
    have hregistered : Knows config (told ++ [(now, session)])
        { station with game := { station.game with roster } } := by
      refine ⟨hids, ?_, hfirst, fun player hmem hown => ?_, fun player hmem hnot => ?_,
        h.not_taken⟩
      · rw [List.head?_append_of_ne_nil _ hne, ← h.playerId_eq]
      · rw [hplayers] at hmem
        rcases List.mem_append.mp hmem with hold | hlast
        · exact h.own player hold hown
        · rw [List.mem_singleton.mp hlast] at hown
          exact absurd hown hother
      · rw [hplayers] at hmem
        rcases List.mem_append.mp hmem with hold | hlast
        · exact h.remote player hold hnot
        · rw [List.mem_singleton.mp hlast]
          rfl
    rw [hremote]
    exact hregistered.tell nofun

theorem handle_knows (hinStep : InStep config station) (h : Knows config told station)
    (hstays : station.driver.state ≠ .disconnected) (moment : Moment) (event : Event) :
    Knows config (told ++ tellings [(moment.now, event)]) (station.handle moment event) := by
  let noted := station.tell (.handling event.action event.sender)
  have hnoted : Knows config told noted := h.tell nofun
  have hinStep' : InStep config noted := hinStep.tell nofun
  rw [tellings_singleton]
  cases event with
  | ping received =>
    change Knows config (told ++ []) (onPing moment received noted)
    rw [List.append_nil]
    exact hnoted.tell nofun
  | acknowledge received =>
    change Knows config (told ++ []) (onAcknowledge moment received noted)
    rw [List.append_nil]
    exact hnoted.tell nofun
  | login received =>
    change Knows config _ (onLogin moment received noted)
    rcases onLogin_cases moment received noted with
      ⟨hnone, hlogin⟩ | ⟨hsession, hfresh, hlogin⟩ | ⟨hsession, hloggedIn, hlogin⟩ | ⟨-, hleft, -⟩
    · have hignored : Knows config told (onLogin moment received noted) := by
        rw [hlogin]
        exact hnoted.tell nofun
      simpa [Event.told?, hnone] using hignored
    · rw [hlogin, Event.told?, if_neg hsession]
      exact enter_knows hinStep' hnoted hfresh ..
    · rw [hlogin, Event.told?, if_neg hsession]
      exact registerRemote_knows hinStep' hnoted hloggedIn ..
    · exact absurd hleft hstays

theorem handle_of_left (h : Knows config told station)
    (hleft : station.driver.state = .disconnected) (moment : Moment) (event : Event) :
    (station.handle moment event).driver.state = .disconnected
    ∧ Knows config told (station.handle moment event) := by
  let noted := station.tell (.handling event.action event.sender)
  have hnoted : Knows config told noted := h.tell nofun
  cases event with
  | ping received => exact ⟨hleft, hnoted.tell nofun⟩
  | acknowledge received => exact ⟨hleft, hnoted.tell nofun⟩
  | login received =>
    change (onLogin moment received noted).driver.state = _
      ∧ Knows config told (onLogin moment received noted)
    rcases onLogin_cases moment received noted with
      ⟨-, hlogin⟩ | ⟨-, hstate, -⟩ | ⟨-, hstate, -⟩ | ⟨-, -, hlogin⟩
    · rw [hlogin]
      exact ⟨hleft, hnoted.tell nofun⟩
    · cases hleft.symm.trans hstate
    · cases hleft.symm.trans hstate
    · rw [hlogin]
      exact ⟨hleft, hnoted.tell nofun⟩

theorem players_isPrefix_enter (now : Nat) (session : UInt32) (station : Station Client) :
    station.game.roster.players <+: (enter now session station).game.roster.players := by
  rcases enter_cases now session station with ⟨-, henter⟩ | ⟨-, roster, hplayers, henter⟩
  · rw [henter]
    exact List.prefix_rfl
  · rw [henter]
    exact ⟨_, hplayers.symm⟩

theorem players_isPrefix_registerRemote (now : Nat) (session : UInt32) (station : Station Client) :
    station.game.roster.players <+: (registerRemote now session station).game.roster.players := by
  rcases registerRemote_cases now session station with
    ⟨-, hremote⟩ | ⟨-, -, hremote⟩ | ⟨-, -, roster, hplayers, hremote⟩
  · rw [hremote]
    exact List.prefix_rfl
  · rw [hremote]
    exact List.prefix_rfl
  · rw [hremote]
    exact ⟨_, hplayers.symm⟩

/-- No event changes anybody who is in the table. -/
theorem players_isPrefix_handle (moment : Moment) (event : Event) (station : Station Client) :
    station.game.roster.players <+: (station.handle moment event).game.roster.players := by
  let noted := station.tell (.handling event.action event.sender)
  cases event with
  | ping received => exact List.prefix_rfl
  | acknowledge received => exact List.prefix_rfl
  | login received =>
    change noted.game.roster.players <+: (onLogin moment received noted).game.roster.players
    rcases onLogin_cases moment received noted with
      ⟨-, hlogin⟩ | ⟨-, -, hlogin⟩ | ⟨-, -, hlogin⟩ | ⟨-, -, hlogin⟩
    · rw [hlogin]
      exact List.prefix_rfl
    · rw [hlogin]
      exact players_isPrefix_enter ..
    · rw [hlogin]
      exact players_isPrefix_registerRemote ..
    · rw [hlogin]
      exact List.prefix_rfl

theorem Advances.not_left {before after : Client} (h : Advances before after)
    (hstays : before.state ≠ .disconnected) : after.state ≠ .disconnected := by
  cases h with
  | stays hstate =>
    rw [hstate]
    exact hstays
  | enters _ _ hafter =>
    rw [hafter.1]
    nofun

theorem Follows.left {before after : Client} (h : Follows before after)
    (hleft : before.state = .disconnected) : after.state = .disconnected := by
  have hrank := h.rank_le
  rw [hleft] at hrank
  cases hafter : after.state with
  | disconnected => rfl
  | fresh | loggedIn =>
    rw [hafter] at hrank
    exact absurd hrank (by decide)

theorem handleAll_knows (hinStep : InStep config station) (h : Knows config told station)
    (hstays : station.driver.state ≠ .disconnected) (now : Nat) (events : List Event) :
    Knows config (told ++ tellings (events.map (now, ·)))
      (Station.handleAll now events station) := by
  let P (earlier : List (Nat × Event)) (after : Station Client) : Prop :=
    InStep config after ∧ after.driver.state ≠ .disconnected
      ∧ Knows config (told ++ tellings earlier) after
  have hstart : P [] station := ⟨hinStep, hstays, by simpa [tellings] using h⟩
  have hall : P ([] ++ events.map (now, ·)) (Station.handleAll now events station) := by
    refine Station.handleAll_history (fun earlier moment event after hafter => ?_) now events hstart
    obtain ⟨hinStep, hstays, hknows⟩ := hafter
    obtain ⟨hinStep', hadvances⟩ := handle_inStep hinStep moment event
    refine ⟨hinStep', hadvances.not_left hstays, ?_⟩
    rw [tellings_append, ← List.append_assoc]
    exact handle_knows hinStep hknows hstays moment event
  exact hall.2.2

theorem handleAll_of_left (h : Knows config told station)
    (hleft : station.driver.state = .disconnected) (now : Nat) (events : List Event) :
    (Station.handleAll now events station).driver.state = .disconnected
    ∧ Knows config told (Station.handleAll now events station) :=
  Station.handleAll_induction
    (P := fun after => after.driver.state = .disconnected ∧ Knows config told after)
    (fun event _ moment _ hafter => handle_of_left hafter.2 hafter.1 moment event) now ⟨hleft, h⟩

end Handling

section OnTick

theorem attemptPing_knows (h : Knows config told station) (now : Nat) {player : Player}
    (hmem : player ∈ station.game.roster.players)
    (hplayerId : station.driver.playerId = some player.id) :
    Knows config told (attemptPing now player station) := by
  let target := station.driver.config.serverAddress
  let delivery := player.takeMessageId.2.sendTracked station.transport target (nextPing player)
  have hsession : delivery.player.session = player.session := Player.session_sendTracked ..
  have hpinged : Knows config told
      { station with
        game := { station.game with roster := station.game.roster.replace delivery.player }
        driver := { station.driver with lastPing := some now }
        transport := delivery.transport } :=
    (h.replace hmem hplayerId hsession).congr rfl rfl h.not_taken
  refine hpinged.tell fun session => ?_
  rcases Player.note_sendTracked player.takeMessageId.2 station.transport target
    (nextPing player) with hnote | ⟨error, hnote⟩
  · rw [hnote]
    nofun
  · rw [hnote]
    nofun

theorem attemptLogin_knows (h : Knows config told station) (now : Nat) :
    Knows config told (attemptLogin now station) := by
  let result := (station.transport.send station.driver.loginRequest).1
  have hcounted : Knows config told
      { station with
        transport := (station.transport.send station.driver.loginRequest).2
        driver := { station.driver with
          lastLoginAttempt := some now, loginAttempts := station.driver.loginAttempts + 1 } } :=
    h.congr rfl rfl h.not_taken
  have hnote : ∀ session, station.driver.loginNote result ≠ .sessionTaken session := by
    intro session
    cases result with
    | ok => nofun
    | error error => nofun
  exact hcounted.tell hnote

theorem onTick_knows (hinStep : InStep config station) (h : Knows config told station)
    (moment : Moment) : Knows config told (onTick moment station).1 := by
  rcases onTick_cases hinStep moment with hwork | ⟨-, hwork⟩ | ⟨-, player, hmem, hplayerId, hwork⟩
  · rw [hwork]
    exact h
  · rw [hwork]
    exact attemptLogin_knows h moment.now
  · rw [hwork]
    exact attemptPing_knows h moment.now hmem hplayerId

theorem disconnect_knows (h : Knows config told station) :
    Knows config told (disconnect station) := by
  unfold disconnect
  split_ifs
  · exact h
  · have hleft : Knows config told
        { station with driver := { station.driver with state := .disconnected } } :=
      h.congr rfl rfl h.not_taken
    exact hleft.tell nofun

end OnTick

section Run

variable {loop : GameLoop Client}

theorem start_knows (params : GameParams) (config : ClientConfig) (fails : Nat → Bool) :
    Knows config [] (GameLoop.start params ({ config } : Client) { fails }).toStation where
  ids_eq := rfl
  playerId_eq := rfl
  first _ hmem := absurd hmem List.not_mem_nil
  own _ hmem := absurd hmem List.not_mem_nil
  remote _ hmem := absurd hmem List.not_mem_nil
  not_taken _ := List.not_mem_nil

theorem Knows.counted (h : Knows config told loop.toStation) : Knows config told loop.counted :=
  h.congr rfl rfl h.not_taken

theorem onDatagram_knows (h : Knows config told loop.toStation) (datagram : Datagram) :
    Knows config told (loop.onDatagram datagram).toStation := by
  rw [GameLoop.onDatagram_eq]
  refine h.congr rfl rfl fun session hmem => ?_
  rcases List.mem_append.mp hmem with hold | hnew
  · exact h.not_taken session hold
  · rcases GameLoop.mem_arrivalNotes hnew with
      ⟨error, hnote⟩ | ⟨message, hnote⟩ | hnote | ⟨action, error, hnote⟩
    · cases hnote
    · cases hnote
    · cases hnote
    · cases hnote

theorem tick_knows (hinStep : InStep config loop.toStation) (h : Knows config told loop.toStation)
    (hstays : loop.driver.state ≠ .disconnected) (now : Nat) :
    Knows config (told ++ tellings (loop.inbox.map (now, ·))) (loop.tick now).1.toStation := by
  have hhandled := handleAll_knows hinStep.counted h.counted hstays now loop.inbox
  exact onTick_knows (handleAll_inStep hinStep.counted now loop.inbox).1 hhandled ⟨now, 0⟩

/-- Who has left learns of nobody, whatever happens. -/
theorem run_of_left (hinStep : InStep config loop.toStation)
    (hleft : loop.driver.state = .disconnected) (h : Knows config told loop.toStation)
    (inputs : List Input) : Knows config told (run loop inputs).toStation := by
  -- a client that left stays so, whatever it is handed
  let P (after : GameLoop Client) : Prop :=
    InStep config after.toStation ∧ after.driver.state = .disconnected
      ∧ Knows config told after.toStation
  have hstep : ∀ after input, P after → P (step after input) := by
    rintro after input ⟨hinStep, hleft, hknows⟩
    obtain ⟨hinStep', hfollows⟩ := step_inStep hinStep input
    refine ⟨hinStep', hfollows.left hleft, ?_⟩
    cases input with
    | datagram arrived => exact onDatagram_knows hknows arrived
    | tick now =>
      have hhandled := handleAll_of_left hknows.counted hleft now after.inbox
      exact onTick_knows (handleAll_inStep hinStep.counted now after.inbox).1 hhandled.2 ⟨now, 0⟩
    | disconnect => exact disconnect_knows hknows
  exact (run_induction hstep inputs ⟨hinStep, hleft, h⟩).2.2

theorem run_knows (hinStep : InStep config loop.toStation) (h : Knows config told loop.toStation)
    (hstays : loop.driver.state ≠ .disconnected) (inputs : List Input) :
    Knows config (told ++ tellings (handledBeforeLeaving loop.inbox inputs))
      (run loop inputs).toStation := by
  induction inputs generalizing told loop with
  | nil => simpa [handledBeforeLeaving, tellings, run] using h
  | cons input rest ih =>
    cases input with
    | datagram arrived =>
      have hstays' : (loop.onDatagram arrived).driver.state ≠ .disconnected := by
        rwa [driver_onDatagram]
      have hrest := ih (onDatagram_inStep hinStep arrived) (onDatagram_knows h arrived) hstays'
      rw [show (loop.onDatagram arrived).inbox = _ from
        congrArg GameLoop.inbox (GameLoop.onDatagram_eq loop arrived)] at hrest
      exact hrest
    | tick now =>
      obtain ⟨hinStep', hadvances⟩ := tick_inStep hinStep now
      rw [handledBeforeLeaving, tellings_append, ← List.append_assoc]
      exact ih hinStep' (tick_knows hinStep h hstays now) (hadvances.not_left hstays)
    | disconnect =>
      have hleft : (leave loop).driver.state = .disconnected :=
        congrArg Client.state (driver_disconnect loop.toStation)
      -- what is handled afterwards tells the client nothing
      rw [handledBeforeLeaving, tellings, List.filterMap_nil, List.append_nil]
      exact run_of_left (disconnect_inStep hinStep) hleft (disconnect_knows h) rest

/-- What a client knows, as its table shows it. Its own player stands first, the others have neither
an endpoint nor messages, and the table of a new client is empty. -/
structure Lists (config : ClientConfig) (told : List (Nat × UInt32)) (station : Station Client) :
    Prop extends Knows config told station where
  own_first : station.driver.playerId = station.game.roster.ids.head?
  untouched : ∀ player ∈ station.game.roster.players, station.driver.playerId ≠ some player.id →
    player.endpoint = none ∧ player.nextMessage = 0 ∧ player.sent.entries = []
  nobody : station.driver.state = .fresh → station.game.roster.players = []

theorem Knows.lists (h : Knows config told station) (hinStep : InStep config station) :
    Lists config told station where
  toKnows := h
  own_first := by
    rw [h.playerId_eq, h.ids_eq]
    cases told with
    | nil => rfl
    | cons telling rest =>
      rw [List.map_cons, List.eraseDups_cons, List.head?_cons, List.head?_cons, Option.map_some]
  untouched player hmem hnot := by
    rw [h.remote player hmem hnot]
    exact ⟨rfl, rfl, rfl⟩
  nobody hfresh := (h.players_eq_nil (hinStep.fresh hfresh)).2

/-- After any run the table lists the sessions that the client was told of before it left. While a
tick goes on it lists those that the tick has handled so far as well, and no event changes anybody
who is in the table. -/
theorem table_lists_told_sessions (params : GameParams) (config : ClientConfig)
    (fails : Nat → Bool) (inputs : List Input) :
    let loop := run (.start params ({ config } : Client) { fails }) inputs
    let told := tellings (handledBeforeLeaving [] inputs)
    Lists config told loop.toStation
    ∧ ∀ now taken, let station := Station.handleAll now (loop.inbox.take taken) loop.counted
      (loop.driver.state ≠ .disconnected →
        Lists config (told ++ tellings ((loop.inbox.take taken).map (now, ·))) station)
      ∧ (loop.driver.state = .disconnected → Lists config told station)
      ∧ ∀ moment event, station.game.roster.players
        <+: (station.handle moment event).game.roster.players := by
  intro loop told
  have hstart := start_inStep params config fails
  have hinStep : InStep config loop.toStation := (run_inStep hstart inputs).1
  have hknows : Knows config told loop.toStation :=
    run_knows hstart (start_knows params config fails) nofun inputs
  refine ⟨hknows.lists hinStep, fun now taken => ?_⟩
  let handled := loop.inbox.take taken
  have hhandled := (handleAll_inStep hinStep.counted now handled).1
  refine ⟨fun hstays => ?_, fun hleft => ?_, fun moment event => players_isPrefix_handle ..⟩
  · exact (handleAll_knows hinStep.counted hknows.counted hstays now handled).lists hhandled
  · exact (handleAll_of_left hknows.counted hleft now handled).2.lists hhandled

def grant (session : UInt32) : Received Login :=
  ⟨.v4 ⟨.localhost, 7⟩,
    (Envelope.ofPayload { session, returnTo := ⟨.localhost, 40000⟩ }).stamped⟩

def arriving (sessions : List UInt32) : List Input :=
  sessions.map fun session =>
    .datagram ⟨(grant session).sender, Frame.wrap (grant session).envelope.body⟩

theorem second_session_is_remote :
    let config : ClientConfig := ⟨⟨.localhost, 40000⟩, .v4 ⟨.localhost, 7⟩⟩
    let start : GameLoop Client := .start {} ({ config } : Client) { fails := fun _ => false }
    let stays := run start (arriving [1, 2, 1] ++ [.tick 5] ++ arriving [3])
    let station := Station.handleAll 9 (stays.inbox.take 1) stays.counted
    let left := run start (arriving [1, 2, 1] ++ [.tick 5] ++ arriving [3] ++ [.disconnect])
    stays.driver.state = .loggedIn
    ∧ station.game.roster.ids = [1, 2, 3] ∧ station.driver.playerId = some 1
    ∧ (∀ player ∈ station.game.roster.players, player.id = 2 →
      player.connectedAt = 5 ∧ player.endpoint = none)
    ∧ (Station.handleAll 9 (left.inbox.take 1) left.counted).game.roster.ids = [1, 2] := by
  intro config start stays station left
  let inputs := arriving [1, 2, 1] ++ [.tick 5] ++ arriving [3]
  have htold : tellings (handledBeforeLeaving [] inputs)
      ++ tellings ((stays.inbox.take 1).map (9, ·)) = [(5, 1), (5, 2), (5, 1), (9, 3)] := by
    decide
  have hbefore : tellings (handledBeforeLeaving [] (inputs ++ [.disconnect]))
      = [(5, 1), (5, 2), (5, 1)] := by
    decide
  have hstation : Lists config (tellings (handledBeforeLeaving [] inputs)
      ++ tellings ((stays.inbox.take 1).map (9, ·))) station := by
    obtain ⟨hstays, -, -⟩ := (table_lists_told_sessions {} config (fun _ => false) inputs).2 9 1
    exact hstays (by decide)
  have hafter : Lists config (tellings (handledBeforeLeaving [] (inputs ++ [.disconnect])))
      (Station.handleAll 9 (left.inbox.take 1) left.counted) := by
    obtain ⟨-, hgone, -⟩ :=
      (table_lists_told_sessions {} config (fun _ => false) (inputs ++ [.disconnect])).2 9 1
    exact hgone (by decide)
  rw [htold] at hstation
  rw [hbefore] at hafter
  refine ⟨by decide, hstation.ids_eq.trans (by decide), hstation.playerId_eq, ?_,
    hafter.ids_eq.trans (by decide)⟩
  intro player hmem hid
  have hfirst : some (5, 2) = some (player.connectedAt, player.id) := by
    rw [← hstation.first player hmem, hid]
    decide
  have htime : 5 = player.connectedAt := congrArg Prod.fst (Option.some.inj hfirst)
  have hnot : station.driver.playerId ≠ some player.id := by
    rw [hstation.playerId_eq, hid]
    decide
  exact ⟨htime.symm, (hstation.untouched player hmem hnot).1⟩

end Run

end Client

end GridSession
