import GridSession.Proofs.Client.Conduct
import GridSession.Proofs.Game.Places
import GridSession.Proofs.GameLoop.Stimulus
import GridSession.Proofs.Server.Outcomes

namespace GridSession

/-- Keeping a player of the roster after a send leaves it where it stands. -/
theorem Station.samePlaces_sendTracked {δ α : Type} [Payload α] {station : Station δ}
    {player old : Player} (hmem : old ∈ station.game.roster.players) (hid : player.id = old.id)
    (hposition : player.position = old.position) (target : SocketAddress) (envelope : Envelope α) :
    station.game.SamePlaces (station.sendTracked player target envelope).1.game := by
  refine ⟨rfl, Roster.positionOf?_replace hmem ?_ ?_⟩
  · rw [← hid]
    exact congrArg Session.id (Player.session_sendTracked ..)
  · rw [Player.sendTracked_eq]
    split <;> exact hposition

structure Role.MovesNobody (δ : Type) [Role δ] [Orders δ] : Prop where
  onLogin : ∀ moment received (station : Station δ),
    station.game.SamePlaces (Role.onLogin moment received station).game
  onPing : ∀ moment received (station : Station δ),
    station.game.SamePlaces (Role.onPing moment received station).game
  onAcknowledge : ∀ moment received (station : Station δ),
    station.game.SamePlaces (Role.onAcknowledge moment received station).game
  onTick : ∀ moment (station : Station δ),
    station.game.SamePlaces (Role.onTick moment station).1.game
  obey : ∀ order (station : Station δ), station.game.SamePlaces (Orders.obey order station).game

namespace Role.MovesNobody

variable {δ : Type} [Role δ] [Orders δ]

theorem handle (h : MovesNobody δ) (moment : Moment) (event : Event) (station : Station δ) :
    station.game.SamePlaces (station.handle moment event).game := by
  let told := station.tell (.handling event.action event.sender)
  cases event with
  | login received => exact h.onLogin moment received told
  | ping received => exact h.onPing moment received told
  | acknowledge received => exact h.onAcknowledge moment received told

theorem tick (h : MovesNobody δ) (now : Nat) (loop : GameLoop δ) :
    loop.game.SamePlaces (loop.tick now).1.game := by
  have hhandled : loop.game.SamePlaces (Station.handleAll now loop.inbox loop.counted).game := by
    apply Station.handleAll_induction (P := fun station => loop.game.SamePlaces station.game)
    · exact fun event _ moment station hstation => hstation.trans (h.handle moment event station)
    · exact ⟨rfl, rfl⟩
  exact hhandled.trans (h.onTick ..)

theorem respond (h : MovesNobody δ) (loop : GameLoop δ) (stimulus : Stimulus δ) :
    loop.game.SamePlaces (loop.respond stimulus).game := by
  cases stimulus with
  | datagram datagram =>
    rw [GameLoop.respond, GameLoop.onDatagram_eq]
    exact .refl _
  | tick now => exact h.tick now loop
  | order order => exact h.obey order loop.toStation

end Role.MovesNobody

namespace Server

theorem samePlaces_serve {α : Type} [Payload α] {player : Player} {station : Station Server}
    (hmem : player ∈ station.game.roster.players) (now : Nat) (target : SocketAddress)
    (reply : UInt32 → Envelope α) :
    station.game.SamePlaces (serve now player target reply station).1.game := by
  let served := (player.touch now).takeMessageId.2
  have hid : served.id = player.id := rfl
  exact Station.samePlaces_sendTracked hmem hid rfl target (reply player.nextMessage)

theorem movesNobody : Role.MovesNobody Server where
  onLogin moment received station := by
    change station.game.SamePlaces (onLogin moment received station).game
    cases henroll : station.game.enroll (.v4 received.envelope.payload.returnTo) moment.now with
    | error refusal =>
      simp only [onLogin, henroll]
      exact .refl _
    | ok enrolment =>
      obtain ⟨hplaces, hmem⟩ := Game.samePlaces_enroll henroll
      let endpoint := SocketAddress.v4 received.envelope.payload.returnTo
      let enrolled : Station Server :=
        { station with game := enrolment.game }.tell (enrolmentNote enrolment endpoint)
      have hknown : enrolment.player ∈ enrolled.game.roster.players := hmem
      rw [onLogin_of_enroll_eq_ok henroll, game_answerLogin]
      exact hplaces.trans
        (samePlaces_serve hknown moment.now endpoint (loginReply enrolment.player received))
  onPing moment received station := by
    change station.game.SamePlaces (onPing moment received station).game
    rcases onPing_cases moment received station with
      ⟨-, hping⟩ | ⟨-, hping⟩ | ⟨-, player, hfound, hping⟩
    · rw [hping]
      exact .refl _
    · rw [hping]
      exact .refl _
    · rw [hping]
      exact samePlaces_serve (Roster.get?_eq_some_iff.mp hfound).1 ..
  onAcknowledge _ _ _ := .refl _
  onTick moment station := by
    change station.game.SamePlaces (onTick moment station).1.game
    unfold onTick
    dsimp only
    split_ifs <;> exact .refl _
  obey order := nomatch order

end Server

namespace Client

theorem samePlaces_onLogin (moment : Moment) (received : Received Login)
    (station : Station Client) :
    station.game.SamePlaces (onLogin moment received station).game := by
  rcases onLogin_cases moment received station with
    ⟨-, hlogin⟩ | ⟨-, -, hlogin⟩ | ⟨-, -, hlogin⟩ | ⟨-, -, hlogin⟩
  · rw [hlogin]
    exact .refl _
  · rw [hlogin]
    rcases enter_cases moment.now received.envelope.payload.session station with
      ⟨-, henter⟩ | ⟨hnew, roster, hplayers, henter⟩
    · rw [henter]
      exact .refl _
    · rw [henter]
      exact ⟨rfl, Roster.positionOf?_of_joined hplayers hnew rfl⟩
  · rw [hlogin]
    rcases registerRemote_cases moment.now received.envelope.payload.session station with
      ⟨-, hremote⟩ | ⟨-, -, hremote⟩ | ⟨-, hnew, roster, hplayers, hremote⟩
    · rw [hremote]
      exact .refl _
    · rw [hremote]
      exact .refl _
    · rw [hremote]
      exact Game.samePlaces_of_joined hplayers hnew
  · rw [hlogin]
    exact .refl _

theorem samePlaces_tryPing (now : Nat) (station : Station Client) :
    station.game.SamePlaces (tryPing now station).game := by
  unfold tryPing
  dsimp only
  by_cases hdue : isDue station.driver.lastPing now pingInterval
  · rw [if_neg (not_not.mpr hdue)]
    split
    · exact .refl _
    · split
      · exact .refl _
      · rename_i player hfound
        let noted : Station Client :=
          { station with driver := { station.driver with lastPing := some now } }
        -- a ping changes its player only in what it counts and retains
        have hmem : player ∈ noted.game.roster.players := (Roster.get?_eq_some_iff.mp hfound).1
        have hid : player.takeMessageId.2.id = player.id := rfl
        exact Station.samePlaces_sendTracked hmem hid rfl station.driver.config.serverAddress
          (Envelope.ofPayload { playerId := _, lastAckId := player.ackCount.toUInt64 : Ping }
            player.takeMessageId.1)
  · rw [if_pos hdue]
    exact .refl _

theorem movesNobody : Role.MovesNobody Client where
  onLogin := samePlaces_onLogin
  onPing _ _ _ := .refl _
  onAcknowledge _ _ _ := .refl _
  onTick moment station := by
    change station.game.SamePlaces (onTick moment station).1.game
    unfold onTick
    cases station.driver.state with
    | fresh =>
      dsimp only
      rw [tryLogin_eq]
      split_ifs <;> exact .refl _
    | loggedIn => exact samePlaces_tryPing moment.now station
    | disconnected => exact .refl _
  obey
    | .disconnect, station => by
      change station.game.SamePlaces (disconnect station).game
      unfold disconnect
      split_ifs <;> exact .refl _

end Client

namespace Game

/-- What becomes of a new game by calls, and by what its loop is exposed to under either role. The
role's own state, the inbox and the way out may be anything each time. -/
inductive Reachable (params : GameParams) : Game → Prop where
  | start : Reachable params (.ofParams params)
  | call {game : Game} (h : Reachable params game) (call : Call) :
    Reachable params (game.after call)
  | server {loop : GameLoop Server} (h : Reachable params loop.game) (stimulus : Stimulus Server) :
    Reachable params (loop.respond stimulus).game
  | client {loop : GameLoop Client} (h : Reachable params loop.game) (stimulus : Stimulus Client) :
    Reachable params (loop.respond stimulus).game

variable {params : GameParams} {game : Game}

theorem Reachable.afterAll (h : Reachable params game) (calls : List Call) :
    Reachable params (game.afterAll calls) := by
  induction calls generalizing game with
  | nil => exact h
  | cons call calls ih => exact ih (h.call call)

theorem Reachable.consistent (h : Reachable params game) : game.Consistent := by
  induction h with
  | start => exact .ofParams params
  | call _ call ih => exact ih.after call
  | server _ stimulus ih => exact (Server.movesNobody.respond _ stimulus).consistent ih
  | client _ stimulus ih => exact (Client.movesNobody.respond _ stimulus).consistent ih

/-- In every state that calls, datagrams and ticks lead to, the cell of a position names a player
exactly if the roster says that the player stands there. So nobody stands on two cells, no two
players share one, everybody stands on the grid, and a cell that is taken has an occupant. Placing a
player answers by these facts alone, and moves that player or changes nothing. -/
theorem grid_and_roster_agree (h : Reachable params game) :
    (∀ position, game.grid.Contains position → ∀ id,
      game.cell position = .ok ⟨position, some id⟩
        ↔ ∃ player, game.roster.get? id = some player ∧ player.position = some position)
    ∧ (∀ first second id, game.cell first = .ok ⟨first, some id⟩ →
      game.cell second = .ok ⟨second, some id⟩ → first = second)
    ∧ (∀ first ∈ game.roster.players, ∀ second ∈ game.roster.players, ∀ position,
      first.position = some position → second.position = some position → first = second)
    ∧ (∀ player ∈ game.roster.players, ∀ position, player.position = some position →
      game.grid.Contains position)
    ∧ (∀ position, game.grid.Contains position →
      ((∃ player, game.occupant position = .ok (some player))
        ↔ ∃ id, game.cell position = .ok ⟨position, some id⟩))
    ∧ ∀ id position, game.PlacesAsTold id position := by
  have hconsistent := h.consistent
  refine ⟨fun position hon id => ?_, fun first second id hfirst hsecond => ?_,
    fun first hfirst second hsecond position hposition hposition' => ?_,
    fun player hmem position hposition => ?_, fun position hon => ?_, hconsistent.placesAsTold⟩
  · rw [hconsistent.cell_eq_iff hon, Roster.positionOf?_eq_some_iff]
  · have hthere := (hconsistent.cell_eq_iff (contains_of_cell_eq_ok hfirst)).mp hfirst
    rw [(hconsistent.cell_eq_iff (contains_of_cell_eq_ok hsecond)).mp hsecond] at hthere
    exact (Option.some.inj hthere).symm
  · have hfound := Roster.get?_eq_some_iff.mpr ⟨hfirst, rfl⟩
    have hfound' := Roster.get?_eq_some_iff.mpr ⟨hsecond, rfl⟩
    -- no two stand on one cell, and no two have one id
    have hid : first.id = second.id := hconsistent.eq_of_positionOf?
      ((Roster.positionOf?_of_get? hfound).trans hposition)
      ((Roster.positionOf?_of_get? hfound').trans hposition')
    exact List.inj_on_of_nodup_map game.roster.nodup_ids hfirst hsecond hid
  · have hfound := Roster.get?_eq_some_iff.mpr ⟨hmem, rfl⟩
    exact hconsistent.contains ((Roster.positionOf?_of_get? hfound).trans hposition)
  · exact hconsistent.exists_occupant_iff hon

def oneEnrolled : Game :=
  (ofParams {}).after (.enroll (.v4 ⟨.localhost, 40000⟩) 0)

theorem place_oneEnrolled :
    oneEnrolled.after (.place 1 ⟨3, 5⟩)
      = oneEnrolled.move (.joining 1 (some (.v4 ⟨.localhost, 40000⟩)) 0) ⟨3, 5⟩ := by
  have hconsistent : oneEnrolled.Consistent := (Consistent.ofParams {}).after _
  have hnowhere : ∀ player ∈ oneEnrolled.roster.players, player.position = none := by decide
  have hfree : ∀ other, oneEnrolled.roster.positionOf? other = some ⟨3, 5⟩ → other = 1 := by
    intro other hother
    obtain ⟨player, hfound, hposition⟩ := Roster.positionOf?_eq_some_iff.mp hother
    rw [hnowhere player (Roster.get?_eq_some_iff.mp hfound).1] at hposition
    cases hposition
  have hget : oneEnrolled.roster.get? 1
      = some (.joining 1 (some (.v4 ⟨.localhost, 40000⟩)) 0) := by decide
  rw [Game.after, hconsistent.place_of_free hget (by decide) hfree]
  rfl

/-- A game on whose grid one player stands, and another, registered by its id, does not. -/
def sharedGame : Game :=
  (ofParams {}).afterAll
    [.enroll (.v4 ⟨.localhost, 40000⟩) 0, .place 1 ⟨3, 5⟩, .register 7 0]

def shared : GameLoop Server :=
  { driver := {}, game := sharedGame }

theorem sharedGame_eq :
    sharedGame = (oneEnrolled.after (.place 1 ⟨3, 5⟩)).after (.register 7 0) := by
  rw [sharedGame, afterAll, List.foldl_cons, List.foldl_cons, List.foldl_cons, List.foldl_nil,
    oneEnrolled]

/-- After a tick the cell is still taken, and nobody else can be placed there. -/
theorem shared_place_refused :
    Reachable {} (shared.respond (.tick 9)).game
    ∧ (shared.respond (.tick 9)).game.cell ⟨3, 5⟩ = .ok ⟨⟨3, 5⟩, some 1⟩
    ∧ (shared.respond (.tick 9)).game.place 7 ⟨3, 5⟩ = .error (.positionOccupied ⟨3, 5⟩ 1) := by
  have hcalls : Reachable {} sharedGame := .afterAll .start _
  have hstart : Reachable {} shared.game := by simpa only [shared] using hcalls
  have hticked := hstart.server (.tick 9)
  obtain ⟨hcell, -, -, -, -, hplace⟩ := grid_and_roster_agree hticked
  have hgame : (shared.respond (.tick 9)).game.grid.Contains ⟨3, 5⟩
      ∧ (shared.respond (.tick 9)).game.roster.get? 7 ≠ none
      ∧ (shared.respond (.tick 9)).game.roster.positionOf? 1 = some ⟨3, 5⟩ := by
    rw [shared, sharedGame_eq, place_oneEnrolled]
    decide
  obtain ⟨hcontains, hknown, hstands⟩ := hgame
  exact ⟨hticked, (hcell ⟨3, 5⟩ hcontains 1).mpr (Roster.positionOf?_eq_some_iff.mp hstands),
    ((hplace 7 ⟨3, 5⟩).occupied_iff 1).mpr ⟨hknown, hcontains, by decide, hstands⟩⟩

end Game

end GridSession
