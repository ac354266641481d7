import GridSession.Proofs.Client.Conduct
import GridSession.Proofs.Game.Places
import GridSession.Proofs.GameLoop.Run
import GridSession.Proofs.Server.Outcomes

namespace GridSession

namespace Game

inductive Operation where
  | call (call : Call)
  | writeCell (position : Position) (player : Option UInt32)
  | keep (player : Player)

/-- The game after an operation. One that is refused leaves it as it was. -/
def operate (game : Game) : Operation → Game
  | .call call => game.after call
  | .writeCell position player =>
    match game.putOnCell position player with
    | .ok written => written
    | .error _ => game
  | .keep player => { game with roster := game.roster.replace player }

def operateAll (game : Game) (operations : List Operation) : Game :=
  operations.foldl operate game

def Operates (before after : Game) : Prop :=
  ∃ operations, before.operateAll operations = after

variable {game moved before middle after : Game}

theorem Operates.refl (game : Game) : Operates game game :=
  ⟨[], rfl⟩

theorem Operates.trans (h : Operates before middle) (hmore : Operates middle after) :
    Operates before after := by
  obtain ⟨operations, rfl⟩ := h
  obtain ⟨more, rfl⟩ := hmore
  exact ⟨operations ++ more, List.foldl_append ..⟩

theorem operates_keep (game : Game) (player : Player) :
    Operates game { game with roster := game.roster.replace player } :=
  ⟨[.keep player], rfl⟩

theorem operates_enroll {endpoint : SocketAddress} {now : Nat} {enrolment : Enrolment}
    (h : game.enroll endpoint now = .ok enrolment) : Operates game enrolment.game := by
  refine ⟨[.call (.enroll endpoint now)], ?_⟩
  simp only [operateAll, List.foldl_cons, List.foldl_nil, operate, Game.after, h]

theorem operates_register {id : UInt32} {now : Nat} {grown : Game} {player : Player}
    (h : game.register? id now = some (grown, player)) : Operates game grown := by
  refine ⟨[.call (.register id now)], ?_⟩
  simp only [operateAll, List.foldl_cons, List.foldl_nil, operate, Game.after, h]

/-- The same parameters, and a table that is in order if it was before. -/
structure SameTable (before after : Game) : Prop where
  params_eq : after.params = before.params
  rowMajor : before.grid.RowMajor → after.grid.RowMajor

section SameTable

theorem SameTable.refl (game : Game) : SameTable game game :=
  ⟨rfl, id⟩

theorem SameTable.trans (h : SameTable before middle) (hmore : SameTable middle after) :
    SameTable before after :=
  ⟨hmore.params_eq.trans h.params_eq, hmore.rowMajor ∘ h.rowMajor⟩

theorem sameTable_putOnCell {position : Position} {player : Option UInt32}
    (h : game.putOnCell position player = .ok moved) : SameTable game moved := by
  unfold putOnCell at h
  split_ifs at h
  cases h
  exact ⟨by simp [params], (·.put position player)⟩

theorem sameTable_move (game : Game) (player : Player) (position : Position) :
    SameTable game (game.move player position) :=
  ⟨by simp [move, params], (·.put position (some player.id))⟩

theorem sameTable_place {id : UInt32} {position : Position}
    (h : game.place id position = .ok moved) : SameTable game moved := by
  unfold place at h
  split at h
  · cases h
  · split at h
    · cases h
    · split at h
      · cases h
      · split at h
        · cases h
          exact sameTable_move ..
        · split at h
          · cases h
          · rename_i vacated hvacated
            cases h
            -- leaving one cell and taking another are two writes
            exact (sameTable_putOnCell hvacated).trans (sameTable_move ..)

theorem sameTable_after (game : Game) (call : Call) : SameTable game (game.after call) := by
  cases call with
  | register id now =>
    rcases game.register?_cases id now with ⟨-, hregister⟩ | ⟨-, roster, -, hregister⟩
    · simp only [Game.after, hregister]
      exact .refl game
    · simp only [Game.after, hregister]
      exact ⟨rfl, fun hgrid => hgrid⟩
  | enroll endpoint now =>
    rcases enroll_cases game endpoint now with
      ⟨player, -, henroll⟩ | ⟨-, -, henroll⟩ | ⟨-, -, player, -, henroll⟩
      | ⟨-, -, -, roster, -, henroll⟩
    · simp only [Game.after, henroll]
      exact .refl game
    · simp only [Game.after, henroll]
      exact .refl game
    · simp only [Game.after, henroll]
      exact ⟨rfl, id⟩
    · simp only [Game.after, henroll]
      exact ⟨rfl, id⟩
  | place id position =>
    cases hplace : game.place id position with
    | error refusal =>
      simp only [Game.after, hplace]
      exact .refl game
    | ok moved =>
      simp only [Game.after, hplace]
      exact sameTable_place hplace

theorem sameTable_operate (game : Game) (operation : Operation) :
    SameTable game (game.operate operation) := by
  cases operation with
  | call call => exact sameTable_after game call
  | writeCell position player =>
    cases hwritten : game.putOnCell position player with
    | error refusal =>
      simp only [operate, hwritten]
      exact .refl game
    | ok written =>
      simp only [operate, hwritten]
      exact sameTable_putOnCell hwritten
  | keep player => exact ⟨rfl, id⟩

theorem Operates.sameTable (h : Operates before after) : SameTable before after := by
  obtain ⟨operations, rfl⟩ := h
  induction operations generalizing before with
  | nil => exact .refl before
  | cons operation rest ih => exact (sameTable_operate before operation).trans ih

end SameTable

end Game

structure Role.Operates (δ : Type) [Role δ] : Prop where
  onLogin : ∀ moment received (station : Station δ),
    station.game.Operates (Role.onLogin moment received station).game
  onPing : ∀ moment received (station : Station δ),
    station.game.Operates (Role.onPing moment received station).game
  onAcknowledge : ∀ moment received (station : Station δ),
    station.game.Operates (Role.onAcknowledge moment received station).game
  onTick : ∀ moment (station : Station δ),
    station.game.Operates (Role.onTick moment station).1.game

namespace Role.Operates

variable {δ : Type} [Role δ]

theorem handle (h : Role.Operates δ) (moment : Moment) (event : Event) (station : Station δ) :
    station.game.Operates (station.handle moment event).game := by
  let told := station.tell (.handling event.action event.sender)
  cases event with
  | login received => exact h.onLogin moment received told
  | ping received => exact h.onPing moment received told
  | acknowledge received => exact h.onAcknowledge moment received told

theorem sameTable_step (h : Role.Operates δ) (loop : GameLoop δ) (input : GameLoop.Input) :
    loop.game.SameTable (loop.step input).game := by
  cases input with
  | datagram datagram =>
    rw [GameLoop.step, GameLoop.onDatagram_eq]
    exact .refl loop.game
  | tick now =>
    have hhandled : loop.game.SameTable (Station.handleAll now loop.inbox loop.counted).game :=
      Station.handleAll_induction (P := fun station => loop.game.SameTable station.game)
        (fun event _ moment station hstation =>
          hstation.trans (h.handle moment event station).sameTable) now ⟨rfl, id⟩
    exact hhandled.trans (h.onTick ..).sameTable

end Role.Operates

namespace Server

theorem operates : Role.Operates Server where
  onLogin moment received station := by
    change station.game.Operates (onLogin moment received station).game
    cases henroll : station.game.enroll (.v4 received.envelope.payload.returnTo) moment.now with
    | error refusal =>
      simp only [onLogin, henroll]
      exact .refl _
    | ok enrolment =>
      rw [onLogin_of_enroll_eq_ok henroll, game_answerLogin]
      exact (Game.operates_enroll henroll).trans (Game.operates_keep ..)
  onPing moment received station := by
    change station.game.Operates (onPing moment received station).game
    rcases onPing_cases moment received station with
      ⟨-, hping⟩ | ⟨-, hping⟩ | ⟨-, player, -, hping⟩
    · rw [hping]
      exact .refl _
    · rw [hping]
      exact .refl _
    · rw [hping]
      exact Game.operates_keep ..
  onAcknowledge _ _ _ := .refl _
  onTick moment station := by
    change station.game.Operates (onTick moment station).1.game
    unfold onTick
    dsimp only
    split_ifs <;> exact .refl _

end Server

namespace Client

theorem operates_enter (now : Nat) (session : UInt32) (station : Station Client) :
    station.game.Operates (enter now session station).game := by
  unfold enter
  cases hregister : station.game.register? session now with
  | none => exact .refl _
  | some registered => exact (Game.operates_register hregister).trans (Game.operates_keep ..)

theorem operates_registerRemote (now : Nat) (session : UInt32) (station : Station Client) :
    station.game.Operates (registerRemote now session station).game := by
  unfold registerRemote
  split_ifs
  · exact .refl _
  · cases hregister : station.game.register? session now with
    | none => exact .refl _
    | some registered => exact Game.operates_register hregister

theorem operates_tryPing (now : Nat) (station : Station Client) :
    station.game.Operates (tryPing now station).game := by
  unfold tryPing
  dsimp only
  by_cases hdue : isDue station.driver.lastPing now pingInterval
  · rw [if_neg (not_not.mpr hdue)]
    cases station.driver.playerId with
    | none => exact .refl _
    | some id =>
      dsimp only
      cases station.game.roster.get? id with
      | none => exact .refl _
      | some player => exact Game.operates_keep ..
  · rw [if_pos hdue]
    exact .refl _

theorem operates : Role.Operates Client where
  onLogin moment received station := by
    change station.game.Operates (onLogin moment received station).game
    rcases onLogin_cases moment received station with
      ⟨-, hlogin⟩ | ⟨-, -, hlogin⟩ | ⟨-, -, hlogin⟩ | ⟨-, -, hlogin⟩
    · rw [hlogin]
      exact .refl _
    · rw [hlogin]
      exact operates_enter ..
    · rw [hlogin]
      exact operates_registerRemote ..
    · rw [hlogin]
      exact .refl _
  onPing _ _ _ := .refl _
  onAcknowledge _ _ _ := .refl _
  onTick moment station := by
    change station.game.Operates (onTick moment station).1.game
    unfold onTick
    cases station.driver.state with
    | fresh =>
      dsimp only
      rw [tryLogin_eq]
      split_ifs <;> exact .refl _
    | loggedIn => exact operates_tryPing moment.now station
    | disconnected => exact .refl _

end Client

namespace Game

/-- What becomes of a new game by operations from outside, and by what arrives and happens in loops
whose roles work by operations. All else in a loop may be anything each time. -/
inductive Arises (params : GameParams) : Game → Prop where
  | start : Arises params (.ofParams params)
  | operation {game : Game} (h : Arises params game) (operation : Operation) :
    Arises params (game.operate operation)
  | step {δ : Type} [Role δ] (hrole : Role.Operates δ) {loop : GameLoop δ}
    (h : Arises params loop.game) (input : GameLoop.Input) : Arises params (loop.step input).game

theorem Arises.sameTable {params : GameParams} {game : Game} (h : Arises params game) :
    SameTable (.ofParams params) game := by
  induction h with
  | start => exact .refl _
  | operation _ operation ih => exact ih.trans (sameTable_operate _ operation)
  | step hrole _ input ih => exact ih.trans (hrole.sameTable_step _ input)

end Game

end GridSession
