import GridSession.Game.Basic
import GridSession.Proofs.Player.Sessions

namespace GridSession

namespace Player

/-- The player without the datagrams that were sent to it. -/
def unsent (player : Player) : Player :=
  { player with sent := { player.sent with entries := [] } }

theorem eq_of_unsent_eq {player other : Player} (h : player.unsent = other.unsent) :
    player.id = other.id ∧ player.endpoint = other.endpoint
      ∧ player.nextMessage = other.nextMessage ∧ player.ackCount = other.ackCount := by
  simp only [unsent, Player.mk.injEq] at h
  exact ⟨h.1, h.2.1, h.2.2.2.2.2.1, h.2.2.2.2.2.2.1⟩

theorem unsent_sendTracked {α : Type} [Payload α] (player : Player) (transport : Transport)
    (target : SocketAddress) (envelope : Envelope α) :
    (player.sendTracked transport target envelope).player.unsent = player.unsent := by
  rw [sendTracked_eq]
  split
  · unfold unsent SentRecord.insert
    dsimp only
    split_ifs <;> rfl
  · rfl

end Player

namespace Roster

def unsent (roster : Roster) : Roster where
  players := roster.players.map Player.unsent
  nodup_ids := by
    rw [List.map_map]
    exact roster.nodup_ids

theorem eq_of_players {first second : Roster} (h : first.players = second.players) :
    first = second := by
  cases first
  cases second
  cases h
  rfl

variable (roster : Roster)

@[simp] theorem ids_unsent : roster.unsent.ids = roster.ids :=
  List.map_map ..

@[simp] theorem size_unsent : roster.unsent.size = roster.size :=
  List.length_map ..

theorem get?_unsent (id : UInt32) :
    roster.unsent.get? id = (roster.get? id).map Player.unsent :=
  List.find?_map ..

theorem withEndpoint?_unsent (endpoint : SocketAddress) :
    roster.unsent.withEndpoint? endpoint = (roster.withEndpoint? endpoint).map Player.unsent :=
  List.find?_map ..

theorem unsent_replace (player : Player) :
    (roster.replace player).unsent = roster.unsent.replace player.unsent := by
  apply eq_of_players
  simp only [unsent, replace, List.map_map]
  refine List.map_congr_left fun other _ => ?_
  simp only [Function.comp_apply]
  exact apply_ite Player.unsent ..

theorem insert?_unsent (player : Player) :
    roster.unsent.insert? player.unsent = (roster.insert? player).map unsent := by
  have hid : player.unsent.id = player.id := rfl
  unfold insert?
  simp only [ids_unsent, hid]
  split_ifs
  · rfl
  · refine congrArg some (eq_of_players ?_)
    simp only [unsent, List.map_append, List.map_singleton]

theorem sorted_unsent : roster.unsent.sorted = roster.sorted.map Player.unsent :=
  (List.map_mergeSort (f := Player.unsent) fun _ _ _ _ => rfl).symm

end Roster

namespace Game

def unsent (game : Game) : Game :=
  { game with roster := game.roster.unsent }

end Game

def Enrolment.unsent (enrolment : Enrolment) : Enrolment :=
  { enrolment with game := enrolment.game.unsent, player := enrolment.player.unsent }

namespace Game

theorem enroll_unsent (game : Game) (endpoint : SocketAddress) (now : Nat) :
    game.unsent.enroll endpoint now = (game.enroll endpoint now).map Enrolment.unsent := by
  let joining := Player.joining game.nextPlayerId (some endpoint) now
  have hfound := game.roster.withEndpoint?_unsent endpoint
  have hinsert : game.roster.unsent.insert? joining
      = (game.roster.insert? joining).map Roster.unsent := game.roster.insert?_unsent joining
  have hget := game.roster.get?_unsent game.nextPlayerId
  unfold enroll
  simp only [unsent, hfound, hinsert, hget, Roster.size_unsent, joining]
  cases game.roster.withEndpoint? endpoint with
  | some player => rfl
  | none =>
    simp only [Option.map_none]
    split_ifs
    · rfl
    · cases game.roster.insert? (.joining game.nextPlayerId (some endpoint) now) with
      | some grown => rfl
      | none => cases game.roster.get? game.nextPlayerId <;> rfl

theorem register?_unsent (game : Game) (id : UInt32) (now : Nat) :
    game.unsent.register? id now = (game.register? id now).map (Prod.map unsent Player.unsent) := by
  have hinsert : game.roster.unsent.insert? (.joining id none now)
      = (game.roster.insert? (.joining id none now)).map Roster.unsent :=
    game.roster.insert?_unsent (.joining id none now)
  unfold register?
  simp only [unsent, hinsert, Option.map_map]
  rfl

theorem staleIds_unsent (game : Game) (now : Nat) :
    game.unsent.staleIds now = game.staleIds now := by
  simp only [staleIds, unsent, Roster.sorted_unsent, List.filter_map, List.map_map]
  rfl

section Twins

/- Two games that differ in what they retain alone decide alike. -/

variable {game twin : Game}

theorem get?_cases_of_unsent_eq (h : game.unsent = twin.unsent) (id : UInt32) :
    (game.roster.get? id = none ∧ twin.roster.get? id = none)
    ∨ ∃ player other, game.roster.get? id = some player ∧ twin.roster.get? id = some other
      ∧ player.unsent = other.unsent := by
  have hroster : game.roster.unsent = twin.roster.unsent := congrArg roster h
  have hfound := game.roster.get?_unsent id
  rw [hroster, Roster.get?_unsent] at hfound
  cases hgame : game.roster.get? id with
  | none =>
    rw [hgame, Option.map_none, Option.map_eq_none_iff] at hfound
    exact .inl ⟨rfl, hfound⟩
  | some player =>
    rw [hgame, Option.map_some, Option.map_eq_some_iff] at hfound
    obtain ⟨other, htwin, hsame⟩ := hfound
    exact .inr ⟨player, other, rfl, htwin, hsame.symm⟩

theorem enroll_cases_of_unsent_eq (h : game.unsent = twin.unsent) (endpoint : SocketAddress)
    (now : Nat) :
    (∃ refusal, game.enroll endpoint now = .error refusal
      ∧ twin.enroll endpoint now = .error refusal)
    ∨ ∃ enrolment other, game.enroll endpoint now = .ok enrolment
      ∧ twin.enroll endpoint now = .ok other ∧ enrolment.unsent = other.unsent := by
  have hsame := game.enroll_unsent endpoint now
  rw [h, enroll_unsent] at hsame
  cases hgame : game.enroll endpoint now with
  | error refusal =>
    cases htwin : twin.enroll endpoint now with
    | error other =>
      rw [hgame, htwin] at hsame
      cases hsame
      exact .inl ⟨refusal, rfl, rfl⟩
    | ok other =>
      rw [hgame, htwin] at hsame
      cases hsame
  | ok enrolment =>
    cases htwin : twin.enroll endpoint now with
    | error refusal =>
      rw [hgame, htwin] at hsame
      cases hsame
    | ok other =>
      rw [hgame, htwin] at hsame
      exact .inr ⟨enrolment, other, rfl, rfl, (Except.ok.inj hsame).symm⟩

theorem register?_cases_of_unsent_eq (h : game.unsent = twin.unsent) (id : UInt32) (now : Nat) :
    (game.register? id now = none ∧ twin.register? id now = none)
    ∨ ∃ player grown other, game.register? id now = some (grown, player)
      ∧ twin.register? id now = some (other, player) ∧ grown.unsent = other.unsent := by
  have hsame := game.register?_unsent id now
  rw [h, register?_unsent] at hsame
  cases hgame : game.register? id now with
  | none =>
    rw [hgame, Option.map_none, Option.map_eq_none_iff] at hsame
    exact .inl ⟨rfl, hsame⟩
  | some registered =>
    rw [hgame, Option.map_some, Option.map_eq_some_iff] at hsame
    obtain ⟨other, htwin, heq⟩ := hsame
    -- both are given the same new player
    obtain ⟨grown, -, rfl⟩ := Option.map_eq_some_iff.mp hgame
    obtain ⟨grown', -, rfl⟩ := Option.map_eq_some_iff.mp htwin
    exact .inr ⟨_, _, _, rfl, htwin, (congrArg Prod.fst heq).symm⟩

end Twins

end Game

end GridSession
