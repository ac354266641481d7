import GridSession.Game.Basic
import GridSession.Proofs.Player.Sessions
import Mathlib.Data.List.Nodup

namespace GridSession

namespace Game

/-- One of the calls that change who plays and where. -/
inductive Call where
  | register (id : UInt32) (now : Nat)
  | enroll (endpoint : SocketAddress) (now : Nat)
  | place (id : UInt32) (position : Position)
deriving DecidableEq

/-- The game after a call. A call that is refused leaves it as it was. -/
def after (game : Game) : Call → Game
  | .register id now =>
    match game.register? id now with
    | some (grown, _) => grown
    | none => game
  | .enroll endpoint now =>
    match game.enroll endpoint now with
    | .ok enrolment => enrolment.game
    | .error _ => game
  | .place id position =>
    match game.place id position with
    | .ok moved => moved
    | .error _ => game

def afterAll (game : Game) (calls : List Call) : Game :=
  calls.foldl after game

/-- What enrolling promises: the player is that of the endpoint and new exactly if the endpoint had
none, and enrolling once more at any time finds the same player and changes nothing. -/
def EnrollsOnce (game : Game) (endpoint : SocketAddress) (now : Nat) : Prop :=
  ∀ enrolment, game.enroll endpoint now = .ok enrolment →
    enrolment.player.endpoint = some endpoint
    ∧ (enrolment.created = true ↔ some endpoint ∉ game.roster.players.map Player.endpoint)
    ∧ (enrolment.created = true → enrolment.game.roster.size = game.roster.size + 1)
    ∧ ∀ later, ∃ again, enrolment.game.enroll endpoint later = .ok again
      ∧ again.player.id = enrolment.player.id ∧ again.created = false
      ∧ again.game = enrolment.game

/-- There is room for a new endpoint, but the number it is due is taken. -/
def Collides (game : Game) (endpoint : SocketAddress) : Prop :=
  some endpoint ∉ game.roster.players.map Player.endpoint
    ∧ game.roster.size < game.maxPlayers.toNat ∧ game.nextPlayerId ∈ game.roster.ids

variable {game : Game} {endpoint : SocketAddress}

/-- An enrolment finds the endpoint's player, is refused by a full game, stumbles over a number that
is taken, or lets a new player in. -/
theorem enroll_cases (game : Game) (endpoint : SocketAddress) (now : Nat) :
    (∃ player, game.roster.withEndpoint? endpoint = some player
      ∧ game.enroll endpoint now = .ok ⟨game, player, false⟩)
    ∨ (some endpoint ∉ game.roster.players.map Player.endpoint
      ∧ game.maxPlayers.toNat ≤ game.roster.size
      ∧ game.enroll endpoint now = .error (.serverFull game.maxPlayers))
    ∨ (some endpoint ∉ game.roster.players.map Player.endpoint
      ∧ game.roster.size < game.maxPlayers.toNat
      ∧ ∃ player, game.roster.get? game.nextPlayerId = some player
        ∧ game.enroll endpoint now
          = .ok ⟨{ game with nextPlayerId := game.nextPlayerId + 1 }, player, true⟩)
    ∨ (some endpoint ∉ game.roster.players.map Player.endpoint
      ∧ game.roster.size < game.maxPlayers.toNat
      ∧ game.nextPlayerId ∉ game.roster.ids
      ∧ ∃ roster : Roster, roster.players = game.roster.players
          ++ [.joining game.nextPlayerId (some endpoint) now]
        ∧ game.enroll endpoint now
          = .ok ⟨{ game with roster, nextPlayerId := game.nextPlayerId + 1 },
            .joining game.nextPlayerId (some endpoint) now, true⟩) := by
  cases hfound : game.roster.withEndpoint? endpoint with
  | some player => exact .inl ⟨player, rfl, by simp only [enroll, hfound]⟩
  | none =>
    have habsent := Roster.withEndpoint?_eq_none_iff.mp hfound
    rw [Roster.map_endpoint_sessions] at habsent
    refine .inr ?_
    by_cases hfull : game.maxPlayers.toNat ≤ game.roster.size
    · exact .inl ⟨habsent, hfull, by simp only [enroll, hfound, if_pos hfull]⟩
    · have hroom : game.roster.size < game.maxPlayers.toNat := by omega
      refine .inr ?_
      by_cases htaken : game.nextPlayerId ∈ game.roster.ids
      · obtain ⟨player, hmem, hid⟩ := List.mem_map.mp htaken
        have hget := Roster.get?_eq_some_iff.mpr ⟨hmem, hid⟩
        have hinsert : game.roster.insert?
            (.joining game.nextPlayerId (some endpoint) now) = none := dif_pos htaken
        refine .inl ⟨habsent, hroom, player, hget, ?_⟩
        simp only [enroll, hfound, if_neg hfull, hinsert, hget, Option.getD_some]
      · obtain ⟨roster, hinsert, hplayers⟩ := Roster.insert?_eq_some
          (.joining game.nextPlayerId (some endpoint) now) htaken
        refine .inr ⟨habsent, hroom, htaken, roster, hplayers, ?_⟩
        simp only [enroll, hfound, if_neg hfull, hinsert]

theorem enroll_of_withEndpoint? {player : Player}
    (h : game.roster.withEndpoint? endpoint = some player) (now : Nat) :
    game.enroll endpoint now = .ok ⟨game, player, false⟩ := by
  simp only [enroll, h]

theorem EnrollsOnce.of_not_collides (h : ¬ game.Collides endpoint) (now : Nat) :
    game.EnrollsOnce endpoint now := by
  intro enrolment henrolment
  rcases enroll_cases game endpoint now with
    ⟨player, hfound, henroll⟩ | ⟨-, -, henroll⟩ | ⟨habsent, hroom, player, hget, -⟩
    | ⟨habsent, -, -, roster, hplayers, henroll⟩
  · rw [henroll] at henrolment
    cases henrolment
    obtain ⟨hmem, hendpoint⟩ := Roster.withEndpoint?_eq_some hfound
    have hknown := List.mem_map.mpr ⟨player, hmem, hendpoint⟩
    exact ⟨hendpoint, ⟨nofun, fun habsent => absurd hknown habsent⟩, nofun,
      fun later => ⟨_, enroll_of_withEndpoint? hfound later, rfl, rfl, rfl⟩⟩
  · rw [henroll] at henrolment
    cases henrolment
  · -- somebody under the next id is just the collision that is ruled out
    obtain ⟨hmem, hid⟩ := Roster.get?_eq_some_iff.mp hget
    exact absurd ⟨habsent, hroom, List.mem_map.mpr ⟨player, hmem, hid⟩⟩ h
  · rw [henroll] at henrolment
    cases henrolment
    have hfound := Roster.withEndpoint?_of_joined habsent rfl hplayers
    have hsize := Roster.size_of_joined hplayers
    exact ⟨rfl, ⟨fun _ => habsent, fun _ => rfl⟩, fun _ => hsize,
      fun later => ⟨_, enroll_of_withEndpoint? hfound later, rfl, rfl, rfl⟩⟩

/-- Under a number that is taken the endpoint is given a player of another endpoint or of none. -/
theorem Collides.not_enrollsOnce (h : game.Collides endpoint) (now : Nat) :
    ¬ game.EnrollsOnce endpoint now := by
  intro hpromise
  obtain ⟨habsent, hroom, htaken⟩ := h
  rcases enroll_cases game endpoint now with
    ⟨player, hfound, -⟩ | ⟨-, hfull, -⟩ | ⟨-, -, player, hget, henroll⟩ | ⟨-, -, hfree, -⟩
  · obtain ⟨hmem, hendpoint⟩ := Roster.withEndpoint?_eq_some hfound
    exact habsent (List.mem_map.mpr ⟨player, hmem, hendpoint⟩)
  · omega
  · have hendpoint := (hpromise _ henroll).1
    exact habsent (List.mem_map.mpr ⟨player, (Roster.get?_eq_some_iff.mp hget).1, hendpoint⟩)
  · exact hfree htaken

theorem enrollsOnce_iff (now : Nat) :
    game.EnrollsOnce endpoint now ↔ ¬ game.Collides endpoint :=
  ⟨fun hpromise hcollides => hcollides.not_enrollsOnce now hpromise,
    fun h => .of_not_collides h now⟩

theorem place_eq_ok {moved : Game} {id : UInt32} {position : Position}
    (h : game.place id position = .ok moved) :
    ∃ player grid, game.roster.get? id = some player
      ∧ moved = { game with grid }.move player position := by
  unfold place at h
  split at h
  · cases h
  · rename_i player hget
    split at h
    · cases h
    · split at h
      · cases h
      · split at h
        · cases h
          exact ⟨player, game.grid, hget, rfl⟩
        · unfold putOnCell at h
          split_ifs at h
          cases h
          exact ⟨player, _, hget, rfl⟩

theorem sessions_place {moved : Game} {id : UInt32} {position : Position}
    (h : game.place id position = .ok moved) : moved.roster.sessions = game.roster.sessions := by
  obtain ⟨player, grid, hget, rfl⟩ := place_eq_ok h
  exact Roster.sessions_replace (Roster.get?_eq_some_iff.mp hget).1 rfl

/-- A call leaves the sessions as they are or adds one, whose endpoint is new if it has one. -/
theorem sessions_after (game : Game) (call : Call) :
    (game.after call).roster.sessions = game.roster.sessions
    ∨ ∃ session, (game.after call).roster.sessions = game.roster.sessions ++ [session]
      ∧ ∀ endpoint, session.endpoint = some endpoint
        → some endpoint ∉ game.roster.sessions.map Session.endpoint := by
  cases call with
  | register id now =>
    by_cases htaken : id ∈ game.roster.ids
    · have hinsert : game.roster.insert? (.joining id none now) = none := dif_pos htaken
      refine .inl ?_
      simp only [after, register?, hinsert, Option.map_none]
    · obtain ⟨roster, hinsert, hplayers⟩ :=
        Roster.insert?_eq_some (.joining id none now) htaken
      -- a player added by hand has no endpoint to share
      refine .inr ⟨⟨id, none, now⟩, ?_, nofun⟩
      simp only [after, register?, hinsert, Option.map_some, Roster.sessions, hplayers,
        List.map_append]
      rfl
  | enroll endpoint now =>
    rcases enroll_cases game endpoint now with
      ⟨player, -, henroll⟩ | ⟨-, -, henroll⟩ | ⟨-, -, player, -, henroll⟩
      | ⟨habsent, -, -, roster, hplayers, henroll⟩
    · exact .inl (by simp only [after, henroll])
    · exact .inl (by simp only [after, henroll])
    · exact .inl (by simp only [after, henroll])
    · refine .inr ⟨⟨game.nextPlayerId, some endpoint, now⟩, ?_, ?_⟩
      · simp only [after, henroll, Roster.sessions, hplayers, List.map_append]
        rfl
      · rintro _ ⟨⟩
        rwa [Roster.map_endpoint_sessions]
  | place id position =>
    refine .inl ?_
    cases hplace : game.place id position with
    | error refusal => simp only [after, hplace]
    | ok moved =>
      simp only [after, hplace]
      exact sessions_place hplace

/-- No endpoint has two players. -/
def Unambiguous (game : Game) : Prop :=
  ∀ first ∈ game.roster.sessions, ∀ second ∈ game.roster.sessions, ∀ endpoint,
    first.endpoint = some endpoint → second.endpoint = some endpoint → first = second

theorem Unambiguous.after (h : game.Unambiguous) (call : Call) : (game.after call).Unambiguous := by
  unfold Unambiguous
  rcases sessions_after game call with hkept | ⟨session, hadded, hnew⟩
  · rw [hkept]
    exact h
  · -- only a new session could repeat an endpoint, and its own was nobody's
    rw [hadded]
    intro first hfirst second hsecond endpoint hendpoint hendpoint'
    rcases List.mem_append.mp hfirst with hold | hlast
    · rcases List.mem_append.mp hsecond with hold' | hlast'
      · exact h first hold second hold' endpoint hendpoint hendpoint'
      · obtain rfl := List.mem_singleton.mp hlast'
        exact absurd (List.mem_map.mpr ⟨first, hold, hendpoint⟩) (hnew endpoint hendpoint')
    · obtain rfl := List.mem_singleton.mp hlast
      rcases List.mem_append.mp hsecond with hold' | hlast'
      · exact absurd (List.mem_map.mpr ⟨second, hold', hendpoint'⟩) (hnew endpoint hendpoint)
      · exact (List.mem_singleton.mp hlast').symm

theorem Unambiguous.afterAll (h : game.Unambiguous) (calls : List Call) :
    (game.afterAll calls).Unambiguous := by
  induction calls generalizing game with
  | nil => exact h
  | cons call rest ih => exact ih (h.after call)

/-- Players are numbered from one on without a gap, and the next number is due next. -/
structure Consecutive (game : Game) : Prop where
  ids_eq : game.roster.ids = (List.range' 1 game.roster.size).map UInt32.ofNat
  size_le : game.roster.size ≤ game.maxPlayers.toNat
  nextPlayerId_eq : game.nextPlayerId = UInt32.ofNat (game.roster.size + 1)

namespace Consecutive

theorem ofParams (params : GameParams) : Consecutive (.ofParams params) :=
  ⟨rfl, Nat.zero_le _, rfl⟩

theorem nextPlayerId_notMem (h : game.Consecutive)
    (hroom : game.roster.size < game.maxPlayers.toNat) :
    game.nextPlayerId ∉ game.roster.ids := by
  have hlimit : game.maxPlayers.toNat < UInt32.size := game.maxPlayers.toNat_lt
  rw [h.nextPlayerId_eq, h.ids_eq, List.mem_map]
  rintro ⟨number, hmem, heq⟩
  rw [List.mem_range'_1] at hmem
  -- no number in the range wraps around, and the new one is none of them
  have hnumber := congrArg UInt32.toNat heq
  rw [UInt32.toNat_ofNat_of_lt' (by omega), UInt32.toNat_ofNat_of_lt' (by omega)] at hnumber
  omega

theorem not_collides (h : game.Consecutive) : ¬ game.Collides endpoint :=
  fun hcollides => h.nextPlayerId_notMem hcollides.2.1 hcollides.2.2

theorem after (h : game.Consecutive) {call : Call} (hcall : ∀ id now, call ≠ .register id now) :
    (game.after call).Consecutive := by
  cases call with
  | register id now => exact absurd rfl (hcall id now)
  | enroll endpoint now =>
    rcases enroll_cases game endpoint now with
      ⟨player, -, henroll⟩ | ⟨-, -, henroll⟩ | ⟨-, hroom, player, hget, -⟩
      | ⟨-, hroom, -, roster, hplayers, henroll⟩
    · simpa only [Game.after, henroll] using h
    · simpa only [Game.after, henroll] using h
    · obtain ⟨hmem, hid⟩ := Roster.get?_eq_some_iff.mp hget
      exact absurd (List.mem_map.mpr ⟨player, hmem, hid⟩) (h.nextPlayerId_notMem hroom)
    · have hsize := Roster.size_of_joined hplayers
      simp only [Game.after, henroll]
      refine ⟨?_, ?_, ?_⟩
      · -- the number that was due continues the range
        rw [hsize, List.range'_concat, List.map_append, Nat.one_mul, Nat.add_comm 1, ← h.ids_eq,
          Roster.ids, hplayers, List.map_append]
        simp only [List.map_cons, List.map_nil, ← h.nextPlayerId_eq]
        rfl
      · rwa [hsize]
      · rw [hsize, UInt32.ofNat_add _ 1, ← h.nextPlayerId_eq]
        rfl
  | place id position =>
    cases hplace : game.place id position with
    | error refusal => simpa only [Game.after, hplace] using h
    | ok moved =>
      have hsessions := sessions_place hplace
      obtain ⟨player, grid, hget, rfl⟩ := place_eq_ok hplace
      simp only [Game.after, hplace]
      refine ⟨?_, ?_, ?_⟩
      · rw [← Roster.map_id_sessions, ← Roster.length_sessions, hsessions, Roster.map_id_sessions,
          Roster.length_sessions]
        exact h.ids_eq
      · rw [← Roster.length_sessions, hsessions, Roster.length_sessions]
        exact h.size_le
      · rw [← Roster.length_sessions, hsessions, Roster.length_sessions]
        exact h.nextPlayerId_eq

theorem afterAll (h : game.Consecutive) {calls : List Call}
    (hcalls : ∀ id now, Call.register id now ∉ calls) : (game.afterAll calls).Consecutive := by
  induction calls generalizing game with
  | nil => exact h
  | cons call rest ih =>
    have hcall : ∀ id now, call ≠ .register id now :=
      fun id now heq => hcalls id now (heq ▸ List.mem_cons_self)
    exact ih (h.after hcall) fun id now hmem => hcalls id now (List.mem_cons_of_mem _ hmem)

end Consecutive

/-- In every game that calls lead to, enrolling keeps its promise exactly unless the number that a
new endpoint is due is taken, and no endpoint has two players. Numbers are only ever taken by
players registered from outside. -/
theorem enrollsOnce_afterAll_iff (params : GameParams) (calls : List Call)
    (endpoint : SocketAddress) (now : Nat) :
    let game := (ofParams params).afterAll calls
    (game.EnrollsOnce endpoint now ↔ ¬ game.Collides endpoint)
    ∧ (∀ first ∈ game.roster.players, ∀ second ∈ game.roster.players,
      first.endpoint = some endpoint → second.endpoint = some endpoint → first = second)
    ∧ ((∀ id now, Call.register id now ∉ calls) → game.EnrollsOnce endpoint now) := by
  intro game
  refine ⟨enrollsOnce_iff now, ?_, fun hcalls => ?_⟩
  · intro first hfirst second hsecond hendpoint hendpoint'
    have hstart : (ofParams params).Unambiguous := fun _ hmem => absurd hmem List.not_mem_nil
    have hsession := hstart.afterAll calls first.session (List.mem_map_of_mem hfirst)
      second.session (List.mem_map_of_mem hsecond) endpoint hendpoint hendpoint'
    exact List.inj_on_of_nodup_map game.roster.nodup_ids hfirst hsecond
      (congrArg Session.id hsession)
  · exact .of_not_collides ((Consecutive.ofParams params).afterAll hcalls).not_collides now

theorem enrollsOnce_after_enroll_and_place :
    ((ofParams {}).afterAll [.enroll (.v4 ⟨.localhost, 40000⟩) 0, .place 1 ⟨3, 5⟩]).EnrollsOnce
      (.v4 ⟨.localhost, 40000⟩) 7 :=
  (enrollsOnce_afterAll_iff {} _ _ 7).2.2 (by simp)

theorem not_enrollsOnce_after_register :
    ¬ ((ofParams {}).afterAll [.register 1 0]).EnrollsOnce (.v4 ⟨.localhost, 40000⟩) 0 :=
  Collides.not_enrollsOnce ⟨by decide, by decide, by decide⟩ 0

end Game

end GridSession
