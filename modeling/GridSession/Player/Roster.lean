import GridSession.Player.Basic

namespace GridSession

/-- The players of a game in the order in which they joined, no two under one id. -/
structure Roster where
  players : List Player
  nodup_ids : (players.map Player.id).Nodup

namespace Roster

def empty : Roster :=
  ⟨[], List.nodup_nil⟩

def ids (roster : Roster) : List UInt32 :=
  roster.players.map Player.id

def size (roster : Roster) : Nat :=
  roster.players.length

def get? (roster : Roster) (id : UInt32) : Option Player :=
  roster.players.find? (·.id == id)

def withEndpoint? (roster : Roster) (endpoint : SocketAddress) : Option Player :=
  roster.players.find? (·.endpoint == some endpoint)

theorem map_id_replace (players : List Player) (player : Player) :
    (players.map fun other => if other.id = player.id then player else other).map Player.id
      = players.map Player.id := by
  induction players with
  | nil => rfl
  | cons head tail ih => by_cases h : head.id = player.id <;> simp [h] <;> simpa using ih

/-- Puts a player in the place of the one with its id. -/
def replace (roster : Roster) (player : Player) : Roster where
  players := roster.players.map fun other => if other.id = player.id then player else other
  nodup_ids := map_id_replace roster.players player ▸ roster.nodup_ids

/-- Adds a player whose id is not taken. -/
def insert? (roster : Roster) (player : Player) : Option Roster :=
  if h : player.id ∈ roster.ids then none
  else some {
    players := roster.players ++ [player]
    nodup_ids := by
      rw [List.map_append, List.nodup_append]
      refine ⟨roster.nodup_ids, by simp, ?_⟩
      intro id id_mem other other_mem same
      simp at other_mem
      exact h (other_mem ▸ same ▸ id_mem) }

/-- The players by ascending id. -/
def sorted (roster : Roster) : List Player :=
  roster.players.mergeSort fun first second => decide (first.id ≤ second.id)

end Roster

end GridSession
