import GridSession.Proofs.Game.Enrolment
import GridSession.Proofs.GameLoop.Run
import GridSession.Role.Server

namespace GridSession

/-- Sessions numbered from one on, each with an endpoint of its own. -/
structure Session.Numbered (sessions : List Session) : Prop where
  ids_eq : sessions.map Session.id = (List.range' 1 sessions.length).map UInt32.ofNat
  endpoint_v4 : ∀ session ∈ sessions, ∃ endpoint, session.endpoint = some (.v4 endpoint)
  nodup_endpoints : (sessions.map Session.endpoint).Nodup

theorem Session.Numbered.nil : Session.Numbered [] :=
  ⟨rfl, fun _ h => absurd h List.not_mem_nil, List.nodup_nil⟩

theorem Session.Numbered.mem_ids_iff {sessions : List Session} (h : Session.Numbered sessions)
    (hlength : sessions.length < UInt32.size) (id : UInt32) :
    id ∈ sessions.map Session.id ↔ 1 ≤ id.toNat ∧ id.toNat ≤ sessions.length := by
  rw [h.ids_eq, List.mem_map]
  constructor
  · rintro ⟨number, hmem, rfl⟩
    rw [List.mem_range'_1] at hmem
    rw [UInt32.toNat_ofNat_of_lt' (by omega)]
    omega
  · intro hid
    exact ⟨id.toNat, List.mem_range'_1.mpr (by omega), UInt32.ofNat_toNat⟩

namespace Server

/-- The sessions after one more event, which comes with the time of its tick. The first login of an
endpoint opens a session under the next number while there is room, and nothing else opens one. -/
def enlist (limit : Nat) (sessions : List Session) : Nat × Event → List Session
  | (now, .login received) =>
    let endpoint := some (SocketAddress.v4 received.envelope.payload.returnTo)
    if endpoint ∈ sessions.map Session.endpoint ∨ limit ≤ sessions.length then sessions
    else sessions ++ [⟨UInt32.ofNat (sessions.length + 1), endpoint, now⟩]
  | _ => sessions

variable {limit : Nat} {sessions : List Session}

theorem enlist_login_of_room (now : Nat) {received : Received Login}
    (hnew : some (.v4 received.envelope.payload.returnTo) ∉ sessions.map Session.endpoint)
    (hroom : sessions.length < limit) :
    enlist limit sessions (now, .login received)
      = sessions ++ [⟨UInt32.ofNat (sessions.length + 1),
        some (.v4 received.envelope.payload.returnTo), now⟩] :=
  if_neg (not_or.mpr ⟨hnew, Nat.not_le.mpr hroom⟩)

theorem prefix_enlist (event : Nat × Event) : sessions <+: enlist limit sessions event := by
  unfold enlist
  split
  · dsimp only
    split_ifs
    · exact List.prefix_rfl
    · exact List.prefix_append ..
  · exact List.prefix_rfl

theorem prefix_foldl_enlist (events : List (Nat × Event)) :
    sessions <+: events.foldl (enlist limit) sessions := by
  induction events generalizing sessions with
  | nil => exact List.prefix_rfl
  | cons event rest ih => exact (prefix_enlist event).trans ih

theorem length_enlist_le (h : sessions.length ≤ limit) (event : Nat × Event) :
    (enlist limit sessions event).length ≤ limit := by
  unfold enlist
  split
  · dsimp only
    split_ifs with hkept
    · exact h
    · rw [List.length_append, List.length_singleton]
      omega
  · exact h

theorem length_foldl_enlist_le (h : sessions.length ≤ limit) (events : List (Nat × Event)) :
    (events.foldl (enlist limit) sessions).length ≤ limit := by
  induction events generalizing sessions with
  | nil => exact h
  | cons event rest ih => exact ih (length_enlist_le h event)

theorem numbered_enlist (h : Session.Numbered sessions) (event : Nat × Event) :
    Session.Numbered (enlist limit sessions event) := by
  unfold enlist
  split
  · rename_i now received
    dsimp only
    split_ifs with hkept
    · exact h
    · have hnew : some (SocketAddress.v4 received.envelope.payload.returnTo)
          ∉ sessions.map Session.endpoint := fun hmem => hkept (.inl hmem)
      refine ⟨?_, ?_, ?_⟩
      · -- the next number continues the range
        rw [List.map_append, h.ids_eq, List.length_append, List.length_singleton,
          List.range'_concat, List.map_append, Nat.one_mul, Nat.add_comm 1]
        rfl
      · intro session hmem
        rcases List.mem_append.mp hmem with hold | hadded
        · exact h.endpoint_v4 session hold
        · rw [List.mem_singleton.mp hadded]
          exact ⟨_, rfl⟩
      · rw [List.map_append]
        exact h.nodup_endpoints.append (List.nodup_singleton _)
          (List.disjoint_singleton.mpr hnew)
  · exact h

theorem numbered_foldl_enlist (h : Session.Numbered sessions) (events : List (Nat × Event)) :
    Session.Numbered (events.foldl (enlist limit) sessions) := by
  induction events generalizing sessions with
  | nil => exact h
  | cons event rest ih => exact ih (numbered_enlist h event)

/-- A game's table of sessions as a server keeps it. -/
structure Table (game : Game) : Prop where
  numbered : Session.Numbered game.roster.sessions
  size_le : game.roster.size ≤ game.maxPlayers.toNat
  nextPlayerId_eq : game.nextPlayerId = UInt32.ofNat (game.roster.size + 1)

theorem Table.ofParams (params : GameParams) : Table (.ofParams params) :=
  ⟨Session.Numbered.nil, Nat.zero_le _, rfl⟩

theorem Table.consecutive {game : Game} (h : Table game) : game.Consecutive := by
  refine ⟨?_, h.size_le, h.nextPlayerId_eq⟩
  rw [← Roster.map_id_sessions, h.numbered.ids_eq, Roster.length_sessions]

theorem Table.nextPlayerId_notMem {game : Game} (h : Table game)
    (hroom : game.roster.size < game.maxPlayers.toNat) :
    game.nextPlayerId ∉ game.roster.ids :=
  h.consecutive.nextPlayerId_notMem hroom

/-- What events make of a game: the table grows as `enlist` says and the limit stays. -/
structure Enlists (game : Game) (events : List (Nat × Event)) (after : Game) : Prop where
  sessions_eq : after.roster.sessions
    = events.foldl (enlist game.maxPlayers.toNat) game.roster.sessions
  maxPlayers_eq : after.maxPlayers = game.maxPlayers
  nextPlayerId_eq : after.nextPlayerId = UInt32.ofNat (after.roster.size + 1)

namespace Enlists

variable {game middle after : Game} {events more : List (Nat × Event)}

theorem refl (h : Table game) : Enlists game [] game :=
  ⟨rfl, rfl, h.nextPlayerId_eq⟩

theorem trans (h : Enlists game events middle) (hmore : Enlists middle more after) :
    Enlists game (events ++ more) after := by
  refine ⟨?_, hmore.maxPlayers_eq.trans h.maxPlayers_eq, hmore.nextPlayerId_eq⟩
  rw [hmore.sessions_eq, h.sessions_eq, h.maxPlayers_eq, List.foldl_append]

theorem sessions_prefix (h : Enlists game events after) :
    game.roster.sessions <+: after.roster.sessions :=
  h.sessions_eq ▸ prefix_foldl_enlist events

theorem table (h : Enlists game events after) (htable : Table game) : Table after := by
  refine ⟨?_, ?_, h.nextPlayerId_eq⟩
  · rw [h.sessions_eq]
    exact numbered_foldl_enlist htable.numbered events
  · rw [← Roster.length_sessions, h.sessions_eq, h.maxPlayers_eq]
    exact length_foldl_enlist_le (by rw [Roster.length_sessions]; exact htable.size_le) events

end Enlists

end Server

end GridSession
