import GridSession.Proofs.Server.Sessions

namespace GridSession

/-- An event that shows a session to be alive. The id of no player names nobody. -/
def Session.HeardIn (session : Session) : Event → Prop
  | .login received => session.endpoint = some (.v4 received.envelope.payload.returnTo)
  | .ping received =>
    received.envelope.payload.playerId ≠ noPlayer
      ∧ received.envelope.payload.playerId = session.id
  | .acknowledge _ => False

instance (session : Session) : DecidablePred session.HeardIn
  | .login _ => inferInstanceAs (Decidable (_ = _))
  | .ping _ => inferInstanceAs (Decidable (_ ∧ _))
  | .acknowledge _ => inferInstanceAs (Decidable False)

namespace Server

/-- The time of the tick that handled the last event in which a session was heard. -/
def lastHeard? (events : List (Nat × Event)) (session : Session) : Option Nat :=
  (events.filter (session.HeardIn ·.2)).getLast?.map Prod.fst

section LastHeard

variable {events : List (Nat × Event)} {session : Session} {event : Event} {now : Nat}

theorem lastHeard?_append_of_heard (h : session.HeardIn event) :
    lastHeard? (events ++ [(now, event)]) session = some now := by
  simp [lastHeard?, List.filter_append, h]

theorem lastHeard?_append_of_not_heard (h : ¬ session.HeardIn event) :
    lastHeard? (events ++ [(now, event)]) session = lastHeard? events session := by
  simp [lastHeard?, List.filter_append, h]

end LastHeard

/-- Every player's last message came when the player was last heard. -/
def UpToDate (earlier : List (Nat × Event)) (game : Game) : Prop :=
  ∀ player ∈ game.roster.players, lastHeard? earlier player.session = some player.lastMessage

section UpToDate

variable {earlier : List (Nat × Event)} {station : Station Server} {player : Player}
  {event : Event} {now : Nat}

theorem UpToDate.of_unheard {game : Game} (h : UpToDate earlier game)
    (hunheard : ∀ player ∈ game.roster.players, ¬ player.session.HeardIn event) :
    UpToDate (earlier ++ [(now, event)]) game := by
  intro player hmem
  rw [lastHeard?_append_of_not_heard (hunheard player hmem)]
  exact h player hmem

/-- It is enough that the others are up to date and unheard, for the served player is touched. -/
theorem upToDate_serve {α : Type} [Payload α] {target : SocketAddress}
    {reply : UInt32 → Envelope α} (hheard : player.session.HeardIn event)
    (hothers : ∀ other ∈ station.game.roster.players, other.id ≠ player.id →
      lastHeard? earlier other.session = some other.lastMessage ∧ ¬ other.session.HeardIn event) :
    UpToDate (earlier ++ [(now, event)]) (serve now player target reply station).1.game := by
  intro other hmem
  rcases mem_players_serve hmem with ⟨hsession, -, hlast⟩ | ⟨hid, hold⟩
  · rw [hsession, hlast]
    exact lastHeard?_append_of_heard hheard
  · obtain ⟨hupToDate, hunheard⟩ := hothers other hold hid
    rw [lastHeard?_append_of_not_heard hunheard]
    exact hupToDate

theorem onLogin_upToDate (htable : Table station.game) (h : UpToDate earlier station.game)
    (moment : Moment) (received : Received Login) :
    UpToDate (earlier ++ [(moment.now, .login received)])
      (onLogin moment received station).game := by
  have hunheard : some (SocketAddress.v4 received.envelope.payload.returnTo)
      ∉ station.game.roster.sessions.map Session.endpoint →
      ∀ other ∈ station.game.roster.players, ¬ other.session.HeardIn (.login received) := by
    intro hnew other hmem hheard
    exact hnew (List.mem_map.mpr ⟨other.session, List.mem_map_of_mem hmem, hheard⟩)
  rcases onLogin_cases htable moment received with
    ⟨player, hmem, hendpoint, hlogin⟩ | ⟨hnew, -, hlogin⟩ | ⟨hnew, -, roster, hplayers, hlogin⟩
  · rw [hlogin, game_answerLogin]
    refine upToDate_serve hendpoint fun other hother hid => ⟨h other hother, fun hheard => hid ?_⟩
    -- no two players have the same endpoint
    have hnodup : (station.game.roster.players.map Player.endpoint).Nodup := by
      rw [← Roster.map_endpoint_sessions]
      exact htable.numbered.nodup_endpoints
    have hsame : other.endpoint = player.endpoint := hheard.trans hendpoint.symm
    rw [List.inj_on_of_nodup_map hnodup hother hmem hsame]
  · rw [hlogin]
    exact h.of_unheard (hunheard hnew)
  · rw [hlogin, game_answerLogin]
    refine upToDate_serve rfl fun other hother hid => ?_
    change other ∈ roster.players at hother
    rw [hplayers] at hother
    rcases List.mem_append.mp hother with hold | hjoined
    · exact ⟨h other hold, hunheard hnew other hold⟩
    · exact absurd (congrArg Player.id (List.mem_singleton.mp hjoined)) hid

theorem onPing_upToDate (h : UpToDate earlier station.game) (moment : Moment)
    (received : Received Ping) :
    UpToDate (earlier ++ [(moment.now, .ping received)]) (onPing moment received station).game := by
  rcases onPing_cases moment received station with
    ⟨hnone, hping⟩ | ⟨hunknown, hping⟩ | ⟨hplayer, player, hfound, hping⟩
  · rw [hping]
    exact h.of_unheard fun _ _ hheard => hheard.1 hnone
  · rw [hping]
    refine h.of_unheard fun player hmem hheard => ?_
    rw [Roster.get?_eq_some_iff.mpr ⟨hmem, hheard.2.symm⟩] at hunknown
    cases hunknown
  · obtain ⟨hmem, hid⟩ := Roster.get?_eq_some_iff.mp hfound
    rw [hping]
    refine upToDate_serve ⟨hplayer, hid.symm⟩ fun other hother hother_id => ?_
    exact ⟨h other hother, fun hheard => hother_id (hheard.2.symm.trans hid.symm)⟩

/-- Handling an event brings those up to date who are heard in it. -/
theorem handle_upToDate (htable : Table station.game) (h : UpToDate earlier station.game)
    (moment : Moment) (event : Event) :
    UpToDate (earlier ++ [(moment.now, event)]) (station.handle moment event).game := by
  let told := station.tell (.handling event.action event.sender)
  have htold : UpToDate earlier told.game := h
  have htoldTable : Table told.game := htable
  cases event with
  | login received => exact onLogin_upToDate htoldTable htold moment received
  | ping received => exact onPing_upToDate htold moment received
  | acknowledge received => exact h.of_unheard fun _ _ hheard => hheard

end UpToDate

end Server

end GridSession
