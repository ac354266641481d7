import GridSession.Proofs.GameLoop.Arrivals
import GridSession.Proofs.Server.Sessions

namespace GridSession

/-- A ping was dropped since the player in it is none or not known. -/
def Note.DropsPing : Note → Prop
  | .pingWithoutPlayer _ | .pingForUnknownPlayer .. => True
  | _ => False

namespace Server

/-- The table has a player under the id, and its endpoint is this one. -/
def Assigns (game : Game) (id : UInt32) (endpoint : IPv4Endpoint) : Prop :=
  ∃ player, game.roster.get? id = some player ∧ player.endpoint = some (.v4 endpoint)

section Assigns

variable {game after : Game} {id other : UInt32} {endpoint : IPv4Endpoint}

theorem assigns_iff : Assigns game id endpoint
    ↔ ∃ session ∈ game.roster.sessions,
      session.id = id ∧ session.endpoint = some (.v4 endpoint) := by
  constructor
  · rintro ⟨player, hfound, hendpoint⟩
    exact ⟨player.session, Roster.mem_sessions_of_get? hfound,
      (Roster.get?_eq_some_iff.mp hfound).2, hendpoint⟩
  · rintro ⟨session, hmem, rfl, hendpoint⟩
    obtain ⟨player, hfound, rfl⟩ := Roster.exists_get?_of_mem_sessions hmem
    exact ⟨player, hfound, hendpoint⟩

theorem Assigns.of_enlists {events : List (Nat × Event)} (h : Assigns game id endpoint)
    (henlists : Enlists game events after) : Assigns after id endpoint := by
  obtain ⟨session, hmem, hsession⟩ := assigns_iff.mp h
  exact assigns_iff.mpr ⟨session, henlists.sessions_prefix.subset hmem, hsession⟩

/-- An endpoint has one session at most. -/
theorem Assigns.id_eq (htable : Table game) (h : Assigns game id endpoint)
    (hother : Assigns game other endpoint) : id = other := by
  obtain ⟨session, hmem, rfl, hendpoint⟩ := assigns_iff.mp h
  obtain ⟨session', hmem', rfl, hendpoint'⟩ := assigns_iff.mp hother
  rw [List.inj_on_of_nodup_map htable.numbered.nodup_endpoints hmem hmem'
    (hendpoint.trans hendpoint'.symm)]

theorem Assigns.exists_withEndpoint? (h : Assigns game id endpoint) (htable : Table game) :
    ∃ player, game.roster.withEndpoint? (.v4 endpoint) = some player ∧ player.id = id := by
  obtain ⟨player, hfound, hendpoint⟩ := h
  obtain ⟨hmem, hid⟩ := Roster.get?_eq_some_iff.mp hfound
  have hnodup : (game.roster.players.map Player.endpoint).Nodup := by
    rw [← Roster.map_endpoint_sessions]
    exact htable.numbered.nodup_endpoints
  refine ⟨player, ?_, hid⟩
  rw [Roster.withEndpoint?, ← hendpoint]
  exact find?_of_nodup_map hnodup hmem

theorem Assigns.endpoint_eq {endpoint' : IPv4Endpoint} (h : Assigns game id endpoint)
    (hother : Assigns game id endpoint') : endpoint = endpoint' := by
  obtain ⟨player, hfound, hendpoint⟩ := h
  obtain ⟨player', hfound', hendpoint'⟩ := hother
  rw [hfound] at hfound'
  cases hfound'
  rw [hendpoint] at hendpoint'
  cases hendpoint'
  rfl

end Assigns

/-- A reply goes to an IPv4 endpoint, and a session in it is that endpoint's. -/
def IsReply (game : Game) (outgoing : Outgoing) : Prop :=
  ∃ endpoint, outgoing.target = .v4 endpoint
    ∧ Frame.Carries (Event.Grants (Assigns game) endpoint) outgoing.bytes

theorem IsReply.of_enlists {game after : Game} {events : List (Nat × Event)} {outgoing : Outgoing}
    (h : IsReply game outgoing) (henlists : Enlists game events after) :
    IsReply after outgoing := by
  obtain ⟨endpoint, htarget, hcarries⟩ := h
  exact ⟨endpoint, htarget, hcarries.mono fun _ hgrants =>
    hgrants.mono fun _ _ hassigns => hassigns.of_enlists henlists⟩

/-- No ping was dropped so far. -/
def Quiet (station : Station Server) : Prop :=
  ∀ note ∈ station.journal, ¬ note.DropsPing

/-- A server that keeps its table, whose replies are all true and that dropped no ping. -/
structure Honest (station : Station Server) : Prop where
  table : Table station.game
  sent : ∀ outgoing ∈ station.transport.sent, IsReply station.game outgoing
  quiet : Quiet station

variable {station after : Station Server}

theorem Quiet.tell (h : Quiet station) {note : Note} (hnote : ¬ note.DropsPing) :
    Quiet (station.tell note) := by
  intro other hmem
  rcases List.mem_append.mp hmem with hold | hnew
  · exact h other hold
  · rwa [List.mem_singleton.mp hnew]

theorem Honest.tell (h : Honest station) {note : Note} (hnote : ¬ note.DropsPing) :
    Honest (station.tell note) :=
  ⟨h.table, h.sent, h.quiet.tell hnote⟩

theorem start_honest (params : GameParams) (fails : Nat → Bool) :
    Honest (GameLoop.start params ({} : Server) { fails }).toStation where
  table := .ofParams params
  sent _ h := absurd h List.not_mem_nil
  quiet _ h := absurd h List.not_mem_nil

/-- Honesty is kept by every change that follows `enlist`, adds replies and drops no ping. -/
theorem Honest.of_enlists {events : List (Nat × Event)} (h : Honest station)
    (henlists : Enlists station.game events after.game)
    (hsent : ∀ outgoing ∈ after.transport.sent,
      outgoing ∈ station.transport.sent ∨ IsReply after.game outgoing)
    (hquiet : Quiet after) : Honest after where
  table := henlists.table h.table
  sent outgoing hmem := by
    rcases hsent outgoing hmem with hold | hnew
    · exact (h.sent outgoing hold).of_enlists henlists
    · exact hnew
  quiet := hquiet

theorem quiet_serve {α : Type} [Payload α] {now : Nat} {player : Player} {target : SocketAddress}
    {reply : UInt32 → Envelope α} (h : Quiet station) :
    Quiet (serve now player target reply station).1 := by
  intro note hmem
  rcases mem_journal_serve hmem with hold | rfl | ⟨error, rfl⟩
  · exact h note hold
  · exact not_false
  · exact not_false

section AnswerLogin

variable {moment : Moment} {received : Received Login} {player other : Player}

theorem quiet_answerLogin (h : Quiet station) :
    Quiet (answerLogin moment received player station) := by
  intro note hmem
  rcases mem_journal_answerLogin hmem with hserved | rfl
  · exact quiet_serve h note hserved
  · exact not_false

theorem sent_answerLogin (hmem : other ∈ station.game.roster.players)
    (hsession : player.session = other.session)
    (hendpoint : player.endpoint = some (.v4 received.envelope.payload.returnTo)) :
    ∀ outgoing ∈ (answerLogin moment received player station).transport.sent,
      outgoing ∈ station.transport.sent
        ∨ IsReply (answerLogin moment received player station).game outgoing := by
  have hassigns : Assigns (answerLogin moment received player station).game player.id
      received.envelope.payload.returnTo := by
    refine assigns_iff.mpr ⟨player.session, ?_, rfl, hendpoint⟩
    rw [sessions_answerLogin hmem hsession, hsession]
    exact List.mem_map_of_mem hmem
  intro outgoing hsent
  rw [transport_answerLogin] at hsent
  rcases mem_sent_serve hsent with hold | rfl
  · exact .inl hold
  · exact .inr ⟨_, rfl, Frame.carries_login fun _ _ => hassigns⟩

end AnswerLogin

theorem onLogin_honest (h : Honest station) (moment : Moment) (received : Received Login) :
    Honest (onLogin moment received station) := by
  have henlists := onLogin_enlists h.table moment received
  rcases onLogin_cases h.table moment received with
    ⟨player, hmem, hendpoint, hlogin⟩ | ⟨-, -, hlogin⟩ | ⟨-, -, roster, hplayers, hlogin⟩
  · rw [hlogin] at henlists ⊢
    exact h.of_enlists henlists (sent_answerLogin hmem rfl hendpoint)
      (quiet_answerLogin (h.quiet.tell not_false))
  · rw [hlogin]
    exact h.tell not_false
  · have hmem := joining_mem_opened hplayers
    rw [hlogin] at henlists ⊢
    exact h.of_enlists henlists (sent_answerLogin hmem rfl rfl)
      (quiet_answerLogin (h.quiet.tell not_false))

theorem onPing_honest (h : Honest station) (moment : Moment) {received : Received Ping}
    (hnames : (Event.ping received).Names (Assigns station.game)) :
    Honest (onPing moment received station) := by
  have henlists := onPing_enlists h.table moment received
  obtain ⟨hplayer, endpoint, player, hfound, hendpoint⟩ := hnames
  rcases onPing_cases moment received station with
    ⟨hnone, -⟩ | ⟨hunknown, -⟩ | ⟨-, player', hfound', hping⟩
  · -- both ways to drop the ping contradict what it names
    exact absurd hnone hplayer
  · rw [hfound] at hunknown
    cases hunknown
  · rw [hfound] at hfound'
    cases hfound'
    rw [hping] at henlists ⊢
    refine h.of_enlists henlists (fun outgoing hmem => ?_) (quiet_serve h.quiet)
    rcases mem_sent_serve hmem with hold | rfl
    · exact .inl hold
    · rw [hendpoint]
      exact .inr ⟨endpoint, rfl, Frame.carries_acknowledge fun _ => trivial⟩

theorem handle_honest (h : Honest station) (moment : Moment) {event : Event}
    (hnames : event.Names (Assigns station.game)) : Honest (station.handle moment event) := by
  have htold : Honest (station.tell (.handling event.action event.sender)) := h.tell not_false
  cases event with
  | login received => exact onLogin_honest htold moment received
  | ping received => exact onPing_honest htold moment hnames
  | acknowledge received => exact htold.tell not_false

theorem onTick_honest (h : Honest station) (moment : Moment) :
    Honest (onTick moment station).1 := by
  -- what is reported of silences grants no session
  have hreported : Honest (reportStale moment.now station) := by
    refine ⟨h.table, h.sent, fun note hmem => ?_⟩
    rcases List.mem_append.mp hmem with hold | hnew
    · exact h.quiet note hold
    · rcases List.mem_append.mp hnew with hsilent | hactive
      · obtain ⟨id, -, rfl⟩ := List.mem_map.mp hsilent
        exact not_false
      · obtain ⟨id, -, rfl⟩ := List.mem_map.mp hactive
        exact not_false
  unfold onTick
  dsimp only
  split_ifs
  · exact hreported.tell not_false
  · exact hreported

theorem onDatagram_honest {loop : GameLoop Server} (h : Honest loop.toStation)
    (datagram : Datagram) : Honest (loop.onDatagram datagram).toStation := by
  rw [GameLoop.onDatagram_eq]
  refine ⟨h.table, h.sent, fun note hmem => ?_⟩
  rcases List.mem_append.mp hmem with hold | hnew
  · exact h.quiet note hold
  · -- nor does anything that is noted when a datagram arrives
    unfold GameLoop.arrivalNotes at hnew
    split at hnew
    · rw [List.mem_singleton.mp hnew]
      exact not_false
    · rcases List.mem_cons.mp hnew with rfl | hrest
      · exact not_false
      · split at hrest
        · rw [List.mem_singleton.mp hrest]
          exact not_false
        · exact absurd hrest List.not_mem_nil
        · rw [List.mem_singleton.mp hrest]
          exact not_false

/-- A tick keeps a server honest if all waiting pings name sessions of its table. -/
theorem tick_honest {loop : GameLoop Server} (h : Honest loop.toStation)
    (hinbox : ∀ event ∈ loop.inbox, event.Names (Assigns loop.game)) (now : Nat) :
    Honest (loop.tick now).1.toStation := by
  have hcounted : Honest loop.counted :=
    ⟨⟨h.table.1, h.table.2, h.table.3⟩, h.sent, h.quiet⟩
  -- what was assigned before the tick stays assigned while its events are handled
  have hhandled := Station.handleAll_induction
    (P := fun station => Honest station
      ∧ ∀ id endpoint, Assigns loop.game id endpoint → Assigns station.game id endpoint)
    (fun event hmem moment station hstation => by
      have hnames := (hinbox event hmem).mono hstation.2
      refine ⟨handle_honest hstation.1 moment hnames, fun id endpoint hassigns => ?_⟩
      exact (hstation.2 id endpoint hassigns).of_enlists
        (handle_enlists hstation.1.table moment event))
    now ⟨hcounted, fun _ _ hassigns => hassigns⟩
  exact onTick_honest hhandled.1 ⟨now, 0⟩

end Server

end GridSession
