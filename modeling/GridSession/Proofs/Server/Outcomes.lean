import GridSession.Proofs.GameLoop.Decoding
import GridSession.Proofs.Server.Reply

namespace GridSession

/-- What is told of a player's silence. -/
inductive Report where
  | silent
  | active
deriving DecidableEq

/-- A silence is a warning, and its end is news. -/
def Report.level : Report → Level
  | silent => .warn
  | active => .info

namespace Note

/-- The report of a silence in a note, if it is one. -/
def report? : Note → Option (UInt32 × Report)
  | playerSilent id _ => some (id, .silent)
  | playerActive id => some (id, .active)
  | _ => none

theorem level_of_report? {note : Note} {told : UInt32 × Report} (h : note.report? = some told) :
    note.level = told.2.level := by
  unfold report? at h
  split at h
  · cases h
    rfl
  · cases h
    rfl
  · cases h

/-- A warning other than the report of a silence. -/
def complains (note : Note) : Bool :=
  decide (note.level = .warn ∧ note.report? = none)

def ignores : Note → Bool
  | actionMissing _ | acknowledgmentIgnored .. => true
  | _ => false

theorem quiet_of_report? {note : Note} {told : UInt32 × Report} (h : note.report? = some told) :
    note.complains = false ∧ note.ignores = false := by
  refine ⟨by simp [complains, h], ?_⟩
  unfold report? at h
  split at h
  · rfl
  · rfl
  · cases h

end Note

def Event.isAcknowledge : Event → Bool
  | .acknowledge _ => true
  | _ => false

def Datagram.hasNoAction (datagram : Datagram) : Bool :=
  match Message.decode datagram.bytes with
  | .ok message => decide (message.action = .none)
  | .error _ => false

namespace GameLoop

/-- An arriving datagram is queued, or one note tells that it was not. -/
theorem arrival_settled (datagram : Datagram) :
    (Event.decoded? datagram).toList.length
        + (arrivalNotes datagram).countP Note.complains
        + (arrivalNotes datagram).countP Note.ignores = 1
      ∧ (arrivalNotes datagram).countP Note.ignores = datagram.hasNoAction.toNat := by
  unfold Event.decoded? arrivalNotes Datagram.hasNoAction
  cases Message.decode datagram.bytes with
  | error error => exact ⟨rfl, rfl⟩
  | ok message =>
    dsimp only
    cases hread : Event.ofDatagram? datagram message.action with
    | none =>
      rw [Event.ofDatagram?_eq_none_iff.mp hread]
      exact ⟨rfl, rfl⟩
    | some result =>
      -- only the action `none` belongs to no kind
      have haction : message.action ≠ .none := by
        intro hnone
        rw [Event.ofDatagram?_eq_none_iff.mpr hnone] at hread
        cases hread
      rw [decide_eq_false haction]
      cases result with
      | error error => exact ⟨rfl, rfl⟩
      | ok event => exact ⟨rfl, rfl⟩

theorem arrivalNotes_no_report (datagram : Datagram) :
    ∀ note ∈ arrivalNotes datagram, note.report? = none := by
  intro note hmem
  rcases mem_arrivalNotes hmem with ⟨error, rfl⟩ | ⟨message, rfl⟩ | rfl | ⟨action, error, rfl⟩
  · rfl
  · rfl
  · rfl
  · rfl

end GameLoop

namespace Server

/-- What lies between two stations: the datagrams that were sent and the notes that were written. -/
structure Leaves (before after : Station Server) (sent : List Outgoing) (notes : List Note) :
    Prop where
  sent_eq : after.transport.sent = before.transport.sent ++ sent
  journal_eq : after.journal = before.journal ++ notes

namespace Leaves

variable {before middle after : Station Server} {sent more : List Outgoing}
  {notes later : List Note}

theorem refl (station : Station Server) : Leaves station station [] [] :=
  ⟨(List.append_nil _).symm, (List.append_nil _).symm⟩

theorem trans (h : Leaves before middle sent notes) (hmore : Leaves middle after more later) :
    Leaves before after (sent ++ more) (notes ++ later) := by
  constructor
  · rw [hmore.sent_eq, h.sent_eq, List.append_assoc]
  · rw [hmore.journal_eq, h.journal_eq, List.append_assoc]

theorem tell (station : Station Server) (note : Note) :
    Leaves station (station.tell note) [] [note] :=
  ⟨(List.append_nil _).symm, rfl⟩

end Leaves

/-- How an event can end. An acknowledgment is ignored. Any other event is answered by one datagram
or one complaint tells why it was not. Nothing is told of silences. -/
structure Settles (event : Event) (sent : List Outgoing) (notes : List Note) : Prop where
  settled : sent.length + notes.countP Note.complains + notes.countP Note.ignores = 1
  ignores_eq : notes.countP Note.ignores = event.isAcknowledge.toNat
  no_report : ∀ note ∈ notes, note.report? = none

variable {station : Station Server}

section Serve

variable {α : Type} [Payload α] (now : Nat) (player : Player) (target : SocketAddress)
  (reply : UInt32 → Envelope α) (station : Station Server)

theorem serve_leaves :
    (∃ outgoing id, (serve now player target reply station).2 = true
      ∧ Leaves station (serve now player target reply station).1 [outgoing]
        [.messageSent (Payload.action α) id player.id target])
    ∨ ∃ error, (serve now player target reply station).2 = false
      ∧ Leaves station (serve now player target reply station).1 []
        [.sendingFailed (Payload.action α) player.id target error] := by
  unfold serve Station.sendTracked
  dsimp only
  rw [Player.sendTracked_eq]
  rcases station.transport.send_cases
      ⟨target, Frame.wrap (reply (player.touch now).takeMessageId.1).body⟩ with
    ⟨after, hsend, hsent⟩ | ⟨error, after, hsend, hsent⟩
  · rw [hsend]
    exact .inl ⟨_, _, rfl, hsent, rfl⟩
  · rw [hsend]
    exact .inr ⟨error, rfl, hsent.trans (List.append_nil _).symm, rfl⟩

end Serve

section Settles

variable {event : Event} {sent : List Outgoing} {notes : List Note} {note : Note}

theorem Settles.cons (h : Settles event sent notes) (hcomplains : note.complains = false)
    (hignores : note.ignores = false) (hreport : note.report? = none) :
    Settles event sent (note :: notes) := by
  refine ⟨?_, ?_, ?_⟩
  · simpa [hcomplains, hignores] using h.settled
  · simpa [hignores] using h.ignores_eq
  · simpa [hreport] using h.no_report

theorem answerLogin_settles (moment : Moment) (received : Received Login) (player : Player)
    (station : Station Server) :
    ∃ sent notes, Leaves station (answerLogin moment received player station) sent notes
      ∧ Settles (.login received) sent notes := by
  unfold answerLogin
  dsimp only
  rcases serve_leaves moment.now player (.v4 received.envelope.payload.returnTo)
      (loginReply player received) station with
    ⟨outgoing, id, hdelivered, hleaves⟩ | ⟨error, hdelivered, hleaves⟩
  · rw [if_pos hdelivered]
    exact ⟨_, _, hleaves.trans (.tell ..), rfl, rfl, by simp [Note.report?]⟩
  · rw [if_neg (by simp [hdelivered])]
    exact ⟨_, _, hleaves, rfl, rfl, by simp [Note.report?]⟩

def enrolmentNote (enrolment : Enrolment) (endpoint : SocketAddress) : Note :=
  if enrolment.created then .playerCreated enrolment.player.id endpoint
  else .playerReturned enrolment.player.id endpoint

theorem onLogin_of_enroll_eq_ok {moment : Moment} {received : Received Login}
    {station : Station Server} {enrolment : Enrolment}
    (h : station.game.enroll (.v4 received.envelope.payload.returnTo) moment.now = .ok enrolment) :
    onLogin moment received station
      = answerLogin moment received enrolment.player ({ station with game := enrolment.game }.tell
        (enrolmentNote enrolment (.v4 received.envelope.payload.returnTo))) := by
  simp only [onLogin, h]
  rfl

theorem onLogin_settles (moment : Moment) (received : Received Login) (station : Station Server) :
    ∃ sent notes, Leaves station (onLogin moment received station) sent notes
      ∧ Settles (.login received) sent notes := by
  cases henroll : station.game.enroll (.v4 received.envelope.payload.returnTo) moment.now with
  | error refusal =>
    simp only [onLogin, henroll]
    exact ⟨_, _, .tell .., rfl, rfl, by simp [Note.report?]⟩
  | ok enrolment =>
    let note := enrolmentNote enrolment (.v4 received.envelope.payload.returnTo)
    let enrolled : Station Server := { station with game := enrolment.game }
    have hfirst : Leaves station (enrolled.tell note) [] [note] := ⟨(List.append_nil _).symm, rfl⟩
    obtain ⟨sent, notes, hleaves, hsettles⟩ :=
      answerLogin_settles moment received enrolment.player (enrolled.tell note)
    rw [onLogin_of_enroll_eq_ok henroll]
    refine ⟨sent, note :: notes, hfirst.trans hleaves, ?_⟩
    simp only [note, enrolmentNote]
    split_ifs
    · exact hsettles.cons rfl rfl rfl
    · exact hsettles.cons rfl rfl rfl

theorem onPing_settles (moment : Moment) (received : Received Ping) (station : Station Server) :
    ∃ sent notes, Leaves station (onPing moment received station) sent notes
      ∧ Settles (.ping received) sent notes := by
  rcases onPing_cases moment received station with
    ⟨-, hping⟩ | ⟨-, hping⟩ | ⟨-, player, -, hping⟩
  · rw [hping]
    exact ⟨_, _, .tell .., rfl, rfl, by simp [Note.report?]⟩
  · rw [hping]
    exact ⟨_, _, .tell .., rfl, rfl, by simp [Note.report?]⟩
  · rw [hping]
    rcases serve_leaves moment.now player (player.endpoint.getD received.sender)
        (pingReply received) station with ⟨outgoing, id, -, hleaves⟩ | ⟨error, -, hleaves⟩
    · exact ⟨_, _, hleaves, rfl, rfl, by simp [Note.report?]⟩
    · exact ⟨_, _, hleaves, rfl, rfl, by simp [Note.report?]⟩

/-- Every event ends in one way, whatever state the server is in. -/
theorem handle_settles (moment : Moment) (event : Event) (station : Station Server) :
    ∃ sent notes, Leaves station (station.handle moment event) sent notes
      ∧ Settles event sent notes := by
  let told := station.tell (.handling event.action event.sender)
  have hhandled : ∃ sent notes, Leaves told (station.handle moment event) sent notes
      ∧ Settles event sent notes := by
    cases event with
    | login received => exact onLogin_settles moment received told
    | ping received => exact onPing_settles moment received told
    | acknowledge received => exact ⟨_, _, .tell .., rfl, rfl, by simp [Note.report?]⟩
  obtain ⟨sent, notes, hleaves, hsettles⟩ := hhandled
  exact ⟨_, _, Leaves.trans (.tell ..) hleaves, hsettles.cons rfl rfl rfl⟩

/-- Events that are handled end one by one. -/
theorem handleAll_settles (now : Nat) (events : List Event) (station : Station Server) :
    ∃ sent notes, Leaves station (Station.handleAll now events station) sent notes
      ∧ sent.length + notes.countP Note.complains + events.countP Event.isAcknowledge
        = events.length
      ∧ ∀ note ∈ notes, note.report? = none := by
  induction events generalizing station with
  | nil => exact ⟨[], [], .refl station, rfl, by simp⟩
  | cons event rest ih =>
    obtain ⟨sent, notes, hleaves, hsettles⟩ := handle_settles ⟨now, rest.length⟩ event station
    obtain ⟨more, later, hmore, hcount, hreport⟩ := ih (station.handle ⟨now, rest.length⟩ event)
    refine ⟨_, _, hleaves.trans hmore, ?_, ?_⟩
    · have hsettled := hsettles.settled
      -- what is passed over are the acknowledgments, one note each
      have hignored : (if event.isAcknowledge then 1 else 0) = notes.countP Note.ignores := by
        rw [hsettles.ignores_eq]
        cases event.isAcknowledge <;> rfl
      rw [List.length_append, List.countP_append, List.countP_cons, List.length_cons, hignored]
      omega
    · intro note hmem
      rcases List.mem_append.mp hmem with hfirst | hrest
      · exact hsettles.no_report note hfirst
      · exact hreport note hrest

end Settles

theorem onTick_leaves (moment : Moment) (station : Station Server) :
    ∃ summary, Leaves station (onTick moment station).1 []
        (staleNotes station.driver.stale (station.game.staleIds moment.now)
          station.game.playerTimeout ++ summary)
      ∧ ∀ note ∈ summary, note.complains = false ∧ note.ignores = false ∧ note.report? = none := by
  unfold onTick
  dsimp only
  split_ifs with hsummary
  · refine ⟨[.tickSummary _ _ _], ⟨(List.append_nil _).symm, List.append_assoc ..⟩, ?_⟩
    simp [Note.complains, Note.ignores, Note.report?, Note.level]
  · exact ⟨[], ⟨(List.append_nil _).symm, (congrArg _ (List.append_nil _)).symm⟩, by simp⟩

theorem exists_report?_of_mem_staleNotes {before after : List UInt32} {timeout : Nat} {note : Note}
    (h : note ∈ staleNotes before after timeout) : ∃ told, note.report? = some told := by
  rcases List.mem_append.mp h with hsilent | hactive
  · obtain ⟨id, -, rfl⟩ := List.mem_map.mp hsilent
    exact ⟨_, rfl⟩
  · obtain ⟨id, -, rfl⟩ := List.mem_map.mp hactive
    exact ⟨_, rfl⟩

/-- Nothing comes to its end, or fails to, in the server's own work. -/
theorem onTick_settles (moment : Moment) (station : Station Server) :
    ∃ notes, Leaves station (onTick moment station).1 [] notes
      ∧ notes.countP Note.complains = 0 ∧ notes.countP Note.ignores = 0 := by
  obtain ⟨summary, hleaves, hsummary⟩ := onTick_leaves moment station
  have hquiet : ∀ note ∈ staleNotes station.driver.stale (station.game.staleIds moment.now)
      station.game.playerTimeout ++ summary, note.complains = false ∧ note.ignores = false := by
    intro note hmem
    rcases List.mem_append.mp hmem with hstale | hrest
    · obtain ⟨told, htold⟩ := exists_report?_of_mem_staleNotes hstale
      exact Note.quiet_of_report? htold
    · exact ⟨(hsummary note hrest).1, (hsummary note hrest).2.1⟩
  refine ⟨_, hleaves, ?_, ?_⟩
  · exact List.countP_eq_zero.mpr fun note hmem => by simp [(hquiet note hmem).1]
  · exact List.countP_eq_zero.mpr fun note hmem => by simp [(hquiet note hmem).2]

end Server

end GridSession
