import GridSession.Proofs.Client.Conduct
import GridSession.Proofs.GameLoop.Stimulus
import GridSession.Proofs.Server.Outcomes

namespace GridSession

variable {δ : Type}

def kept {α : Type} (marked : List (α × Bool)) : List α :=
  (marked.filter fun entry => !entry.2).map Prod.fst

theorem kept_append {α : Type} (first second : List (α × Bool)) :
    kept (first ++ second) = kept first ++ kept second := by
  simp [kept]

structure Station.SameButJournal (station twin : Station δ) : Prop where
  driver_eq : station.driver = twin.driver
  game_eq : station.game = twin.game
  transport_eq : station.transport = twin.transport

namespace Station.SameButJournal

variable {station twin other : Station δ}

theorem refl (station : Station δ) : SameButJournal station station :=
  ⟨rfl, rfl, rfl⟩

theorem symm (h : SameButJournal station twin) : SameButJournal twin station :=
  ⟨h.driver_eq.symm, h.game_eq.symm, h.transport_eq.symm⟩

theorem trans (h : SameButJournal station twin) (hmore : SameButJournal twin other) :
    SameButJournal station other :=
  ⟨h.driver_eq.trans hmore.driver_eq, h.game_eq.trans hmore.game_eq,
    h.transport_eq.trans hmore.transport_eq⟩

theorem tell (h : SameButJournal station twin) (note note' : Note) :
    SameButJournal (station.tell note) (twin.tell note') :=
  ⟨h.driver_eq, h.game_eq, h.transport_eq⟩

theorem exists_journal (h : SameButJournal station twin) :
    ∃ journal, twin = { station with journal } := by
  obtain ⟨driver, game, transport, journal⟩ := twin
  obtain ⟨rfl, rfl, rfl⟩ := h
  exact ⟨journal, rfl⟩

end Station.SameButJournal

theorem GameLoop.counted_same {loop thin : GameLoop δ}
    (h : loop.toStation.SameButJournal thin.toStation) :
    loop.counted.SameButJournal thin.counted := by
  refine ⟨h.driver_eq, ?_, h.transport_eq⟩
  rw [counted, counted, h.game_eq]

/-- An event when it is handled: the time of its tick, and the station that it meets. -/
structure Encounter (δ : Type) where
  now : Nat
  station : Station δ
  event : Event

def Station.encounters [Role δ] (now : Nat) : List Event → Station δ → List (Encounter δ)
  | [], _ => []
  | event :: rest, station =>
    ⟨now, station, event⟩ :: encounters now rest (station.handle ⟨now, rest.length⟩ event)

def Stimulus.event? [Orders δ] : Stimulus δ → Option Event
  | .datagram arrived => Event.decoded? arrived
  | .tick _ | .order _ => none

def queuedMarks [Orders δ] (marked : List (Stimulus δ × Bool)) : List Bool :=
  (marked.filter fun entry => entry.1.event?.isSome).map Prod.snd

namespace GameLoop

variable [Role δ] [Orders δ]

def met (loop : GameLoop δ) : Stimulus δ → List (Encounter δ)
  | .tick now => Station.encounters now loop.inbox loop.counted
  | .datagram _ | .order _ => []

/-- What the events of a history meet when they are handled, in the order in which they were
queued. -/
def encounters (loop : GameLoop δ) : List (Stimulus δ) → List (Encounter δ)
  | [] => []
  | stimulus :: rest => loop.met stimulus ++ (loop.respond stimulus).encounters rest

/-- Only datagrams are marked, and of those that are queued and handled only such whose event is
idle when it is handled. -/
structure MarksIdle (loop : GameLoop δ) (idle : Encounter δ → Prop)
    (marked : List (Stimulus δ × Bool)) : Prop where
  datagrams : ∀ entry ∈ marked, entry.2 = true → ∃ datagram, entry.1 = .datagram datagram
  events : ∀ handled ∈ (loop.encounters (marked.map Prod.fst)).zip (queuedMarks marked),
    handled.2 = true → idle handled.1

/-- Up to any moment of a history, the loop would be in the same state without what is marked, its
journal and what is waiting apart, and its ticks would have answered the same. -/
def Invisible (loop : GameLoop δ) (marked : List (Stimulus δ × Bool)) : Prop :=
  ∀ before after, marked = before ++ after →
    Station.SameButJournal (loop.respondAll (before.map Prod.fst)).toStation
      (loop.respondAll (kept before)).toStation
    ∧ loop.answers (before.map Prod.fst) = loop.answers (kept before)

end GameLoop

/-- A role that does not read the journal, nor how many events are waiting, and that does nothing
about an idle event but write it down. -/
structure Role.Overlooks [Role δ] [Orders δ] (idle : Encounter δ → Prop) : Prop where
  handle : ∀ {station twin : Station δ}, station.SameButJournal twin →
    ∀ now pending pending' event, (station.handle ⟨now, pending⟩ event).SameButJournal
      (twin.handle ⟨now, pending'⟩ event)
  idle : ∀ encounter, idle encounter → ∀ pending,
    (encounter.station.handle ⟨encounter.now, pending⟩ encounter.event).SameButJournal
      encounter.station
  onTick : ∀ {station twin : Station δ}, station.SameButJournal twin → ∀ moment,
    (Role.onTick moment station).1.SameButJournal (Role.onTick moment twin).1
      ∧ (Role.onTick moment station).2 = (Role.onTick moment twin).2
  obey : ∀ {station twin : Station δ}, station.SameButJournal twin → ∀ order,
    (Orders.obey order station).SameButJournal (Orders.obey order twin)

namespace Role.Overlooks

variable [Role δ] [Orders δ] {idle : Encounter δ → Prop}

/-- Of the events that wait for a tick the idle ones can be left out. -/
theorem handleAll (h : Overlooks idle) (now : Nat) {events : List Event} {marks : List Bool}
    (hlength : marks.length = events.length) {station twin : Station δ}
    (hsame : station.SameButJournal twin)
    (hidle : ∀ handled ∈ (Station.encounters now events station).zip marks, handled.2 = true →
      idle handled.1) :
    (Station.handleAll now events station).SameButJournal
      (Station.handleAll now (kept (events.zip marks)) twin) := by
  induction events generalizing marks station twin with
  | nil => exact hsame
  | cons event rest ih =>
    obtain ⟨mark, marks, rfl⟩ := List.exists_cons_of_length_eq_add_one hlength
    rw [Station.encounters, List.zip_cons_cons] at hidle
    have hrest : marks.length = rest.length := Nat.succ.inj hlength
    have hlater := fun handled hmem => hidle handled (List.mem_cons_of_mem _ hmem)
    cases mark with
    | true =>
      -- an idle event leaves the full station where the other one is without it
      have hevent := h.idle _ (hidle _ List.mem_cons_self rfl) rest.length
      exact ih hrest (hevent.trans hsame) hlater
    | false => exact ih hrest (h.handle hsame now rest.length _ event) hlater

end Role.Overlooks

theorem Station.events_encounters [Role δ] (now : Nat) (events : List Event)
    (station : Station δ) : (encounters now events station).map Encounter.event = events := by
  induction events generalizing station with
  | nil => rfl
  | cons event rest ih => rw [encounters, List.map_cons, ih]

theorem queuedMarks_append [Orders δ] (first second : List (Stimulus δ × Bool)) :
    queuedMarks (first ++ second) = queuedMarks first ++ queuedMarks second := by
  simp [queuedMarks]

theorem queuedMarks_datagram [Orders δ] (datagram : Datagram) (mark : Bool) :
    queuedMarks [((.datagram datagram : Stimulus δ), mark)]
      = (Event.decoded? datagram).toList.map fun _ => mark := by
  unfold queuedMarks Stimulus.event?
  cases hdecoded : Event.decoded? datagram <;> simp [hdecoded]

namespace GameLoop

variable [Role δ] [Orders δ] {loop thin : GameLoop δ} {marks : List Bool}

/-- The events that were handled and those that wait are those that were queued, in order. -/
theorem events_encounters_append_inbox (loop : GameLoop δ) (history : List (Stimulus δ)) :
    (loop.encounters history).map Encounter.event ++ (loop.respondAll history).inbox
      = loop.inbox ++ history.filterMap Stimulus.event? := by
  -- a tick moves what waits to what was met, and keeps the order
  induction history generalizing loop with
  | nil => exact (List.append_nil _).symm
  | cons stimulus rest ih =>
    have hrest : (loop.respondAll (stimulus :: rest)).inbox
        = ((loop.respond stimulus).respondAll rest).inbox := rfl
    rw [encounters, List.map_append, List.append_assoc, hrest, ih]
    cases stimulus with
    | datagram datagram =>
      rw [respond, onDatagram_eq]
      cases hevent : Event.decoded? datagram <;> simp [met, Stimulus.event?, hevent]
    | tick now =>
      rw [met, Station.events_encounters, List.filterMap_cons_none rfl]
      rfl
    | order order => rw [met, List.filterMap_cons_none rfl, respond, List.map_nil, List.nil_append]

/-- A loop and one that did without the marked events. Every waiting event has a mark. -/
structure Shadows (loop thin : GameLoop δ) (marks : List Bool) : Prop where
  same : loop.toStation.SameButJournal thin.toStation
  length_eq : marks.length = loop.inbox.length
  inbox_eq : thin.inbox = kept (loop.inbox.zip marks)

def marksAfter (marks : List Bool) (entry : Stimulus δ × Bool) : List Bool :=
  match entry.1 with
  | .tick _ => []
  | .datagram _ | .order _ => marks ++ queuedMarks [entry]

/-- Events are handled in the order in which they were queued, so marks and encounters go together
from one stimulus to the next. -/
theorem zip_encounters (hlength : marks.length = loop.inbox.length) (entry : Stimulus δ × Bool)
    (later : List (Stimulus δ × Bool)) :
    (loop.encounters ((entry :: later).map Prod.fst)).zip (marks ++ queuedMarks (entry :: later))
      = (loop.met entry.1).zip marks
        ++ ((loop.respond entry.1).encounters (later.map Prod.fst)).zip
          (marksAfter marks entry ++ queuedMarks later) := by
  have hqueued : queuedMarks (entry :: later) = queuedMarks [entry] ++ queuedMarks later :=
    queuedMarks_append [entry] later
  obtain ⟨stimulus, mark⟩ := entry
  rw [List.map_cons, encounters, hqueued, marksAfter]
  cases stimulus with
  | datagram datagram => exact congrArg _ (List.append_assoc ..).symm
  | tick now =>
    have hmet : (loop.met (.tick now)).length = marks.length := by
      rw [met, hlength, ← List.length_map, Station.events_encounters]
    exact List.zip_append hmet
  | order order => exact congrArg _ (List.append_assoc ..).symm

namespace Shadows

theorem omitted (h : loop.Shadows thin marks) (datagram : Datagram) :
    (loop.respond (.datagram datagram)).Shadows thin
      (marksAfter marks ((.datagram datagram : Stimulus δ), true)) := by
  obtain ⟨⟨hdriver, hgame, htransport⟩, hlength, hinbox⟩ := h
  rw [respond, onDatagram_eq, marksAfter, queuedMarks_datagram]
  refine ⟨⟨hdriver, hgame, htransport⟩, ?_, ?_⟩
  · simp [hlength]
  · dsimp only
    rw [List.zip_append hlength.symm, kept_append, hinbox]
    cases Event.decoded? datagram <;> simp [kept]

theorem received (h : loop.Shadows thin marks) (datagram : Datagram) :
    (loop.respond (.datagram datagram)).Shadows (thin.respond (.datagram datagram))
      (marksAfter marks ((.datagram datagram : Stimulus δ), false)) := by
  obtain ⟨⟨hdriver, hgame, htransport⟩, hlength, hinbox⟩ := h
  rw [respond, respond, onDatagram_eq, onDatagram_eq, marksAfter, queuedMarks_datagram]
  refine ⟨⟨hdriver, hgame, htransport⟩, ?_, ?_⟩
  · simp [hlength]
  · dsimp only
    rw [List.zip_append hlength.symm, kept_append, hinbox]
    cases Event.decoded? datagram <;> simp [kept]

end Shadows

end GameLoop

namespace Role.Overlooks

variable [Role δ] [Orders δ] {idle : Encounter δ → Prop} {loop thin : GameLoop δ}
  {marks : List Bool}

theorem tick (h : Overlooks idle) (hshadows : loop.Shadows thin marks) (now : Nat)
    (hidle : ∀ handled ∈ (loop.met (.tick now)).zip marks, handled.2 = true → idle handled.1) :
    (loop.tick now).1.toStation.SameButJournal (thin.tick now).1.toStation
      ∧ (loop.tick now).2 = (thin.tick now).2 := by
  obtain ⟨hsame, hlength, hinbox⟩ := hshadows
  rw [GameLoop.tick_eq, GameLoop.tick_eq, hinbox]
  exact h.onTick (h.handleAll now hlength (GameLoop.counted_same hsame) hidle) ⟨now, 0⟩

theorem handleAll_same (h : Overlooks idle) {station twin : Station δ}
    (hsame : station.SameButJournal twin) (now : Nat) (events : List Event) :
    (Station.handleAll now events station).SameButJournal
      (Station.handleAll now events twin) := by
  induction events generalizing station twin with
  | nil => exact hsame
  | cons event rest ih => exact ih (h.handle hsame now rest.length rest.length event)

theorem tick_same (h : Overlooks idle) (hsame : loop.toStation.SameButJournal thin.toStation)
    (hinbox : loop.inbox = thin.inbox) (now : Nat) :
    (loop.tick now).1.toStation.SameButJournal (thin.tick now).1.toStation
      ∧ (loop.tick now).2 = (thin.tick now).2 := by
  rw [GameLoop.tick_eq, GameLoop.tick_eq, hinbox]
  exact h.onTick (h.handleAll_same (GameLoop.counted_same hsame) now thin.inbox) ⟨now, 0⟩

theorem respond (h : Overlooks idle) (hshadows : loop.Shadows thin marks)
    (entry : Stimulus δ × Bool)
    (hdatagram : entry.2 = true → ∃ datagram, entry.1 = .datagram datagram)
    (hidle : ∀ handled ∈ (loop.met entry.1).zip marks, handled.2 = true → idle handled.1) :
    (loop.respond entry.1).Shadows (thin.respondAll (kept [entry]))
        (GameLoop.marksAfter marks entry)
      ∧ (loop.answer? entry.1).toList = thin.answers (kept [entry]) := by
  obtain ⟨stimulus, mark⟩ := entry
  cases mark with
  | true =>
    obtain ⟨datagram, rfl⟩ := hdatagram rfl
    -- an omitted datagram waits in the full loop alone, under a mark
    exact ⟨hshadows.omitted datagram, rfl⟩
  | false =>
    cases stimulus with
    | datagram datagram => exact ⟨hshadows.received datagram, rfl⟩
    | tick now =>
      obtain ⟨hsame, hanswer⟩ := h.tick hshadows now hidle
      exact ⟨⟨hsame, rfl, rfl⟩, congrArg (fun answer => [answer]) hanswer⟩
    | order order =>
      refine ⟨⟨h.obey hshadows.same order, ?_, ?_⟩, rfl⟩
      · exact (congrArg _ (List.append_nil marks)).trans hshadows.length_eq
      · have hmarks : GameLoop.marksAfter marks (.order order, false) = marks :=
          List.append_nil marks
        rw [hmarks]
        exact hshadows.inbox_eq

theorem respondAll (h : Overlooks idle) (before : List (Stimulus δ × Bool))
    {after : List (Stimulus δ × Bool)} (hshadows : loop.Shadows thin marks)
    (hdatagrams : ∀ entry ∈ before, entry.2 = true → ∃ datagram, entry.1 = .datagram datagram)
    (hidle : ∀ handled ∈ (loop.encounters ((before ++ after).map Prod.fst)).zip
      (marks ++ queuedMarks (before ++ after)), handled.2 = true → idle handled.1) :
    (loop.respondAll (before.map Prod.fst)).toStation.SameButJournal
      (thin.respondAll (kept before)).toStation
    ∧ loop.answers (before.map Prod.fst) = thin.answers (kept before) := by
  -- the condition speaks of the whole history, for an event may be handled after `before` ends
  induction before generalizing loop thin marks with
  | nil => exact ⟨hshadows.same, rfl⟩
  | cons entry rest ih =>
    rw [List.cons_append, GameLoop.zip_encounters hshadows.length_eq] at hidle
    obtain ⟨hnext, hanswer⟩ := h.respond hshadows entry (hdatagrams entry List.mem_cons_self)
      fun handled hmem => hidle handled (List.mem_append_left _ hmem)
    obtain ⟨hsame, hanswers⟩ := ih hnext
      (fun entry hmem => hdatagrams entry (List.mem_cons_of_mem _ hmem))
      (fun handled hmem => hidle handled (List.mem_append_right _ hmem))
    have hkept : kept (entry :: rest) = kept [entry] ++ kept rest := kept_append [entry] rest
    rw [hkept, GameLoop.answers_append, GameLoop.respondAll_append, List.map_cons,
      GameLoop.answers, hanswer, hanswers]
    exact ⟨hsame, rfl⟩

/-- What comes to nothing for a role can be left out of every history. -/
theorem invisible (h : Overlooks idle) (params : GameParams) (driver : δ) (transport : Transport)
    {marked : List (Stimulus δ × Bool)}
    (hmarks : (GameLoop.start params driver transport).MarksIdle idle marked) :
    (GameLoop.start params driver transport).Invisible marked := by
  rintro before after rfl
  have hstart : (GameLoop.start params driver transport).Shadows
      (GameLoop.start params driver transport) [] := ⟨.refl _, rfl, rfl⟩
  exact h.respondAll before hstart
    (fun entry hmem => hmarks.datagrams entry (List.mem_append_left _ hmem)) hmarks.events

end Role.Overlooks

namespace Server

/-- Comes to nothing at a server: an acknowledgment, a ping that names no player of the table, and a
login that a full table refuses. -/
def Idle (encounter : Encounter Server) : Prop :=
  match encounter.event with
  | .login received => ∃ limit, encounter.station.game.enroll
      (.v4 received.envelope.payload.returnTo) encounter.now = .error (.serverFull limit)
  | .ping received => received.envelope.payload.playerId = noPlayer
      ∨ received.envelope.payload.playerId ∉ encounter.station.game.roster.ids
  | .acknowledge _ => True

variable {station twin : Station Server}

theorem serve_same {α : Type} [Payload α] (h : station.SameButJournal twin) (now : Nat)
    (player : Player) (target : SocketAddress) (reply : UInt32 → Envelope α) :
    (serve now player target reply station).1.SameButJournal
      (serve now player target reply twin).1 := by
  obtain ⟨journal, rfl⟩ := h.exists_journal
  exact ⟨rfl, rfl, rfl⟩

theorem answerLogin_same (h : station.SameButJournal twin) (moment : Moment)
    (received : Received Login) (player : Player) :
    (answerLogin moment received player station).SameButJournal
      (serve moment.now player (.v4 received.envelope.payload.returnTo)
        (loginReply player received) twin).1 := by
  refine Station.SameButJournal.trans ?_ (serve_same h ..)
  unfold answerLogin
  dsimp only
  split_ifs <;> exact ⟨rfl, rfl, rfl⟩

theorem onLogin_same (h : station.SameButJournal twin) (now pending pending' : Nat)
    (received : Received Login) :
    (onLogin ⟨now, pending⟩ received station).SameButJournal
      (onLogin ⟨now, pending'⟩ received twin) := by
  have htwin := h.game_eq
  cases henroll : station.game.enroll (.v4 received.envelope.payload.returnTo) now with
  | error refusal =>
    have henroll' := htwin ▸ henroll
    simp only [onLogin, henroll, henroll']
    exact h.tell _ _
  | ok enrolment =>
    have henroll' := htwin ▸ henroll
    have hopened : Station.SameButJournal { station with game := enrolment.game }
        { twin with game := enrolment.game } := ⟨h.driver_eq, rfl, h.transport_eq⟩
    rw [onLogin_of_enroll_eq_ok henroll, onLogin_of_enroll_eq_ok henroll']
    exact (answerLogin_same (hopened.tell _ _) ⟨now, pending⟩ received enrolment.player).trans
      (answerLogin_same (.refl _) ⟨now, pending'⟩ received enrolment.player).symm

theorem onPing_same (h : station.SameButJournal twin) (now pending pending' : Nat)
    (received : Received Ping) :
    (onPing ⟨now, pending⟩ received station).SameButJournal
      (onPing ⟨now, pending'⟩ received twin) := by
  obtain ⟨journal, rfl⟩ := h.exists_journal
  unfold onPing
  dsimp only
  split_ifs
  · exact ⟨rfl, rfl, rfl⟩
  · cases station.game.roster.get? received.envelope.payload.playerId with
    | none => exact ⟨rfl, rfl, rfl⟩
    | some player => exact ⟨rfl, rfl, rfl⟩

theorem overlooks : Role.Overlooks Idle where
  handle h now pending pending' event := by
    have htold := h.tell (.handling event.action event.sender) (.handling event.action event.sender)
    cases event with
    | login received => exact onLogin_same htold now pending pending' received
    | ping received => exact onPing_same htold now pending pending' received
    | acknowledge received => exact htold.tell _ _
  idle encounter hidle pending := by
    obtain ⟨now, station, event⟩ := encounter
    let told := station.tell (.handling event.action event.sender)
    cases event with
    | login received =>
      obtain ⟨limit, hfull⟩ := hidle
      have henroll : told.game.enroll (.v4 received.envelope.payload.returnTo) now
        = .error (.serverFull limit) := hfull
      change (onLogin ⟨now, pending⟩ received told).SameButJournal station
      simp only [onLogin, henroll]
      exact ⟨rfl, rfl, rfl⟩
    | ping received =>
      change (onPing ⟨now, pending⟩ received told).SameButJournal station
      rcases onPing_cases ⟨now, pending⟩ received told with
        ⟨-, hping⟩ | ⟨-, hping⟩ | ⟨hnamed, player, hfound, -⟩
      · rw [hping]
        exact ⟨rfl, rfl, rfl⟩
      · rw [hping]
        exact ⟨rfl, rfl, rfl⟩
      · -- a ping that is answered names a player, so it was not an idle one
        obtain ⟨hmem, hid⟩ := Roster.get?_eq_some_iff.mp hfound
        have hknown := List.mem_map.mpr ⟨player, hmem, hid⟩
        exact (hidle.elim hnamed fun habsent => habsent hknown).elim
    | acknowledge received => exact ⟨rfl, rfl, rfl⟩
  onTick {station twin} h moment := by
    obtain ⟨journal, rfl⟩ := h.exists_journal
    change (onTick moment _).1.SameButJournal (onTick moment _).1
      ∧ (onTick moment _).2 = (onTick moment _).2
    unfold onTick
    dsimp only [reportStale]
    split_ifs <;> exact ⟨⟨rfl, rfl, rfl⟩, rfl⟩
  obey _ order := nomatch order

end Server

namespace Client

/-- Comes to nothing at a client: an acknowledgment, a ping, and a login that names no session or
one that has a player already, or that finds the client disconnected. -/
def Idle (encounter : Encounter Client) : Prop :=
  match encounter.event with
  | .login received => received.envelope.payload.session = noSession
      ∨ received.envelope.payload.session ∈ encounter.station.game.roster.ids
      ∨ encounter.station.driver.state = .disconnected
  | .ping _ | .acknowledge _ => True

variable {station twin : Station Client}

theorem onLogin_same (h : station.SameButJournal twin) (now pending pending' : Nat)
    (received : Received Login) :
    (onLogin ⟨now, pending⟩ received station).SameButJournal
      (onLogin ⟨now, pending'⟩ received twin) := by
  obtain ⟨journal, rfl⟩ := h.exists_journal
  unfold onLogin enter registerRemote
  dsimp only
  cases station.game.register? received.envelope.payload.session now <;>
    cases station.driver.state <;> split_ifs <;> exact ⟨rfl, rfl, rfl⟩

theorem onLogin_of_idle {now : Nat} {received : Received Login}
    (hidle : Idle ⟨now, station, .login received⟩) (pending : Nat) :
    (onLogin ⟨now, pending⟩ received station).SameButJournal station := by
  -- a login that names a session and reaches a client that stays is idle only if it is taken
  have htaken : received.envelope.payload.session ≠ noSession →
      station.driver.state ≠ .disconnected →
      received.envelope.payload.session ∈ station.game.roster.ids := by
    intro hsession hstate
    rcases hidle with hnone | htaken | hleft
    · exact absurd hnone hsession
    · exact htaken
    · exact absurd hleft hstate
  rcases onLogin_cases ⟨now, pending⟩ received station with
    ⟨-, hlogin⟩ | ⟨hsession, hstate, hlogin⟩ | ⟨hsession, hstate, hlogin⟩ | ⟨-, -, hlogin⟩
  · rw [hlogin]
    exact ⟨rfl, rfl, rfl⟩
  · have hmem := htaken hsession (hstate ▸ nofun)
    rcases enter_cases now received.envelope.payload.session station with
      ⟨-, henter⟩ | ⟨hnew, -⟩
    · rw [hlogin, henter]
      exact ⟨rfl, rfl, rfl⟩
    · exact absurd hmem hnew
  · have hmem := htaken hsession (hstate ▸ nofun)
    rcases registerRemote_cases now received.envelope.payload.session station with
      ⟨-, hremote⟩ | ⟨-, -, hremote⟩ | ⟨-, hnew, -⟩
    · rw [hlogin, hremote]
      exact ⟨rfl, rfl, rfl⟩
    · rw [hlogin, hremote]
      exact ⟨rfl, rfl, rfl⟩
    · exact absurd hmem hnew
  · rw [hlogin]
    exact ⟨rfl, rfl, rfl⟩

theorem tryPing_same (h : station.SameButJournal twin) (now : Nat) :
    (tryPing now station).SameButJournal (tryPing now twin) := by
  obtain ⟨journal, rfl⟩ := h.exists_journal
  unfold tryPing
  dsimp only
  split_ifs
  · cases station.driver.playerId with
    | none => exact ⟨rfl, rfl, rfl⟩
    | some id =>
      dsimp only
      cases station.game.roster.get? id with
      | none => exact ⟨rfl, rfl, rfl⟩
      | some player => exact ⟨rfl, rfl, rfl⟩
  · exact ⟨rfl, rfl, rfl⟩

theorem onTick_same (h : station.SameButJournal twin) (moment : Moment) :
    (onTick moment station).1.SameButJournal (onTick moment twin).1
      ∧ (onTick moment station).2 = (onTick moment twin).2 := by
  unfold onTick
  rw [← h.driver_eq]
  cases station.driver.state with
  | fresh =>
    refine ⟨?_, rfl⟩
    dsimp only
    rw [tryLogin_eq, tryLogin_eq, ← h.driver_eq]
    obtain ⟨journal, rfl⟩ := h.exists_journal
    split_ifs <;> exact ⟨rfl, rfl, rfl⟩
  | loggedIn => exact ⟨tryPing_same h moment.now, rfl⟩
  | disconnected => exact ⟨h, rfl⟩

theorem overlooks : Role.Overlooks Idle where
  handle h now pending pending' event := by
    have htold := h.tell (.handling event.action event.sender) (.handling event.action event.sender)
    cases event with
    | login received => exact onLogin_same htold now pending pending' received
    | ping received => exact htold.tell _ _
    | acknowledge received => exact htold.tell _ _
  idle encounter hidle pending := by
    obtain ⟨now, station, event⟩ := encounter
    let told := station.tell (.handling event.action event.sender)
    have htold : told.SameButJournal station := ⟨rfl, rfl, rfl⟩
    cases event with
    | login received =>
      have htold' : Idle ⟨now, told, .login received⟩ := hidle
      exact (onLogin_of_idle htold' pending).trans htold
    | ping received => exact ⟨rfl, rfl, rfl⟩
    | acknowledge received => exact ⟨rfl, rfl, rfl⟩
  onTick := onTick_same
  obey {station twin} h
    | .disconnect => by
      obtain ⟨journal, rfl⟩ := h.exists_journal
      change (disconnect _).SameButJournal (disconnect _)
      unfold disconnect
      dsimp only
      split_ifs <;> exact ⟨rfl, rfl, rfl⟩

end Client

namespace GameLoop

/-- Traffic without effect is invisible. Of whatever a server or a client is exposed to, any
datagrams can be left out that are not queued, or whose event is idle when it is handled. State,
players, grid, ticks, answers and all that is sent stay the same. -/
theorem ineffective_traffic_is_invisible (params : GameParams) (transport : Transport) :
    (∀ (server : Server) marked,
      (start params server transport).MarksIdle Server.Idle marked →
      (start params server transport).Invisible marked)
    ∧ ∀ (client : Client) marked,
      (start params client transport).MarksIdle Client.Idle marked →
      (start params client transport).Invisible marked :=
  ⟨fun server _ hmarks => Server.overlooks.invisible params server transport hmarks,
    fun client _ hmarks => Client.overlooks.invisible params client transport hmarks⟩

def loginFrom (port : UInt16) : Datagram :=
  ⟨.v4 ⟨.localhost, port⟩, Frame.wrap
    (Envelope.ofPayload { returnTo := ⟨.localhost, port⟩ : Login }).body⟩

def askedFrom (port : UInt16) : Received Login :=
  ⟨.v4 ⟨.localhost, port⟩, (Envelope.ofPayload { returnTo := ⟨.localhost, port⟩ : Login }).stamped⟩

/-- Two clients ask a server that has room for one. The second login is marked. -/
def crowd : List (Stimulus Server × Bool) :=
  [(.datagram (loginFrom 40000), false), (.datagram (loginFrom 40001), true), (.tick 5, false)]

/-- A login without a session reaches a client, and is marked. -/
def stray : List (Stimulus Client × Bool) :=
  [(.datagram (loginFrom 40000), true), (.tick 5, false)]

theorem decoded?_loginFrom :
    Event.decoded? (loginFrom 40000) = some (.login (askedFrom 40000))
      ∧ Event.decoded? (loginFrom 40001) = some (.login (askedFrom 40001)) := by
  decide

theorem marksIdle_crowd :
    (start { maxPlayers := 1 } ({} : Server)).MarksIdle Server.Idle crowd := by
  obtain ⟨hfirst, hsecond⟩ := decoded?_loginFrom
  have hmarks : queuedMarks crowd = [false, true] := by
    simp [queuedMarks, crowd, Stimulus.event?, hfirst, hsecond]
  constructor
  · intro entry hmem hmark
    simp only [crowd, List.mem_cons, List.not_mem_nil, or_false] at hmem
    rcases hmem with rfl | rfl | rfl
    · cases hmark
    · exact ⟨_, rfl⟩
    · cases hmark
  · rw [hmarks]
    simp only [crowd, List.map_cons, List.map_nil, encounters, met, respond,
      onDatagram_eq, hfirst, hsecond]
    rintro handled (_ | ⟨_, _ | ⟨_, hmem⟩⟩) hmark
    · cases hmark
    · exact ⟨1, rfl⟩
    · cases hmem

theorem marksIdle_stray (client : Client) :
    (start {} client).MarksIdle Client.Idle stray := by
  obtain ⟨hdecoded, -⟩ := decoded?_loginFrom
  have hmarks : queuedMarks stray = [true] := by
    simp [queuedMarks, stray, Stimulus.event?, hdecoded]
  constructor
  · intro entry hmem hmark
    simp only [stray, List.mem_cons, List.not_mem_nil, or_false] at hmem
    rcases hmem with rfl | rfl
    · exact ⟨_, rfl⟩
    · cases hmark
  · rw [hmarks]
    simp only [stray, List.map_cons, List.map_nil, encounters, met, respond,
      onDatagram_eq, hdecoded]
    rintro handled (_ | ⟨_, hmem⟩) hmark
    · exact .inl rfl
    · cases hmem

/-- The server answers its one client as if the other had not asked, and the client goes on as if
the login had not come. -/
theorem crowd_and_stray_invisible :
    ((start { maxPlayers := 1 } ({} : Server)).MarksIdle Server.Idle crowd
      ∧ (start { maxPlayers := 1 } ({} : Server)).Invisible crowd)
    ∧ (start {} (default : Client)).MarksIdle Client.Idle stray
      ∧ (start {} (default : Client)).Invisible stray :=
  ⟨⟨marksIdle_crowd, (ineffective_traffic_is_invisible { maxPlayers := 1 } {}).1 {} crowd
    marksIdle_crowd⟩, marksIdle_stray default,
    (ineffective_traffic_is_invisible {} {}).2 default stray (marksIdle_stray default)⟩

end GameLoop

end GridSession
