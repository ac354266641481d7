import GridSession.GameLoop.Basic
import GridSession.Proofs.Envelope.RoundTrip
import GridSession.Proofs.Frame.Damaged

namespace GridSession

namespace Event

def decoded? (datagram : Datagram) : Option Event :=
  match Message.decode datagram.bytes with
  | .error _ => none
  | .ok message =>
    match ofDatagram? datagram message.action with
    | some (.ok event) => some event
    | _ => none

theorem decoded?_of_unwrap_ne_ok {datagram : Datagram}
    (h : ∀ opened, Frame.unwrap datagram.bytes ≠ .ok opened) : decoded? datagram = none := by
  cases hunwrap : Frame.unwrap datagram.bytes with
  | error error => rw [decoded?, Message.decode, hunwrap, Except.map]
  | ok opened => exact absurd hunwrap (h opened)

theorem decoded?_eq_some {datagram : Datagram} {message : Message} {event : Event}
    (hmessage : Message.decode datagram.bytes = .ok message)
    (hevent : ofDatagram? datagram message.action = some (.ok event)) :
    decoded? datagram = some event := by
  simp only [decoded?, hmessage, hevent]

section Kind

variable {α : Type} [Payload α] [Payload.FitsFrame α] {toEvent : Received α → Event}

/-- An encoded envelope is queued as its own kind of event, unless its digest is zero. -/
theorem decoded?_wrap_body
    (hkind : ∀ datagram, ofDatagram? datagram (Payload.action α)
      = some ((Received.ofDatagram α datagram).map toEvent))
    (sender : SocketAddress) (envelope : Envelope α) :
    decoded? ⟨sender, Frame.wrap envelope.body⟩
      = if Digest.fnv1a envelope.body = 0 then none
        else some (toEvent ⟨sender, envelope.stamped⟩) := by
  split_ifs with hdigest
  · -- every reader refuses a digest of zero
    apply decoded?_of_unwrap_ne_ok
    intro opened hopened
    rw [Frame.unwrap_wrap_of_digest_eq_zero hdigest] at hopened
    cases hopened
  · -- the action in the frame chooses the kind that it was encoded as
    have hmessage : Message.decode (Frame.wrap envelope.body) = .ok envelope.stamped.message := by
      rw [Message.decode, Envelope.unwrap_wrap_body hdigest, Except.map]
    have hevent : ofDatagram? ⟨sender, Frame.wrap envelope.body⟩ envelope.stamped.message.action
        = some (.ok (toEvent ⟨sender, envelope.stamped⟩)) := by
      rw [show envelope.stamped.message.action = Payload.action α from rfl, hkind,
        Received.ofDatagram, Envelope.decode_wrap_body hdigest, Except.map, Except.map]
    exact decoded?_eq_some hmessage hevent

end Kind

theorem decoded?_wrap_login (sender : SocketAddress) (login : Envelope Login) :
    decoded? ⟨sender, Frame.wrap login.body⟩
      = if Digest.fnv1a login.body = 0 then none
        else some (.login ⟨sender, login.stamped⟩) :=
  decoded?_wrap_body (fun _ => rfl) sender login

theorem decoded?_wrap_ping (sender : SocketAddress) (ping : Envelope Ping) :
    decoded? ⟨sender, Frame.wrap ping.body⟩
      = if Digest.fnv1a ping.body = 0 then none
        else some (.ping ⟨sender, ping.stamped⟩) :=
  decoded?_wrap_body (fun _ => rfl) sender ping

theorem decoded?_wrap_acknowledge (sender : SocketAddress) (acknowledge : Envelope Acknowledge) :
    decoded? ⟨sender, Frame.wrap acknowledge.body⟩
      = if Digest.fnv1a acknowledge.body = 0 then none
        else some (.acknowledge ⟨sender, acknowledge.stamped⟩) :=
  decoded?_wrap_body (fun _ => rfl) sender acknowledge

end Event

namespace Station

variable {δ : Type} [Role δ]

theorem handleAll_induction {P : Station δ → Prop} {events : List Event}
    (hevent : ∀ event ∈ events, ∀ moment station, P station → P (station.handle moment event))
    (now : Nat) {station : Station δ} (h : P station) : P (handleAll now events station) := by
  induction events generalizing station with
  | nil => exact h
  | cons event rest ih =>
    apply ih fun other hmem => hevent other (List.mem_cons_of_mem _ hmem)
    exact hevent event List.mem_cons_self _ _ h

/-- The same for what speaks of the events handled so far, each with the time of its tick. -/
theorem handleAll_history {P : List (Nat × Event) → Station δ → Prop}
    (hevent : ∀ earlier moment event station, P earlier station →
      P (earlier ++ [(moment.now, event)]) (station.handle moment event))
    (now : Nat) (events : List Event) {earlier : List (Nat × Event)} {station : Station δ}
    (h : P earlier station) :
    P (earlier ++ events.map (now, ·)) (handleAll now events station) := by
  induction events generalizing earlier station with
  | nil => simpa [handleAll] using h
  | cons event rest ih =>
    simpa [handleAll] using ih (hevent earlier ⟨now, rest.length⟩ event station h)

end Station

namespace GameLoop

variable {δ : Type}

/-- What is written down when a datagram arrives. -/
def arrivalNotes (datagram : Datagram) : List Note :=
  match Message.decode datagram.bytes with
  | .error error => [.datagramDropped datagram.bytes.length datagram.sender error]
  | .ok message =>
    .datagramReceived message datagram.sender
      :: match Event.ofDatagram? datagram message.action with
        | none => [.actionMissing datagram.sender]
        | some (.ok _) => []
        | some (.error error) => [.messageDropped message.action datagram.sender error]

theorem mem_arrivalNotes {datagram : Datagram} {note : Note} (h : note ∈ arrivalNotes datagram) :
    (∃ error, note = .datagramDropped datagram.bytes.length datagram.sender error)
    ∨ (∃ message, note = .datagramReceived message datagram.sender)
    ∨ note = .actionMissing datagram.sender
    ∨ ∃ action error, note = .messageDropped action datagram.sender error := by
  unfold arrivalNotes at h
  split at h
  · rw [List.mem_singleton.mp h]
    exact .inl ⟨_, rfl⟩
  · rcases List.mem_cons.mp h with rfl | hmem
    · exact .inr (.inl ⟨_, rfl⟩)
    · split at hmem
      · rw [List.mem_singleton.mp hmem]
        exact .inr (.inr (.inl rfl))
      · cases hmem
      · rw [List.mem_singleton.mp hmem]
        exact .inr (.inr (.inr ⟨_, _, rfl⟩))

theorem onDatagram_eq (loop : GameLoop δ) (datagram : Datagram) :
    loop.onDatagram datagram
      = { loop with
          inbox := loop.inbox ++ (Event.decoded? datagram).toList
          journal := loop.journal ++ arrivalNotes datagram } := by
  unfold onDatagram Event.decoded? arrivalNotes
  cases Message.decode datagram.bytes with
  | error error => simp [tell, Station.tell]
  | ok message =>
    simp only [onMessage]
    rcases Event.ofDatagram? datagram message.action with _ | error | event
    · simp [tell, Station.tell]
    · simp [tell, Station.tell]
    · simp [tell, Station.tell]

def counted (loop : GameLoop δ) : Station δ :=
  { loop.toStation with game := { loop.game with ticks := loop.game.ticks + 1 } }

inductive Input where
  | datagram (datagram : Datagram)
  | tick (now : Nat)
deriving DecidableEq

variable [Role δ]

theorem tick_eq (loop : GameLoop δ) (now : Nat) :
    loop.tick now
      = (⟨(Role.onTick ⟨now, 0⟩ (Station.handleAll now loop.inbox loop.counted)).1, []⟩,
        (Role.onTick ⟨now, 0⟩ (Station.handleAll now loop.inbox loop.counted)).2) :=
  rfl

def step (loop : GameLoop δ) : Input → GameLoop δ
  | .datagram datagram => loop.onDatagram datagram
  | .tick now => (loop.tick now).1

def run (loop : GameLoop δ) (inputs : List Input) : GameLoop δ :=
  inputs.foldl step loop

theorem run_cons (loop : GameLoop δ) (input : Input) (rest : List Input) :
    loop.run (input :: rest) = (loop.step input).run rest :=
  rfl

theorem run_append (loop : GameLoop δ) (inputs later : List Input) :
    loop.run (inputs ++ later) = (loop.run inputs).run later :=
  List.foldl_append ..

/-- Datagrams that arrive one after another queue what they carry, in order. -/
theorem run_datagrams (loop : GameLoop δ) (datagrams : List Datagram) :
    loop.run (datagrams.map .datagram)
      = { loop with
          inbox := loop.inbox ++ datagrams.filterMap Event.decoded?
          journal := loop.journal ++ datagrams.flatMap arrivalNotes } := by
  induction datagrams generalizing loop with
  | nil => simp [run]
  | cons datagram rest ih =>
    rw [List.map_cons, run_cons, step, onDatagram_eq, ih]
    cases hevent : Event.decoded? datagram <;> simp [hevent]

def handedBy (loop : GameLoop δ) : Input → List (Nat × Event)
  | .datagram _ => []
  | .tick now => loop.inbox.map (now, ·)

def handed (loop : GameLoop δ) : List Input → List (Nat × Event)
  | [] => []
  | input :: rest => loop.handedBy input ++ (loop.step input).handed rest

/-- What no arrival breaks and every tick takes on to the events it hands over, a run keeps. -/
theorem run_history {P : List (Nat × Event) → GameLoop δ → Prop}
    (hdatagram : ∀ earlier loop datagram, P earlier loop → P earlier (loop.onDatagram datagram))
    (htick : ∀ earlier loop now, P earlier loop →
      P (earlier ++ loop.inbox.map (now, ·)) (loop.tick now).1)
    (inputs : List Input) {earlier : List (Nat × Event)} {loop : GameLoop δ} (h : P earlier loop) :
    P (earlier ++ loop.handed inputs) (loop.run inputs) := by
  induction inputs generalizing earlier loop with
  | nil => simpa [handed, run] using h
  | cons input rest ih =>
    have hstep : P (earlier ++ loop.handedBy input) (loop.step input) := by
      cases input with
      | datagram datagram => simpa [handedBy, step] using hdatagram earlier loop datagram h
      | tick now => exact htick earlier loop now h
    rw [handed, ← List.append_assoc]
    exact ih hstep

def Input.event? : Input → Option Event
  | .datagram arrived => Event.decoded? arrived
  | .tick _ => none

/-- What a run handed over and what still waits is what waited before and what arrived, in order. -/
theorem handed_append_inbox (loop : GameLoop δ) (inputs : List Input) :
    (loop.handed inputs).map Prod.snd ++ (loop.run inputs).inbox
      = loop.inbox ++ inputs.filterMap Input.event? := by
  induction inputs generalizing loop with
  | nil => simp [handed, run]
  | cons input rest ih =>
    rw [run_cons, handed, List.map_append, List.append_assoc, ih (loop.step input)]
    cases input with
    | datagram datagram =>
      rw [step, onDatagram_eq]
      cases hevent : Event.decoded? datagram <;> simp [handedBy, Input.event?, hevent]
    | tick now =>
      rw [List.filterMap_cons_none rfl]
      simp [handedBy, step, tick_eq, Function.comp_def]

end GameLoop

end GridSession
