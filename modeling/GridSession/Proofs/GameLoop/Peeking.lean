import GridSession.Proofs.Envelope.Checks
import GridSession.Proofs.GameLoop.Decoding

namespace GridSession

def Action.payloadWidth : Action → Nat
  | none => 0
  | acknowledge => Payload.width Acknowledge
  | login => Payload.width Login
  | ping => Payload.width Ping

/-- What comes of a datagram: the event that is queued, if one is, and the levels of the notes. -/
inductive Datagram.Yields (datagram : Datagram) : Option Event → List Level → Prop where
  | noFrame {error : DecodeError} (hpeek : Message.decode datagram.bytes = .error error) :
    Yields datagram none [.warn]
  | event {event : Event} (hspells : datagram.Spells event) :
    Yields datagram (some event) [.debug]
  | noAction {message : Message} (hpeek : Message.decode datagram.bytes = .ok message)
    (haction : message.action = .none) : Yields datagram none [.debug, .debug]
  | shortPayload {message : Message} {payload : Bytes}
    (hframe : Frame.unwrap datagram.bytes = .ok (message, payload))
    (hshort : payload.length < message.action.payloadWidth) :
    Yields datagram none [.debug, .warn]

namespace Envelope

variable {α : Type} [Payload α] {bytes payload : Bytes} {message : Message}

/-- A frame of the right action can only lack octets of its payload. -/
theorem eq_truncated_of_decode {error : DecodeError}
    (hframe : Frame.unwrap bytes = .ok (message, payload))
    (haction : message.action = Payload.action α) (herror : decode α bytes = .error error) :
    payload.length < Payload.width α
      ∧ error = .truncated (width α) (Message.width + payload.length) := by
  rw [decode, hframe] at herror
  simp only at herror
  rw [if_neg (not_not.mpr haction)] at herror
  split_ifs at herror with hshort
  cases herror
  exact ⟨hshort, rfl⟩

/-- What reads as one kind reads as no other. -/
theorem isOk_decode_of_action_ne (β : Type) [Payload β] {envelope : Envelope α}
    (h : decode α bytes = .ok envelope) (hne : Payload.action α ≠ Payload.action β) :
    (decode β bytes).isOk = false := by
  rw [Bool.eq_false_iff]
  intro hother
  exact hne (action_eq_of_isOk_decode (by rw [h]; rfl) hother)

end Envelope

variable {datagram : Datagram} {message : Message} {payload : Bytes}

theorem Received.eq_truncated_of_ofDatagram {α : Type} [Payload α] {toEvent : Received α → Event}
    {error : DecodeError} (hframe : Frame.unwrap datagram.bytes = .ok (message, payload))
    (haction : message.action = Payload.action α)
    (herror : (ofDatagram α datagram).map toEvent = .error error) :
    payload.length < Payload.width α
      ∧ error = .truncated (Envelope.width α) (Message.width + payload.length) := by
  unfold ofDatagram at herror
  cases hdecode : Envelope.decode α datagram.bytes with
  | ok envelope => simp [hdecode, Except.map] at herror
  | error found =>
    simp only [hdecode, Except.map, Except.error.injEq] at herror
    exact herror ▸ Envelope.eq_truncated_of_decode hframe haction hdecode

/-- Once the peek succeeded, the full reading fails for a short payload or not at all. -/
theorem Event.eq_truncated_of_ofDatagram? {error : DecodeError}
    (hframe : Frame.unwrap datagram.bytes = .ok (message, payload))
    (herror : ofDatagram? datagram message.action = some (.error error)) :
    payload.length < message.action.payloadWidth
      ∧ error = .truncated (Message.width + message.action.payloadWidth)
        (Message.width + payload.length) := by
  cases haction : message.action with
  | none => simp [haction, ofDatagram?] at herror
  | acknowledge | login | ping =>
    rw [haction] at herror
    exact Received.eq_truncated_of_ofDatagram hframe haction (Option.some.inj herror)

theorem Message.exists_unwrap_of_decode {bytes : Bytes} (h : decode bytes = .ok message) :
    ∃ payload, Frame.unwrap bytes = .ok (message, payload) := by
  unfold decode at h
  cases hunwrap : Frame.unwrap bytes with
  | error error => simp [hunwrap, Except.map] at h
  | ok opened =>
    obtain ⟨found, payload⟩ := opened
    simp only [hunwrap, Except.map, Except.ok.injEq] at h
    exact ⟨payload, h ▸ rfl⟩

theorem Datagram.yields (datagram : Datagram) :
    datagram.Yields (Event.decoded? datagram)
      ((GameLoop.arrivalNotes datagram).map Note.level) := by
  cases hpeek : Message.decode datagram.bytes with
  | error error =>
    simp only [Event.decoded?, GameLoop.arrivalNotes, hpeek]
    exact .noFrame hpeek
  | ok message =>
    obtain ⟨payload, hframe⟩ := Message.exists_unwrap_of_decode hpeek
    rcases hread : Event.ofDatagram? datagram message.action with _ | error | event
    · simp only [Event.decoded?, GameLoop.arrivalNotes, hpeek, hread]
      exact .noAction hpeek (Event.ofDatagram?_eq_none_iff.mp hread)
    · simp only [Event.decoded?, GameLoop.arrivalNotes, hpeek, hread]
      exact .shortPayload hframe (Event.eq_truncated_of_ofDatagram? hframe hread).1
    · simp only [Event.decoded?, GameLoop.arrivalNotes, hpeek, hread]
      exact .event (Event.ofDatagram?_eq_some_ok_iff.mp hread).1

def Datagram.readings (datagram : Datagram) : List Bool :=
  [(Envelope.decode Login datagram.bytes).isOk, (Envelope.decode Ping datagram.bytes).isOk,
    (Envelope.decode Acknowledge datagram.bytes).isOk]

/-- Octets that spell an event read as one kind and no other. -/
theorem Datagram.exists_spells_iff :
    (∃ event, datagram.Spells event) ↔ datagram.readings.count true = 1 := by
  constructor
  · rintro ⟨event, hspells⟩
    -- the kinds have different actions, so a datagram of one kind is none of the others
    cases hspells with
    | login h =>
      rw [readings, h, Envelope.isOk_decode_of_action_ne Ping h (by decide),
        Envelope.isOk_decode_of_action_ne Acknowledge h (by decide)]
      rfl
    | ping h =>
      rw [readings, h, Envelope.isOk_decode_of_action_ne Login h (by decide),
        Envelope.isOk_decode_of_action_ne Acknowledge h (by decide)]
      rfl
    | acknowledge h =>
      rw [readings, h, Envelope.isOk_decode_of_action_ne Login h (by decide),
        Envelope.isOk_decode_of_action_ne Ping h (by decide)]
      rfl
  · intro hcount
    have hmem : true ∈ datagram.readings := List.count_pos_iff.mp (by omega)
    simp only [readings, List.mem_cons, List.not_mem_nil, or_false] at hmem
    rcases hmem with h | h | h
    · obtain ⟨envelope, hdecode⟩ := Envelope.exists_of_isOk_decode h.symm
      exact ⟨_, .login hdecode⟩
    · obtain ⟨envelope, hdecode⟩ := Envelope.exists_of_isOk_decode h.symm
      exact ⟨_, .ping hdecode⟩
    · obtain ⟨envelope, hdecode⟩ := Envelope.exists_of_isOk_decode h.symm
      exact ⟨_, .acknowledge hdecode⟩

namespace GameLoop

variable {δ : Type}

/-- A datagram read under another action than the peek found is not queued. -/
theorem onMessage_of_action_ne (loop : GameLoop δ) {action : Action}
    (hne : ∀ message, Message.decode datagram.bytes = .ok message → message.action ≠ action) :
    (loop.onMessage action datagram).2 = false
      ∧ (loop.onMessage action datagram).1.inbox = loop.inbox := by
  unfold onMessage
  rcases hread : Event.ofDatagram? datagram action with _ | error | event
  · exact ⟨rfl, rfl⟩
  · exact ⟨rfl, rfl⟩
  · obtain ⟨hspells, haction⟩ := Event.ofDatagram?_eq_some_ok_iff.mp hread
    obtain ⟨message, hpeek, hsame⟩ := hspells.decode
    exact absurd (hsame.symm.trans haction) (hne message hpeek)

/-- The arrival of a datagram touches nothing but inbox and journal. One event is queued behind the
others if the octets read as a message of exactly one kind, and it is that message from that sender.
A full reading after a successful peek fails only for want of octets, and under any other action
than the peek found nothing is ever queued. -/
theorem peek_and_reading_agree (loop : GameLoop δ) (datagram : Datagram) :
    (∃ queued notes, datagram.Yields queued (notes.map Note.level)
      ∧ loop.onDatagram datagram
        = { loop with inbox := loop.inbox ++ queued.toList, journal := loop.journal ++ notes }
      ∧ (∀ event, queued = some event ↔ datagram.Spells event)
      ∧ (queued.isSome ↔ datagram.readings.count true = 1))
    ∧ (∀ message error, Message.decode datagram.bytes = .ok message →
      Event.ofDatagram? datagram message.action = some (.error error) →
      ∃ needed available, error = .truncated needed available)
    ∧ ∀ action,
      (∀ message, Message.decode datagram.bytes = .ok message → message.action ≠ action) →
      (loop.onMessage action datagram).2 = false
        ∧ (loop.onMessage action datagram).1.inbox = loop.inbox := by
  refine ⟨⟨_, _, datagram.yields, loop.onDatagram_eq datagram,
    fun _ => Event.decoded?_eq_some_iff, ?_⟩, ?_, fun _ hne => loop.onMessage_of_action_ne hne⟩
  · rw [← Datagram.exists_spells_iff, Option.isSome_iff_exists]
    exact exists_congr fun _ => Event.decoded?_eq_some_iff
  · intro message error hpeek herror
    obtain ⟨payload, hframe⟩ := Message.exists_unwrap_of_decode hpeek
    exact ⟨_, _, (Event.eq_truncated_of_ofDatagram? hframe herror).2⟩

def shortPing : Datagram :=
  ⟨.v4 ⟨.localhost, 40000⟩,
    Frame.wrap (Message.baseBytes { action := .ping, id := 4 } ++ [0, 0, 0, 1, 0, 0, 0, 2])⟩

theorem shortPing_is_not_queued :
    (∃ message, Message.decode shortPing.bytes = .ok message ∧ message.action = .ping)
    ∧ (∃ needed available,
      Event.ofDatagram? shortPing .ping = some (.error (.truncated needed available)))
    ∧ ((start {} ()).onMessage .acknowledge shortPing).2 = false := by
  have hpeek : Message.decode shortPing.bytes
      = .ok ⟨.describing (shortPing.bytes.drop 14), .ping, 4⟩ := by decide
  have hread : Event.ofDatagram? shortPing .ping = some (.error (.truncated 34 30)) := by decide
  obtain ⟨-, hshort, hother⟩ := peek_and_reading_agree (start {} ()) shortPing
  obtain ⟨needed, available, herror⟩ := hshort _ _ hpeek hread
  refine ⟨⟨_, hpeek, rfl⟩, ⟨needed, available, herror ▸ hread⟩, (hother .acknowledge ?_).1⟩
  intro message h
  rw [hpeek] at h
  cases h
  decide

end GameLoop

end GridSession
