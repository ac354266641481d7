import GridSession.Proofs.GameLoop.Run

namespace GridSession

/-- The octets of a datagram spell an event: they decode as a message of its kind, and the event
has this message and the datagram's sender. -/
inductive Datagram.Spells (datagram : Datagram) : Event → Prop where
  | login {envelope : Envelope Login} (h : Envelope.decode Login datagram.bytes = .ok envelope) :
    Spells datagram (.login ⟨datagram.sender, envelope⟩)
  | ping {envelope : Envelope Ping} (h : Envelope.decode Ping datagram.bytes = .ok envelope) :
    Spells datagram (.ping ⟨datagram.sender, envelope⟩)
  | acknowledge {envelope : Envelope Acknowledge}
    (h : Envelope.decode Acknowledge datagram.bytes = .ok envelope) :
    Spells datagram (.acknowledge ⟨datagram.sender, envelope⟩)

variable {datagram : Datagram} {event : Event}

section Kind

variable {α : Type} [Payload α]

theorem Received.map_ofDatagram_eq_ok_iff {toEvent : Received α → Event} :
    (ofDatagram α datagram).map toEvent = .ok event
      ↔ ∃ envelope, Envelope.decode α datagram.bytes = .ok envelope
        ∧ toEvent ⟨datagram.sender, envelope⟩ = event := by
  unfold ofDatagram
  cases Envelope.decode α datagram.bytes with
  | error error => simp [Except.map]
  | ok envelope => simp [Except.map]

/-- What reads as a message of one kind reads as a message of that kind's action. -/
theorem Message.decode_of_envelope {bytes : Bytes} {envelope : Envelope α}
    (h : Envelope.decode α bytes = .ok envelope) :
    decode bytes = .ok envelope.message ∧ envelope.message.action = Payload.action α := by
  unfold Envelope.decode at h
  cases hunwrap : Frame.unwrap bytes with
  | error error => simp [hunwrap] at h
  | ok opened =>
    simp only [hunwrap] at h
    split_ifs at h with haction
    cases h
    exact ⟨by rw [decode, hunwrap, Except.map], not_not.mp haction⟩

end Kind

/-- Read under an action, a datagram gives the event that it spells if this is of the action. -/
theorem Event.ofDatagram?_eq_some_ok_iff {action : Action} :
    ofDatagram? datagram action = some (.ok event)
      ↔ datagram.Spells event ∧ event.action = action := by
  constructor
  · intro h
    -- the action chooses which kind is read, and the event is of that kind
    cases action with
    | none => cases h
    | login =>
      obtain ⟨envelope, hdecode, rfl⟩ := Received.map_ofDatagram_eq_ok_iff.mp (Option.some.inj h)
      exact ⟨.login hdecode, rfl⟩
    | ping =>
      obtain ⟨envelope, hdecode, rfl⟩ := Received.map_ofDatagram_eq_ok_iff.mp (Option.some.inj h)
      exact ⟨.ping hdecode, rfl⟩
    | acknowledge =>
      obtain ⟨envelope, hdecode, rfl⟩ := Received.map_ofDatagram_eq_ok_iff.mp (Option.some.inj h)
      exact ⟨.acknowledge hdecode, rfl⟩
  · rintro ⟨hspells, rfl⟩
    cases hspells with
    | login hdecode =>
      exact congrArg some (Received.map_ofDatagram_eq_ok_iff.mpr ⟨_, hdecode, rfl⟩)
    | ping hdecode =>
      exact congrArg some (Received.map_ofDatagram_eq_ok_iff.mpr ⟨_, hdecode, rfl⟩)
    | acknowledge hdecode =>
      exact congrArg some (Received.map_ofDatagram_eq_ok_iff.mpr ⟨_, hdecode, rfl⟩)

theorem Event.ofDatagram?_eq_none_iff {action : Action} :
    ofDatagram? datagram action = none ↔ action = .none := by
  cases action <;> simp [ofDatagram?]

theorem Datagram.Spells.decode (h : datagram.Spells event) :
    ∃ message, Message.decode datagram.bytes = .ok message ∧ event.action = message.action := by
  cases h with
  | login hdecode =>
    obtain ⟨hmessage, haction⟩ := Message.decode_of_envelope hdecode
    exact ⟨_, hmessage, haction.symm⟩
  | ping hdecode =>
    obtain ⟨hmessage, haction⟩ := Message.decode_of_envelope hdecode
    exact ⟨_, hmessage, haction.symm⟩
  | acknowledge hdecode =>
    obtain ⟨hmessage, haction⟩ := Message.decode_of_envelope hdecode
    exact ⟨_, hmessage, haction.symm⟩

theorem Event.decoded?_eq_some_iff : decoded? datagram = some event ↔ datagram.Spells event := by
  constructor
  · intro h
    unfold decoded? at h
    split at h
    · cases h
    · split at h
      · rename_i hevent
        cases h
        exact (ofDatagram?_eq_some_ok_iff.mp hevent).1
      · cases h
  · intro h
    obtain ⟨message, hmessage, haction⟩ := h.decode
    exact decoded?_eq_some hmessage (ofDatagram?_eq_some_ok_iff.mpr ⟨h, haction⟩)

end GridSession
