import GridSession.Proofs.GameLoop.Run

namespace GridSession

namespace Event

variable {assigned : UInt32 → IPv4Endpoint → Prop} {later : UInt32 → IPv4Endpoint → Prop}

/-- A login that tells a session tells one that is assigned to the endpoint. -/
def Grants (assigned : UInt32 → IPv4Endpoint → Prop) (endpoint : IPv4Endpoint) : Event → Prop
  | login received =>
    received.envelope.payload.hasSession → assigned received.envelope.payload.session endpoint
  | _ => True

/-- A ping names a player, and its session is assigned. -/
def Names (assigned : UInt32 → IPv4Endpoint → Prop) : Event → Prop
  | ping received =>
    received.envelope.payload.playerId ≠ noPlayer
      ∧ ∃ endpoint, assigned received.envelope.payload.playerId endpoint
  | _ => True

theorem Grants.mono {endpoint : IPv4Endpoint} {event : Event}
    (hlater : ∀ id endpoint, assigned id endpoint → later id endpoint)
    (h : event.Grants assigned endpoint) : event.Grants later endpoint := by
  cases event with
  | login received => exact fun hsession => hlater _ _ (h hsession)
  | ping received => trivial
  | acknowledge received => trivial

theorem Names.mono {event : Event}
    (hlater : ∀ id endpoint, assigned id endpoint → later id endpoint)
    (h : event.Names assigned) : event.Names later := by
  cases event with
  | login received => trivial
  | ping received =>
    obtain ⟨hplayer, endpoint, hassigned⟩ := h
    exact ⟨hplayer, endpoint, hlater _ _ hassigned⟩
  | acknowledge received => trivial

end Event

namespace Frame

/-- What may arrive of sent octets. -/
inductive Arrives (sent : Bytes) : Bytes → Prop where
  | intact : Arrives sent sent
  | damaged {arrived : Bytes} (h : Damaged sent arrived) : Arrives sent arrived

/-- Octets that are a frame, and of which only events with the property `P` can come. -/
structure Carries (P : Event → Prop) (bytes : Bytes) : Prop where
  eq_wrap : ∃ body, body.length ≤ maxBody ∧ bytes = wrap body
  decoded : ∀ sender, ∀ event ∈ Event.decoded? ⟨sender, bytes⟩, P event

variable {P Q : Event → Prop} {sent arrived : Bytes}

theorem Carries.mono (h : Carries P sent) (hPQ : ∀ event, P event → Q event) : Carries Q sent :=
  ⟨h.eq_wrap, fun sender event hevent => hPQ event (h.decoded sender event hevent)⟩

theorem Carries.of_arrives (h : Carries P sent) (harrives : Arrives sent arrived)
    (sender : SocketAddress) : ∀ event ∈ Event.decoded? ⟨sender, arrived⟩, P event := by
  cases harrives with
  | intact => exact h.decoded sender
  | damaged hdamaged =>
    -- nothing comes of a damaged frame
    obtain ⟨body, hlong, rfl⟩ := h.eq_wrap
    rw [Event.decoded?_of_unwrap_ne_ok fun opened => hdamaged.unwrap_ne_ok hlong opened]
    exact fun _ hnone => absurd hnone (Option.not_mem_none _)

/-- A frame of one kind carries the envelope that encoding left, if anything. -/
theorem carries_of_decoded? {α : Type} [Payload α] [Payload.FitsFrame α] {envelope : Envelope α}
    {event : SocketAddress → Event} (hevent : ∀ sender, P (event sender))
    (hdecoded : ∀ sender, Event.decoded? ⟨sender, wrap envelope.body⟩
      = if Digest.fnv1a envelope.body = 0 then none else some (event sender)) :
    Carries P (wrap envelope.body) := by
  refine ⟨⟨envelope.body, envelope.length_body_le, rfl⟩, fun sender other hother => ?_⟩
  rw [hdecoded] at hother
  split_ifs at hother
  · exact absurd hother (Option.not_mem_none _)
  · rw [← Option.mem_some_iff.mp hother]
    exact hevent sender

theorem carries_login {login : Envelope Login} (h : ∀ sender, P (.login ⟨sender, login.stamped⟩)) :
    Carries P (wrap login.body) :=
  carries_of_decoded? h fun sender => Event.decoded?_wrap_login sender login

theorem carries_ping {ping : Envelope Ping} (h : ∀ sender, P (.ping ⟨sender, ping.stamped⟩)) :
    Carries P (wrap ping.body) :=
  carries_of_decoded? h fun sender => Event.decoded?_wrap_ping sender ping

theorem carries_acknowledge {acknowledge : Envelope Acknowledge}
    (h : ∀ sender, P (.acknowledge ⟨sender, acknowledge.stamped⟩)) :
    Carries P (wrap acknowledge.body) :=
  carries_of_decoded? h fun sender => Event.decoded?_wrap_acknowledge sender acknowledge

end Frame

/-- What holds of every waiting event and of what the datagram carries still holds of every waiting
event after its arrival. -/
theorem GameLoop.inbox_onDatagram {δ : Type} {P : Event → Prop} {loop : GameLoop δ}
    {datagram : Datagram} (hinbox : ∀ event ∈ loop.inbox, P event)
    (hdatagram : ∀ event ∈ Event.decoded? datagram, P event) :
    ∀ event ∈ (loop.onDatagram datagram).inbox, P event := by
  rw [onDatagram_eq]
  intro event hmem
  rcases List.mem_append.mp hmem with hold | hnew
  · exact hinbox event hold
  · exact hdatagram event (Option.mem_toList.mp hnew)

end GridSession
