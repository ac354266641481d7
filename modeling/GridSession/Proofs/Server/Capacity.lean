import GridSession.Proofs.GameLoop.Logins
import GridSession.Proofs.Server.Sentinel
import Mathlib.Data.List.Perm.Subperm

namespace GridSession

namespace Server

variable {limit : Nat} {addresses : List IPv4Endpoint}

section Enlist

variable {sessions : List Session} {events : List (Nat × Event)} {endpoint : Option SocketAddress}
  {address : IPv4Endpoint}

theorem mem_endpoints_enlist {event : Nat × Event} (hasks : event.2.AsksFor addresses)
    (h : endpoint ∈ (enlist limit sessions event).map Session.endpoint) :
    endpoint ∈ sessions.map Session.endpoint
      ∨ ∃ address ∈ addresses, endpoint = some (.v4 address) := by
  obtain ⟨now, received | received | received⟩ := event
  · simp only [enlist] at h
    split_ifs at h
    · exact .inl h
    · rw [List.map_append] at h
      refine (List.mem_append.mp h).imp_right fun hnew => ?_
      exact ⟨received.envelope.payload.returnTo, hasks, List.mem_singleton.mp hnew⟩
  · exact .inl h
  · exact .inl h

theorem mem_endpoints_foldl_enlist (hasks : ∀ event ∈ events, event.2.AsksFor addresses)
    (h : endpoint ∈ (events.foldl (enlist limit) sessions).map Session.endpoint) :
    endpoint ∈ sessions.map Session.endpoint
      ∨ ∃ address ∈ addresses, endpoint = some (.v4 address) := by
  induction events generalizing sessions with
  | nil => exact .inl h
  | cons event rest ih =>
    rcases ih (fun other hmem => hasks other (List.mem_cons_of_mem _ hmem)) h with hold | hnew
    · exact mem_endpoints_enlist (hasks event List.mem_cons_self) hold
    · exact .inr hnew

/-- As long as an address has no session, there are fewer new sessions than addresses. -/
theorem length_foldl_enlist_lt (h : Session.Numbered sessions)
    (hasks : ∀ event ∈ events, event.2.AsksFor addresses) (haddress : address ∈ addresses)
    (habsent : some (.v4 address) ∉ (events.foldl (enlist limit) sessions).map Session.endpoint) :
    (events.foldl (enlist limit) sessions).length < sessions.length + addresses.length := by
  have hafter : Session.Numbered (events.foldl (enlist limit) sessions) :=
    numbered_foldl_enlist h events
  have hnew : ∀ endpoint ∈ (events.foldl (enlist limit) sessions).map Session.endpoint,
      endpoint ∈ sessions.map Session.endpoint
        ∨ ∃ address ∈ addresses, endpoint = some (.v4 address) :=
    fun endpoint => mem_endpoints_foldl_enlist hasks
  obtain ⟨added, hadded⟩ : sessions <+: events.foldl (enlist limit) sessions :=
    prefix_foldl_enlist events
  have hnodup := hafter.nodup_endpoints
  rw [← hadded] at habsent hnodup hnew ⊢
  rw [List.map_append] at habsent hnodup
  obtain ⟨-, hfresh, hapart⟩ := List.nodup_append.mp hnodup
  -- the address and those of the new sessions are all different
  have hdistinct : (some (.v4 address) :: added.map Session.endpoint).Nodup :=
    List.nodup_cons.mpr ⟨fun hmem => habsent (List.mem_append_right _ hmem), hfresh⟩
  have hsubset : some (.v4 address) :: added.map Session.endpoint
      ⊆ addresses.map fun address => some (.v4 address) := by
    refine List.cons_subset.mpr ⟨List.mem_map_of_mem haddress, fun endpoint hmem => ?_⟩
    have hlater : endpoint ∈ (sessions ++ added).map Session.endpoint := by
      rw [List.map_append]
      exact List.mem_append_right _ hmem
    rcases hnew endpoint hlater with hold | ⟨other, hother, rfl⟩
    · exact absurd rfl (hapart endpoint hold endpoint hmem)
    · exact List.mem_map_of_mem hother
  have hlength := (hdistinct.subperm hsubset).length_le
  rw [List.length_cons, List.length_map, List.length_map] at hlength
  rw [List.length_append]
  omega

/-- Who has a session is answered, and so is everybody who asks if there is room for all. -/
theorem answerable_of_room (h : Session.Numbered sessions)
    (hasks : ∀ event ∈ events, event.2.AsksFor addresses) {received : Received Login}
    (haddress : received.envelope.payload.returnTo ∈ addresses)
    (hroom : some (.v4 received.envelope.payload.returnTo) ∈ sessions.map Session.endpoint
      ∨ sessions.length + addresses.length ≤ limit) :
    Answerable limit (events.foldl (enlist limit) sessions) (.login received) := by
  rw [Answerable, or_iff_not_imp_left]
  intro habsent
  have hlength := length_foldl_enlist_lt h hasks haddress habsent
  rcases hroom with hknown | hroom
  · exact absurd (((prefix_foldl_enlist events).map Session.endpoint).subset hknown) habsent
  · omega

end Enlist

section Replies

variable {earlier : List (Nat × Event)} {game : Game} {outgoing : Outgoing}

/-- A login for which there is room is answered by a login to its address. -/
theorem exists_reply_of_room (h : Records limit earlier game) {events : List Event}
    (hasks : ∀ event ∈ events, event.AsksFor addresses) {received : Received Login}
    (hmem : .login received ∈ events)
    (hroom : some (.v4 received.envelope.payload.returnTo)
        ∈ game.roster.sessions.map Session.endpoint
      ∨ game.roster.size + addresses.length ≤ limit) (now : Nat) :
    ∃ reply ∈ replies limit earlier (events.map (now, ·)),
      reply.target = .v4 received.envelope.payload.returnTo ∧ reply.isLogin = true := by
  obtain ⟨front, back, rfl⟩ := List.append_of_mem hmem
  have hfront : ∀ event ∈ front.map (now, ·), event.2.AsksFor addresses := by
    intro event hevent
    obtain ⟨other, hother, rfl⟩ := List.mem_map.mp hevent
    exact hasks other (List.mem_append_left _ hother)
  -- the logins in front leave room, for no address opens more than one session
  have hanswerable : Answerable limit
      ((front.map (now, ·)).foldl (enlist limit) game.roster.sessions) (.login received) :=
    answerable_of_room h.table.numbered hfront (hasks _ hmem) (by rwa [Roster.length_sessions])
  rw [h.sessions_eq, ← List.foldl_append] at hanswerable
  have hsome := (isSome_reply?_iff (numbered_foldl_enlist .nil _) (now, .login received)).mpr
    hanswerable
  obtain ⟨reply, hreply⟩ := Option.isSome_iff_exists.mp hsome
  refine ⟨reply, ?_, ?_⟩
  · rw [List.map_append, replies_append]
    exact List.mem_append_right _ (List.mem_append_left _ (Option.mem_toList.mpr hreply))
  · obtain ⟨session, -, hlogin⟩ := Option.bind_eq_some_iff.mp hreply
    obtain rfl := Option.some.inj hlogin
    exact ⟨rfl, Outgoing.isLogin_wrap_body ..⟩

theorem id_ne_noPlayer_of_mem {events : List (Nat × Event)} (hlimit : limit < 4294967295)
    {session : Session} (hmem : session ∈ events.foldl (enlist limit) []) :
    session.id ≠ noPlayer := by
  have hlength : (events.foldl (enlist limit) []).length ≤ limit :=
    length_foldl_enlist_le (Nat.zero_le _) events
  have hnumbered : Session.Numbered (events.foldl (enlist limit) []) :=
    numbered_foldl_enlist .nil events
  have hid := (hnumbered.mem_ids_iff (by rw [UInt32.size]; omega) session.id).mp
    (List.mem_map_of_mem hmem)
  intro hnone
  rw [hnone] at hid
  have hlast : noPlayer.toNat = 4294967295 := rfl
  omega

theorem tells_of_mem_replies {events : List (Nat × Event)} (hlimit : limit < 4294967295)
    (hmem : outgoing ∈ replies limit earlier events) (hlogin : outgoing.isLogin = true)
    (hreadable : outgoing.isReadable = true) (sender : SocketAddress) :
    ∃ event ∈ Event.decoded? ⟨sender, outgoing.bytes⟩, event.Tells := by
  obtain ⟨session, hsession, id, event, hreply⟩ := mem_replies hmem
  have hid := id_ne_noPlayer_of_mem hlimit hsession
  cases event with
  | login received =>
    obtain rfl := Option.some.inj hreply
    exact ⟨_, Event.decoded?_of_isReadable hreadable sender, bne_iff_ne.mpr hid⟩
  | ping received =>
    -- an acknowledgment is no login
    obtain ⟨target, -, rfl⟩ := Option.map_eq_some_iff.mp hreply
    rw [Outgoing.isLogin_wrap_body] at hlogin
    exact absurd hlogin (by decide)
  | acknowledge received => cases hreply

end Replies

end Server

end GridSession
