import GridSession.Proofs.Client.Lifecycle
import GridSession.Proofs.Client.Sessions
import GridSession.Proofs.GameLoop.Logins

namespace GridSession

namespace Client

variable {config : ClientConfig} {assigned : UInt32 → IPv4Endpoint → Prop}
  {address : IPv4Endpoint} {station : Station Client} {loop : GameLoop Client}

section Handling

theorem handle_of_tells (h : Agrees assigned address station)
    (hfresh : station.driver.state = .fresh) (moment : Moment) {event : Event}
    (htells : event.Tells) : (station.handle moment event).driver.state = .loggedIn := by
  cases event with
  | login received =>
    let told := station.tell (.handling .login received.sender)
    have hlogin : onLogin moment received told
        = enter moment.now received.envelope.payload.session told := by
      rcases onLogin_cases moment received told with
        ⟨hnone, -⟩ | ⟨-, -, hlogin⟩ | ⟨-, hstate, -⟩ | ⟨-, hstate, -⟩
      · exact absurd hnone (bne_iff_ne.mp htells)
      · exact hlogin
      · cases hfresh.symm.trans hstate
      · cases hfresh.symm.trans hstate
    change (onLogin moment received told).driver.state = .loggedIn
    rw [hlogin]
    -- a new client has nobody in its table, so the session is not taken
    rcases enter_cases moment.now received.envelope.payload.session told with
      ⟨htaken, -⟩ | ⟨-, roster, -, henter⟩
    · have hown := h.ids _ htaken
      rw [h.fresh hfresh] at hown
      cases hown
    · rw [henter]
      rfl
  | ping received => cases htells
  | acknowledge received => cases htells

theorem handleAll_of_tells
    (hunique : ∀ id other, assigned id address → assigned other address → id = other)
    (hinStep : InStep config station) (h : Agrees assigned address station) {events : List Event}
    (hgrants : ∀ event ∈ events, event.Grants assigned address)
    (htells : ∃ event ∈ events, event.Tells) (now : Nat) :
    (Station.handleAll now events station).driver.state ≠ .fresh := by
  induction events generalizing station with
  | nil =>
    obtain ⟨event, hmem, -⟩ := htells
    cases hmem
  | cons event rest ih =>
    obtain ⟨hinStep', -⟩ := handle_inStep hinStep ⟨now, rest.length⟩ event
    have hfollows := (handleAll_inStep hinStep' now rest).2.follows
    by_cases hfresh : (station.handle ⟨now, rest.length⟩ event).driver.state = .fresh
    · -- then it was new before, so it was not this event that told it
      refine ih hinStep'
        (handle_agrees hunique h ⟨now, rest.length⟩ (hgrants event List.mem_cons_self))
        (fun other hmem => hgrants other (List.mem_cons_of_mem _ hmem)) ?_
      obtain ⟨teller, hmem, hteller⟩ := htells
      rcases List.mem_cons.mp hmem with rfl | hrest
      · have hbefore : station.driver.state = .fresh := by
          have hstep := (handle_inStep hinStep ⟨now, rest.length⟩ teller).2.follows
          by_contra hnot
          exact ClientState.ne_fresh_of_rank_le hstep.rank_le hnot hfresh
        cases hfresh.symm.trans (handle_of_tells h hbefore _ hteller)
      · exact ⟨teller, hrest, hteller⟩
    · exact ClientState.ne_fresh_of_rank_le hfollows.rank_le hfresh

theorem lastLoginAttempt_handle (moment : Moment) (event : Event) (station : Station Client) :
    (station.handle moment event).driver.lastLoginAttempt = station.driver.lastLoginAttempt := by
  let told := station.tell (.handling event.action event.sender)
  cases event with
  | login received =>
    change (onLogin moment received told).driver.lastLoginAttempt = told.driver.lastLoginAttempt
    rcases onLogin_cases moment received told with
      ⟨-, hlogin⟩ | ⟨-, -, hlogin⟩ | ⟨-, -, hlogin⟩ | ⟨-, -, hlogin⟩
    · rw [hlogin]
      rfl
    · rw [hlogin]
      rcases enter_cases moment.now received.envelope.payload.session told with
        ⟨-, henter⟩ | ⟨-, roster, -, henter⟩
      · rw [henter]
        rfl
      · rw [henter]
        rfl
    · rw [hlogin]
      rcases registerRemote_cases moment.now received.envelope.payload.session told with
        ⟨-, hremote⟩ | ⟨-, -, hremote⟩ | ⟨-, -, roster, -, hremote⟩
      · rw [hremote]
        rfl
      · rw [hremote]
        rfl
      · rw [hremote]
        rfl
    · rw [hlogin]
      rfl
  | ping received => rfl
  | acknowledge received => rfl

theorem lastLoginAttempt_handleAll (now : Nat) (events : List Event) (station : Station Client) :
    (Station.handleAll now events station).driver.lastLoginAttempt
      = station.driver.lastLoginAttempt := by
  refine Station.handleAll_induction
    (P := fun after : Station Client =>
      after.driver.lastLoginAttempt = station.driver.lastLoginAttempt)
    (fun event _ moment after hafter => ?_) now rfl
  rw [lastLoginAttempt_handle, hafter]

end Handling

section Tick

theorem isDue_of_le {last : Option Nat} {now interval : Nat}
    (h : ∀ time ∈ last, time + interval ≤ now) : isDue last now interval = true := by
  cases last with
  | none => rfl
  | some time =>
    have htime := h time rfl
    exact decide_eq_true (by omega)

theorem tick_of_tells
    (hunique : ∀ id other, assigned id address → assigned other address → id = other)
    (hinStep : InStep config loop.toStation) (h : Agrees assigned address loop.toStation)
    (hgrants : ∀ event ∈ loop.inbox, event.Grants assigned address)
    (htells : ∃ event ∈ loop.inbox, event.Tells) (now : Nat) :
    (loop.tick now).1.driver.state ≠ .fresh := by
  have hcounted : Agrees assigned address loop.counted :=
    ⟨h.clientAddress_eq, h.playerId, h.fresh, h.loggedIn, h.ids, h.sent⟩
  have hworks := onTick_works ⟨now, 0⟩ (Station.handleAll now loop.inbox loop.counted)
  rw [show (loop.tick now).1.driver.state = _ from hworks.state_eq]
  exact handleAll_of_tells hunique hinStep.counted hcounted hgrants htells now

theorem tick_ne_fresh (h : InStep config loop.toStation) (hnot : loop.driver.state ≠ .fresh)
    (now : Nat) : (loop.tick now).1.driver.state ≠ .fresh :=
  ClientState.ne_fresh_of_rank_le (tick_inStep h now).2.follows.rank_le hnot

theorem tick_asks (h : InStep config loop.toStation) {now : Nat}
    (hfresh : (loop.tick now).1.driver.state = .fresh)
    (hdue : ∀ last ∈ loop.driver.lastLoginAttempt, last + loginRetryInterval ≤ now)
    (hworks : loop.transport.fails = fun _ => false) :
    ∃ id, (loop.tick now).1.transport.sent = loop.transport.sent
      ++ [⟨config.serverAddress, Frame.wrap
        (Envelope.ofPayload { returnTo := config.clientAddress : Login } id).body⟩] := by
  let handled := Station.handleAll now loop.inbox loop.counted
  -- asking leaves the state as it is, so the client is still new when its turn comes
  have hstate : handled.driver.state = .fresh :=
    (onTick_works ⟨now, 0⟩ handled).state_eq.symm.trans hfresh
  have hlast : handled.driver.lastLoginAttempt = loop.driver.lastLoginAttempt :=
    lastLoginAttempt_handleAll ..
  have htransport : handled.transport = loop.transport := transport_handleAll ..
  have hwork : (onTick ⟨now, 0⟩ handled).1 = attemptLogin now handled := by
    simp only [onTick, hstate]
    rw [tryLogin_eq, if_pos (isDue_of_le (by rwa [hlast]))]
  have hconfig := (handleAll_inStep h.counted now loop.inbox).1.config_eq
  refine ⟨handled.driver.loginAttempts, ?_⟩
  change (onTick ⟨now, 0⟩ handled).1.transport.sent = _
  rw [hwork, ← hconfig, ← htransport]
  change (handled.transport.send handled.driver.loginRequest).2.sent = _
  rw [Transport.send, htransport, hworks]
  rfl

theorem tick_never_asks (h : InStep config loop.toStation) (hsent : loop.transport.sent = [])
    {now : Nat} (hnot : (loop.tick now).1.driver.state ≠ .fresh) :
    ∀ outgoing ∈ (loop.tick now).1.transport.sent, outgoing.isLogin = false := by
  obtain ⟨emitted, hemitted, hemits⟩ := tick_emits h now
  rw [hemitted, hsent, List.nil_append]
  intro outgoing hmem
  cases hemits with
  | nothing => cases hmem
  | login hfresh id => exact absurd hfresh hnot
  | ping hstate hplayerId lastAckId id =>
    rw [List.mem_singleton.mp hmem, Outgoing.isLogin_wrap_body]
    rfl

theorem tick_asksFor (h : InStep config loop.toStation) (hsent : loop.transport.sent = [])
    {addresses : List IPv4Endpoint} (haddress : config.clientAddress ∈ addresses) (now : Nat) :
    ∀ outgoing ∈ (loop.tick now).1.transport.sent,
      Frame.Carries (Event.AsksFor addresses) outgoing.bytes := by
  obtain ⟨emitted, hemitted, hemits⟩ := tick_emits h now
  have hconfig : (loop.tick now).1.driver.config = config := (tick_inStep h now).1.config_eq
  rw [hemitted, hsent, List.nil_append]
  intro outgoing hmem
  cases hemits with
  | nothing => cases hmem
  | login _ id =>
    rw [List.mem_singleton.mp hmem, hconfig]
    exact Frame.carries_login fun _ => haddress
  | ping _ _ lastAckId id =>
    rw [List.mem_singleton.mp hmem]
    exact Frame.carries_ping fun _ => trivial

theorem fails_tick (h : InStep config loop.toStation) (now : Nat) :
    (loop.tick now).1.transport.fails = loop.transport.fails := by
  let handled := Station.handleAll now loop.inbox loop.counted
  have htransport : handled.transport = loop.transport := transport_handleAll ..
  rw [← htransport]
  change (onTick ⟨now, 0⟩ handled).1.transport.fails = _
  rcases onTick_cases (handleAll_inStep h.counted now loop.inbox).1 ⟨now, 0⟩ with
    hwork | ⟨-, hwork⟩ | ⟨-, player, -, -, hwork⟩
  · rw [hwork]
  · rw [hwork]
    exact Transport.fails_send ..
  · rw [hwork, transport_attemptPing]
    exact Transport.fails_send ..

end Tick

end Client

end GridSession
