import GridSession.Net.Loopback
import GridSession.Proofs.Net.Stopping

namespace GridSession

namespace Host

variable {host later : Host} {port bound : UInt16}

theorem bind_eq_ok_iff :
    host.bind port = .ok (bound, later)
      ↔ (if port = 0 then host.freePort else port) = bound ∧ bound ∉ host.ports
        ∧ { host with ports := bound :: host.ports } = later := by
  unfold bind
  dsimp only
  -- which port is asked for does not matter, only whether it is taken
  generalize (if port = 0 then host.freePort else port) = asked
  by_cases htaken : asked ∈ host.ports
  · rw [if_pos htaken]
    constructor
    · intro h
      cases h
    · rintro ⟨rfl, hfree, -⟩
      exact absurd htaken hfree
  · rw [if_neg htaken]
    constructor
    · intro h
      cases h
      exact ⟨rfl, htaken, rfl⟩
    · rintro ⟨rfl, -, rfl⟩
      rfl

theorem lt_freePort (ports : List UInt16) (free : UInt16) :
    let past := ports.foldl (fun free taken => max free (taken + 1)) free
    free ≤ past ∧ ∀ taken ∈ ports, taken ≠ 65535 → taken < past := by
  induction ports generalizing free with
  | nil => exact ⟨UInt16.le_refl free, nofun⟩
  | cons port rest ih =>
    obtain ⟨hpast, hrest⟩ := ih (max free (port + 1))
    rw [UInt16.le_iff_toNat_le, UInt16.toNat_max] at hpast
    have hfree := UInt16.le_iff_toNat_le.mpr (Nat.le_trans (Nat.le_max_left ..) hpast)
    have hnext := UInt16.le_iff_toNat_le.mpr (Nat.le_trans (Nat.le_max_right ..) hpast)
    refine ⟨hfree, List.forall_mem_cons.mpr ⟨fun hport => ?_, hrest⟩⟩
    exact UInt16.lt_of_lt_of_le (UInt16.lt_add_one hport) hnext

/-- Whoever asks for any port gets one, unless the last port of all is taken. -/
theorem bind_zero (h : 65535 ∉ host.ports) :
    host.bind 0
      = .ok (host.freePort, { host with ports := host.freePort :: host.ports }) := by
  obtain ⟨-, hpast⟩ := lt_freePort host.ports firstFreePort
  refine bind_eq_ok_iff.mpr ⟨rfl, fun htaken => ?_, rfl⟩
  exact UInt16.lt_irrefl _ (hpast host.freePort htaken fun hlast => h (hlast ▸ htaken))

theorem ne_zero_of_bind (h : host.bind port = .ok (bound, later)) : bound ≠ 0 := by
  obtain ⟨hbound, -⟩ := bind_eq_ok_iff.mp h
  have hfirst : firstFreePort ≤ host.freePort := (lt_freePort host.ports firstFreePort).1
  rintro rfl
  split_ifs at hbound with hany
  · rw [hbound] at hfirst
    exact absurd hfirst (by decide)
  · exact hany hbound

end Host

namespace LoopbackServer

variable {server bound : LoopbackServer} {host later : Host}

/-- A server that was bound has an address on the interface, with a port that nobody had before. -/
theorem exists_of_bind (hnew : server.address = none) (h : server.bind host = .ok (bound, later)) :
    ∃ port, port ≠ 0 ∧ port ∉ host.ports ∧ (server.port ≠ 0 → port = server.port)
      ∧ bound = { server with address := some ⟨.localhost, port⟩ }
      ∧ later = { host with ports := port :: host.ports } := by
  unfold bind at h
  rw [hnew] at h
  dsimp only at h
  split at h
  · cases h
  next port host' hbind =>
    cases h
    obtain ⟨hport, hfree, rfl⟩ := Host.bind_eq_ok_iff.mp hbind
    refine ⟨port, Host.ne_zero_of_bind hbind, hfree, fun hasked => ?_, rfl, rfl⟩
    rw [← hport, if_neg hasked]

/-- Once it is bound, binding it again changes nothing, and no other server gets its port. -/
theorem bind_after_bind (h : server.bind host = .ok (bound, later)) (hnew : server.address = none) :
    bound.bind later = .ok (bound, later)
    ∧ ∀ address, bound.localAddress = .ok address →
      ({ port := address.port } : LoopbackServer).bind later = .error .addressInUse := by
  obtain ⟨port, hport, -, -, rfl, rfl⟩ := exists_of_bind hnew h
  refine ⟨rfl, fun address haddress => ?_⟩
  cases haddress
  simp [bind, Host.bind, hport]

end LoopbackServer

def Happening.datagram? : Happening → Option Datagram
  | delivered datagram => some datagram
  | emptied | ticked _ => none

section Delivered

variable {σ : Type} {handler : Handler σ} {interval lastTick : Nat} {state : σ}
  {signal : StopSignal} {cycle : Cycle}

theorem filterMap_datagram?_deliveries (cycle : Cycle) :
    cycle.deliveries.filterMap Happening.datagram? = Receive.ready cycle.receives := by
  simp [Cycle.deliveries, List.filterMap_map, Function.comp_def, Happening.datagram?]

theorem ServerLoop.Course.delivered_eq {ended : CycleEnd σ}
    (h : Course handler interval lastTick state cycle ended) (hreads : cycle.Reads) :
    ended.happenings.filterMap Happening.datagram? = Receive.ready cycle.receives := by
  cases h with
  | unwoken hwake => exact absurd hwake (hreads.1 _)
  | calledOff _ hasked => exact absurd hasked (by simp [hreads.2])
  | cutShort => exact filterMap_datagram?_deliveries cycle
  | early | refused | ticked =>
    simp [Cycle.fullCourse, filterMap_datagram?_deliveries, Happening.datagram?]

theorem ServerLoop.delivered_run_of_nothing_ready (lastTick : Nat) (state : σ)
    (signal : StopSignal) {cycles : List Cycle}
    (h : ∀ cycle ∈ cycles, cycle.Reads ∧ Receive.ready cycle.receives = []) :
    (run handler interval lastTick state signal cycles).happenings.filterMap Happening.datagram?
      = [] := by
  refine run_induction (motive := fun _ _ cycles happenings _ =>
    (∀ cycle ∈ cycles, cycle.Reads ∧ Receive.ready cycle.receives = []) →
      happenings.filterMap Happening.datagram? = []) ?_ ?_ ?_ lastTick state signal cycles h
  · intro _ _ _ _
    rfl
  · intro _ _ _ _ hcourse _ hcycles
    obtain ⟨hreads, hready⟩ := hcycles _ List.mem_cons_self
    exact (hcourse.delivered_eq hreads).trans hready
  · intro _ _ _ _ hcourse _ _ _ hlater hcycles
    obtain ⟨hreads, hready⟩ := hcycles _ List.mem_cons_self
    rw [List.filterMap_append, hcourse.delivered_eq hreads, hready]
    exact hlater fun cycle hmem => hcycles cycle (List.mem_cons_of_mem _ hmem)

/-- So what is ready in the first cycle is all that such a run delivers. -/
theorem ServerLoop.delivered_run_cons (hsignal : signal.requested = false) (hreads : cycle.Reads)
    {cycles : List Cycle}
    (h : ∀ cycle ∈ cycles, cycle.Reads ∧ Receive.ready cycle.receives = []) :
    (run handler interval lastTick state signal (cycle :: cycles)).happenings.filterMap
      Happening.datagram? = Receive.ready cycle.receives := by
  have hdelivered :=
    (runCycle_course handler interval lastTick state cycle hsignal).delivered_eq hreads
  rw [run_cons_of_free _ _ _ _ _ hsignal]
  generalize runCycle handler interval lastTick state signal cycle = ended at hdelivered ⊢
  obtain ⟨lastTick', state', signal', happenings, _ | outcome⟩ := ended
  · rw [List.filterMap_append, hdelivered, delivered_run_of_nothing_ready _ _ _ h,
      List.append_nil]
  · exact hdelivered

end Delivered

namespace Exercise

variable (exercise : Exercise) (client : SocketAddress)

def arrived : List Bytes :=
  exercise.datagrams.map (·.take maxDatagram)

theorem seen_eq (happenings : List Happening) (seen : Seen) :
    (happenings.foldl exercise.handler.hear seen).received
      = seen.received ++ happenings.filterMap Happening.datagram?
    ∧ (happenings.foldl exercise.handler.hear seen).replies
      = seen.replies ++ if exercise.echo then
        (happenings.filterMap Happening.datagram?).map Datagram.bytes else [] := by
  induction happenings generalizing seen with
  | nil => simp
  | cons happening rest ih =>
    obtain ⟨hreceived, hreplies⟩ := ih (exercise.handler.hear seen happening)
    rw [List.foldl_cons, hreceived, hreplies]
    cases happening with
    | delivered datagram =>
      cases hecho : exercise.echo <;>
        simp [Handler.hear, handler, Happening.datagram?, hecho]
    | emptied => exact ⟨rfl, rfl⟩
    | ticked time =>
      simp only [Handler.hear, handler]
      split_ifs <;> exact ⟨rfl, rfl⟩

theorem ready_arrivals (datagrams : List Bytes) :
    Receive.ready (datagrams.map fun bytes =>
        Receive.datagram client (min bytes.length maxDatagram) bytes)
      = (datagrams.map (·.take maxDatagram)).map (⟨client, ·⟩) := by
  induction datagrams with
  | nil => rfl
  | cons bytes rest ih =>
    have hcut : bytes.take (min bytes.length maxDatagram) = bytes.take maxDatagram := by
      rw [List.take_eq_take_iff, Nat.min_assoc, Nat.min_comm maxDatagram, ← Nat.min_assoc]
      simp
    rw [List.map_cons, Receive.ready_datagram, ih, hcut]
    rfl

theorem delivered_cycles {signal : StopSignal} (hsignal : signal.requested = false) :
    (ServerLoop.run exercise.handler interval 0 {} signal
        (exercise.cycles client)).happenings.filterMap Happening.datagram?
      = exercise.arrived.map (⟨client, ·⟩) := by
  refine (ServerLoop.delivered_run_cons hsignal ⟨by simp [cycleAt], rfl⟩ ?_).trans
    (ready_arrivals client exercise.datagrams)
  intro cycle hmem
  obtain ⟨index, -, rfl⟩ := List.mem_map.mp hmem
  exact ⟨⟨by simp [cycleAt], rfl⟩, rfl⟩

/-- Where datagrams arrive, a server that nobody has stopped receives each of them once and in
order, cut to the longest datagram, from the client that sent it, and sends it back if it is to. -/
theorem perform_eq {host : Host} {server : LoopbackServer}
    (hdelivers : host.delivers = true) (hsignal : server.signal.requested = false) :
    let run := ServerLoop.run exercise.handler interval 0 {} server.signal (exercise.cycles client)
    exercise.perform host server client = some
      (⟨exercise.arrived, if exercise.echo then exercise.arrived else [], run.state.ticks, true⟩,
        { server with signal := run.signal }) := by
  intro run
  have hstate : run.state = run.happenings.foldl exercise.handler.hear {} :=
    ServerLoop.state_run ..
  have hdelivered : run.happenings.filterMap Happening.datagram? = _ :=
    exercise.delivered_cycles client hsignal
  obtain ⟨hreceived, hreplies⟩ := exercise.seen_eq run.happenings {}
  rw [← hstate, hdelivered] at hreceived hreplies
  have hperform : exercise.perform host server client = some (⟨run.state.received.map
      Datagram.bytes, run.state.replies, run.state.ticks,
      run.state.received.all (·.sender == client)⟩, { server with signal := run.signal }) :=
    if_neg (by simp [hdelivers])
  rw [hperform, hreceived, hreplies]
  simp [Function.comp_def]

/-- A server that was stopped before receives nothing. -/
theorem perform_of_requested {host : Host} {server : LoopbackServer}
    (hdelivers : host.delivers = true) (hsignal : server.signal.requested = true) :
    exercise.perform host server client = some (⟨[], [], 0, true⟩, server) := by
  rw [perform, if_neg (by simp [hdelivers])]
  simp only [ServerLoop.run_of_requested _ _ _ _ hsignal]
  rfl

end Exercise

end GridSession
