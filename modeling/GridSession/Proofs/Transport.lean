import GridSession.Transport
import Mathlib.Tactic.SplitIfs

namespace GridSession

namespace Transport

theorem mem_sent_send {transport : Transport} {outgoing other : Outgoing}
    (h : other ∈ (transport.send outgoing).2.sent) : other ∈ transport.sent ∨ other = outgoing := by
  unfold send at h
  split_ifs at h
  · exact .inl h
  · simpa using h

theorem send_cases (transport : Transport) (outgoing : Outgoing) :
    (∃ after, transport.send outgoing = (.ok (), after)
      ∧ after.sent = transport.sent ++ [outgoing])
    ∨ ∃ error after, transport.send outgoing = (.error error, after)
      ∧ after.sent = transport.sent := by
  unfold send
  split_ifs
  · exact .inr ⟨_, _, rfl, rfl⟩
  · exact .inl ⟨_, rfl, rfl⟩

theorem sent_send_cases (transport : Transport) (outgoing : Outgoing) :
    (transport.send outgoing).2.sent = transport.sent
      ∨ (transport.send outgoing).2.sent = transport.sent ++ [outgoing] := by
  rcases transport.send_cases outgoing with ⟨after, hsend, hsent⟩ | ⟨error, after, hsend, hsent⟩
  · rw [hsend]
    exact .inr hsent
  · rw [hsend]
    exact .inl hsent

@[simp] theorem fails_send (transport : Transport) (outgoing : Outgoing) :
    (transport.send outgoing).2.fails = transport.fails := by
  unfold send
  split_ifs <;> rfl

@[simp] theorem attempts_send (transport : Transport) (outgoing : Outgoing) :
    (transport.send outgoing).2.attempts = transport.attempts + 1 := by
  unfold send
  split_ifs <;> rfl

def sendAll (transport : Transport) (outgoing : List Outgoing) : Transport :=
  outgoing.foldl (fun transport outgoing => (transport.send outgoing).2) transport

variable {transport : Transport} {outgoing more : List Outgoing}

theorem sendAll_append :
    transport.sendAll (outgoing ++ more) = (transport.sendAll outgoing).sendAll more :=
  List.foldl_append ..

@[simp] theorem fails_sendAll : (transport.sendAll outgoing).fails = transport.fails := by
  induction outgoing generalizing transport with
  | nil => rfl
  | cons first rest ih => exact ih.trans (transport.fails_send first)

@[simp] theorem attempts_sendAll :
    (transport.sendAll outgoing).attempts = transport.attempts + outgoing.length := by
  induction outgoing generalizing transport with
  | nil => rfl
  | cons first rest ih =>
    rw [sendAll, List.foldl_cons, ← sendAll, ih, attempts_send, List.length_cons]
    omega

/-- The datagrams that a schedule lets through if they are numbered from `first` on. -/
def letThrough (fails : Nat → Bool) (first : Nat) (outgoing : List Outgoing) : List Outgoing :=
  ((outgoing.zipIdx first).filter fun numbered => !fails numbered.2).map Prod.fst

theorem sent_sendAll_eq_letThrough (transport : Transport) (outgoing : List Outgoing) :
    (transport.sendAll outgoing).sent
      = transport.sent ++ letThrough transport.fails transport.attempts outgoing := by
  induction outgoing generalizing transport with
  | nil => exact (List.append_nil _).symm
  | cons first rest ih =>
    have hrest := ih (transport.send first).2
    rw [fails_send, attempts_send] at hrest
    change ((transport.send first).2.sendAll rest).sent = _
    rw [hrest, letThrough, letThrough, List.zipIdx_cons, List.filter_cons]
    cases hfails : transport.fails transport.attempts with
    | true => simp [send, hfails]
    | false => simp [send, hfails]

theorem sent_sendAll
    (hworks : ∀ number, transport.attempts ≤ number → transport.fails number = false) :
    (transport.sendAll outgoing).sent = transport.sent ++ outgoing := by
  have hall : (outgoing.zipIdx transport.attempts).filter
      (fun numbered => !transport.fails numbered.2) = outgoing.zipIdx transport.attempts := by
    rw [List.filter_eq_self]
    intro numbered hmem
    rw [hworks _ (List.le_snd_of_mem_zipIdx hmem), Bool.not_false]
  rw [sent_sendAll_eq_letThrough, letThrough, hall, List.zipIdx_map_fst]

theorem mem_sent_sendAll {other : Outgoing} (h : other ∈ (transport.sendAll outgoing).sent) :
    other ∈ transport.sent ∨ other ∈ outgoing := by
  rw [sent_sendAll_eq_letThrough] at h
  refine (List.mem_append.mp h).imp id fun hthrough => ?_
  obtain ⟨numbered, hmem, rfl⟩ := List.mem_map.mp hthrough
  exact List.fst_mem_of_mem_zipIdx (List.mem_filter.mp hmem).1

end Transport

end GridSession
