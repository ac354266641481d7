import GridSession.Proofs.Net.Course
import Mathlib.Data.List.TakeWhile

namespace GridSession

/-- A call that reads into a shared buffer of `size` octets: what it makes of the buffer, and its
answer, which is a sender with a number of octets or an error. -/
structure ReadCall (size : Nat) where
  write : Vector UInt8 size → Vector UInt8 size
  answer : Except ReceiveError (SocketAddress × Fin (size + 1))

namespace ReadCall

variable {size : Nat}

def ending? (call : ReadCall size) : Option ReceiveError :=
  match call.answer with
  | .ok _ => none
  | .error error => if error.isTransient then none else some error

def answered? (call : ReadCall size) : Option (SocketAddress × Nat) :=
  match call.answer with
  | .ok (sender, length) => some (sender, length)
  | .error _ => none

/-- The answer of the call with what is in the buffer then. -/
def receive (call : ReadCall size) (buffer : Vector UInt8 size) : Receive :=
  match call.answer with
  | .ok (sender, length) => .datagram sender length buffer.toList
  | .error error => .failed error

/-- A call that reads a datagram. It stands at the front of the buffer, and behind it what was there
before. -/
def ofDatagram (datagram : Datagram) (h : datagram.bytes.length ≤ size) : ReadCall size where
  write buffer := Vector.ofFn fun index => datagram.bytes[index]?.getD buffer[index]
  answer := .ok (datagram.sender, ⟨datagram.bytes.length, Nat.lt_succ_of_le h⟩)

def bufferAfter (buffer : Vector UInt8 size) (calls : List (ReadCall size)) : Vector UInt8 size :=
  calls.foldl (fun buffer call => call.write buffer) buffer

/-- The answers of calls one after another, each with the buffer as that call left it. -/
def receives (buffer : Vector UInt8 size) : List (ReadCall size) → List Receive
  | [] => []
  | call :: rest => call.receive (call.write buffer) :: receives (call.write buffer) rest

variable (buffer : Vector UInt8 size)

theorem ending?_receive (call : ReadCall size) : (call.receive buffer).ending? = call.ending? := by
  unfold receive ending?
  cases call.answer <;> rfl

theorem receives_append (front later : List (ReadCall size)) :
    receives buffer (front ++ later)
      = receives buffer front ++ receives (bufferAfter buffer front) later := by
  induction front generalizing buffer with
  | nil => rfl
  | cons call rest ih =>
    rw [List.cons_append, receives, receives, ih, List.cons_append]
    rfl

theorem ending?_of_mem_receives {calls : List (ReadCall size)}
    (hcalls : ∀ call ∈ calls, call.ending? = none) :
    ∀ receive ∈ receives buffer calls, receive.ending? = none := by
  induction calls generalizing buffer with
  | nil => nofun
  | cons call rest ih =>
    obtain ⟨hcall, hrest⟩ := List.forall_mem_cons.mp hcalls
    exact List.forall_mem_cons.mpr ⟨(ending?_receive _ call).trans hcall, ih _ hrest⟩

/-- As many octets are read as the call answers, for that many are in the buffer. -/
theorem read_receive (call : ReadCall size) :
    (call.receive buffer).datagram?.map (fun datagram => (datagram.sender, datagram.bytes.length))
      = call.answered? := by
  unfold receive answered?
  cases call.answer with
  | error error => rfl
  | ok read =>
    obtain ⟨sender, length⟩ := read
    have hfits : (length : Nat) ≤ size := Nat.le_of_lt_succ length.isLt
    simp [Receive.datagram?, hfits]

/-- Nothing of what was in the buffer before gets into a datagram. -/
theorem datagram?_ofDatagram (datagram : Datagram) (h : datagram.bytes.length ≤ size) :
    let call := ofDatagram datagram h
    (call.receive (call.write buffer)).datagram? = some datagram := by
  have hfront : (ofDatagram datagram h |>.write buffer).toList.take datagram.bytes.length
      = datagram.bytes := by
    apply List.ext_getElem
    · simp [h]
    · intro index hindex hindex'
      simp [ofDatagram, hindex']
  simp only [receive, ofDatagram, Receive.datagram?, Option.some.injEq] at hfront ⊢
  rw [hfront]

theorem read_receives (calls : List (ReadCall size)) :
    ((receives buffer calls).filterMap Receive.datagram?).map
        (fun datagram => (datagram.sender, datagram.bytes.length))
      = calls.filterMap answered? := by
  induction calls generalizing buffer with
  | nil => rfl
  | cons call rest ih =>
    have hcall := read_receive (call.write buffer) call
    rw [receives, List.filterMap_cons, List.filterMap_cons, ← hcall, ← ih (call.write buffer)]
    cases (call.receive (call.write buffer)).datagram? <;> rfl

end ReadCall

section Ending

variable {front : List Receive}

namespace Receive

variable (hfront : ∀ receive ∈ front, receive.ending? = none) (rest : List Receive)

include hfront

theorem ready_append : ready (front ++ rest) = front.filterMap datagram? ++ ready rest := by
  rw [ready, List.takeWhile_append_of_pos (by simpa using hfront), List.filterMap_append, ready]

theorem ending_append : ending (front ++ rest) = ending rest := by
  rw [ending, List.findSome?_append, List.findSome?_eq_none_iff.mpr hfront, Option.none_or, ending]

end Receive

variable {σ : Type} (handler : Handler σ)

theorem rest_drain (hfront : ∀ receive ∈ front, receive.ending? = none) {error : ReceiveError}
    (herror : error.isTransient = false) (later : List Receive) (state : σ) :
    (drain handler (front ++ .failed error :: later) state).rest = later := by
  induction front generalizing state with
  | nil =>
    simp only [List.nil_append, drain, herror, Bool.false_eq_true, if_false]
    split_ifs <;> rfl
  | cons receive rest ih =>
    obtain ⟨hreceive, hrest⟩ := List.forall_mem_cons.mp hfront
    rw [List.cons_append]
    cases receive with
    | datagram sender length buffer => exact ih hrest _
    | failed passed =>
      have htransient : passed.isTransient = true := by
        simpa [Receive.ending?] using hreceive
      -- an error that is passed over is neither the empty socket nor a fatal one
      have hpassed : passed ≠ .wouldBlock := by
        rintro rfl
        cases htransient
      rw [drain, if_neg hpassed, if_pos htransient]
      exact ih hrest _

end Ending

namespace ReadCall

variable {size : Nat}

theorem exists_first_ending {calls : List (ReadCall size)}
    (h : ∃ call ∈ calls, call.ending? ≠ none) :
    ∃ front last later error, calls = front ++ last :: later
      ∧ (∀ call ∈ front, call.ending? = none) ∧ last.ending? = some error := by
  have hfound : (calls.find? fun call => call.ending?.isSome).isSome := by
    simpa [List.find?_isSome, Option.isSome_iff_ne_none] using h
  obtain ⟨last, hlast⟩ := Option.isSome_iff_exists.mp hfound
  obtain ⟨hends, front, later, hcalls, hfront⟩ := List.find?_eq_some_iff_append.mp hlast
  obtain ⟨error, herror⟩ := Option.isSome_iff_exists.mp hends
  exact ⟨front, last, later, error, hcalls, by simpa using hfront, herror⟩

theorem receive_of_ending? {call : ReadCall size} {error : ReceiveError}
    (h : call.ending? = some error) (buffer : Vector UInt8 size) :
    call.receive buffer = .failed error ∧ error.isTransient = false := by
  unfold ending? at h
  unfold receive
  cases hanswer : call.answer with
  | ok read => simp [hanswer] at h
  | error other =>
    simp only [hanswer] at h
    split_ifs at h with htransient
    cases h
    exact ⟨rfl, Bool.eq_false_iff.mpr htransient⟩

/-- Reading a socket until a call finds nothing ready or fails for good hands over one datagram for
each answer with octets before that call, in order, from its own sender and with exactly the octets
that the buffer held at that call. Errors of earlier sends are passed over, no call is made after
the last one, and its error is the outcome unless it only says that nothing is ready. -/
theorem drain_reads_until_ending {σ : Type} (handler : Handler σ) (buffer : Vector UInt8 size)
    (calls : List (ReadCall size)) (state : σ) (hends : ∃ call ∈ calls, call.ending? ≠ none) :
    ∃ front last later error, calls = front ++ last :: later
      ∧ (∀ call ∈ front, call.ending? = none) ∧ last.ending? = some error
      ∧ let drained := drain handler (receives buffer calls) state
        drained.delivered = (receives buffer front).filterMap Receive.datagram?
        ∧ drained.delivered.map (fun datagram => (datagram.sender, datagram.bytes.length))
          = front.filterMap answered?
        ∧ drained.state = drained.delivered.foldl
          (fun state datagram => (handler.onDatagram datagram state).1) state
        ∧ drained.rest = receives (bufferAfter buffer (front ++ [last])) later
        ∧ drained.failure = if error = .wouldBlock then none else some error := by
  obtain ⟨front, last, later, error, rfl, hfront, hlast⟩ := exists_first_ending hends
  refine ⟨front, last, later, error, rfl, hfront, hlast, ?_⟩
  obtain ⟨hreceive, herror⟩ :=
    receive_of_ending? hlast (last.write (bufferAfter buffer front))
  have hpassed := ending?_of_mem_receives buffer hfront
  have hreceives : receives buffer (front ++ last :: later)
      = receives buffer front
        ++ .failed error :: receives (bufferAfter buffer (front ++ [last])) later := by
    rw [receives_append, receives, hreceive, bufferAfter, bufferAfter, List.foldl_append]
    rfl
  obtain ⟨hdelivered, hstate, hfailure⟩ :=
    drain_eq handler (receives buffer (front ++ last :: later)) state
  -- no answer in front ends the reading, so all its datagrams are handed over
  have hready : Receive.ready (receives buffer (front ++ last :: later))
      = (receives buffer front).filterMap Receive.datagram? := by
    rw [hreceives, Receive.ready_append hpassed, Receive.ready_failed, herror]
    simp
  have hending : Receive.ending (receives buffer (front ++ last :: later)) = error := by
    rw [hreceives, Receive.ending_append hpassed, Receive.ending_failed, herror]
    simp
  rw [hready] at hdelivered hstate
  rw [hending] at hfailure
  refine ⟨hdelivered, ?_, ?_, ?_, hfailure⟩
  · rw [hdelivered, read_receives]
  · rw [hdelivered, hstate]
  · rw [hreceives, rest_drain handler hpassed herror]

/-- What a long datagram left in the buffer does not get into the short one behind it, and what
would come after nothing was ready is not read. -/
theorem short_datagram_is_read_alone :
    let sender := SocketAddress.v4 ⟨.localhost, 40000⟩
    let long : Datagram := ⟨sender, [1, 2, 3, 4]⟩
    let short : Datagram := ⟨sender, [5]⟩
    let calls : List (ReadCall 4) := [ofDatagram long (by decide), ⟨id, .error .connectionReset⟩,
      ofDatagram short (by decide), ⟨id, .error .wouldBlock⟩, ofDatagram long (by decide)]
    let counter : Handler Nat :=
      ⟨fun _ count => (count + 1, false), fun _ count => ⟨count, true, false⟩⟩
    let drained := drain counter (receives (Vector.replicate 4 0) calls) 0
    (∃ call ∈ calls, call.ending? ≠ none)
    ∧ drained.delivered = [long, short] ∧ drained.state = 2 ∧ drained.rest.length = 1
    ∧ drained.failure = none := by
  intro sender long short calls counter drained
  have hends : ∃ call ∈ calls, call.ending? ≠ none :=
    ⟨⟨id, .error .wouldBlock⟩, by simp [calls], by decide⟩
  have hdelivered : drained.delivered = [long, short] := by decide
  obtain ⟨front, last, later, error, -, -, -, -, -, hstate, -⟩ :=
    drain_reads_until_ending counter (Vector.replicate 4 0) calls 0 hends
  refine ⟨hends, hdelivered, ?_, by decide, by decide⟩
  rw [show drained.state = _ from hstate, show drained.delivered = _ from hdelivered]
  rfl

end ReadCall

end GridSession
