import GridSession.Proofs.Envelope.RoundTrip

namespace GridSession

/-- A reason to refuse octets, and whether it applies to them. -/
structure Check where
  applies : Bool
  error : DecodeError

namespace Check

variable {β γ : Type} {checks : List Check}

/-- The value, unless a check applies. The first that does tells why there is none. -/
def unlessAny : List Check → β → Except DecodeError β
  | [], value => .ok value
  | check :: rest, value => if check.applies then .error check.error else unlessAny rest value

theorem unlessAny_append (first rest : List Check) (before : γ) (value : β) :
    unlessAny (first ++ rest) value
      = match unlessAny first before with
        | .error error => .error error
        | .ok _ => unlessAny rest value := by
  induction first with
  | nil => rfl
  | cons check first ih =>
    rw [List.cons_append, unlessAny, unlessAny, ih]
    split_ifs <;> rfl

theorem unlessAny_eq_ok_iff {value result : β} :
    unlessAny checks value = .ok result
      ↔ result = value ∧ ∀ check ∈ checks, check.applies = false := by
  induction checks with
  | nil =>
    rw [unlessAny, Except.ok.injEq, eq_comm]
    exact (and_iff_left (List.forall_mem_nil _)).symm
  | cons check rest ih =>
    rw [unlessAny, List.forall_mem_cons]
    split_ifs with happlies
    · simp [happlies]
    · simp [happlies, ih]

end Check

namespace BigEndian

theorem field_drop (skipped offset width : Nat) (bytes : Bytes) :
    field offset width (bytes.drop skipped) = field (skipped + offset) width bytes := by
  rw [field, field, List.drop_drop]

theorem field_take {offset width length : Nat} (h : offset + width ≤ length) (bytes : Bytes) :
    field offset width (bytes.take length) = field offset width bytes := by
  rw [field, field, List.drop_take, List.take_take, Nat.min_eq_left (by omega)]

end BigEndian

namespace Payload

variable {α : Type} [Payload α]

theorem ofBytes_take {bytes : Bytes} {length : Nat} (hshort : width α ≤ length)
    (hlong : width α ≤ bytes.length) :
    (ofBytes (bytes.take length) : α) = ofBytes bytes := by
  have hfront : toBytes (ofBytes (bytes.take length) : α) = toBytes (ofBytes bytes : α) := by
    rw [toBytes_ofBytes _ (by rw [List.length_take]; omega), toBytes_ofBytes _ hlong,
      List.take_take, Nat.min_eq_left hshort]
  rw [← ofBytes_toBytes (ofBytes (bytes.take length) : α) [], hfront, ofBytes_toBytes]

end Payload

namespace Header

/-- What is wrong with a header, looked at alone. -/
def checks (bytes : Bytes) : List Check :=
  [⟨decide (bytes.length < 14), .truncated 14 bytes.length⟩,
    ⟨decide (BigEndian.field 0 2 bytes ≠ 0xBEEF),
      .badMagic (UInt16.ofNat (BigEndian.field 0 2 bytes))⟩,
    ⟨decide (BigEndian.field 2 8 bytes = 0), .zeroDigest⟩,
    ⟨decide (BigEndian.field 10 4 bytes = 0), .emptyPayload⟩]

variable {bytes : Bytes}

theorem magic_ofBytes_eq_iff :
    (ofBytes bytes).magic = magicWord ↔ BigEndian.field 0 2 bytes = 0xBEEF := by
  have htoNat : (ofBytes bytes).magic.toNat = BigEndian.field 0 2 bytes :=
    BigEndian.toNat_ofNat_field_uint16 ..
  rw [← UInt16.toNat_inj, htoNat]
  rfl

theorem digest_ofBytes_eq_zero_iff :
    (ofBytes bytes).digest = 0 ↔ BigEndian.field 2 8 bytes = 0 := by
  have htoNat : (ofBytes bytes).digest.toNat = BigEndian.field 2 8 bytes :=
    BigEndian.toNat_ofNat_field_uint64 ..
  rw [← UInt64.toNat_inj, htoNat]
  rfl

theorem toNat_size_ofBytes : (ofBytes bytes).size.toNat = BigEndian.field 10 4 bytes :=
  BigEndian.toNat_ofNat_field_uint32 ..

theorem size_ofBytes_eq_zero_iff : (ofBytes bytes).size = 0 ↔ BigEndian.field 10 4 bytes = 0 := by
  rw [← UInt32.toNat_inj, toNat_size_ofBytes]
  rfl

theorem decode_eq_unlessAny (bytes : Bytes) :
    decode bytes = Check.unlessAny (checks bytes) (ofBytes bytes) := by
  simp only [decode, checks, Check.unlessAny, decide_eq_true_eq, ne_eq, magic_ofBytes_eq_iff,
    digest_ofBytes_eq_zero_iff, size_ofBytes_eq_zero_iff]
  rfl

end Header

namespace Frame

/-- The body that a header claims. -/
def claimed (bytes : Bytes) : Bytes :=
  (bytes.drop 14).take (BigEndian.field 10 4 bytes)

theorem field_claimed {offset width : Nat} {bytes : Bytes}
    (h : offset + width ≤ BigEndian.field 10 4 bytes) :
    BigEndian.field offset width (claimed bytes) = BigEndian.field (14 + offset) width bytes := by
  rw [claimed, BigEndian.field_take h, BigEndian.field_drop]

/-- What is wrong with a frame, of whatever kind its message is. -/
def checks (bytes : Bytes) : List Check :=
  Header.checks bytes ++
    [⟨decide (1458 < BigEndian.field 10 4 bytes),
      .payloadTooLarge (UInt32.ofNat (BigEndian.field 10 4 bytes))⟩,
    ⟨decide (bytes.length - 14 < BigEndian.field 10 4 bytes),
      .payloadOverrun (UInt32.ofNat (BigEndian.field 10 4 bytes)) (bytes.length - 14)⟩,
    ⟨decide (Digest.fnv1a (claimed bytes) ≠ UInt64.ofNat (BigEndian.field 2 8 bytes)),
      .digestMismatch (UInt64.ofNat (BigEndian.field 2 8 bytes)) (Digest.fnv1a (claimed bytes))⟩,
    ⟨decide (BigEndian.field 10 4 bytes < 8), .truncated 22 (14 + BigEndian.field 10 4 bytes)⟩,
    ⟨decide (4 ≤ BigEndian.field 14 4 bytes), .unknownAction (BigEndian.field 14 4 bytes)⟩]

theorem unwrap_eq_unlessAny (bytes : Bytes) :
    unwrap bytes = Check.unlessAny (checks bytes)
      (⟨Header.ofBytes bytes, (Action.ofCode? (BigEndian.field 14 4 bytes)).getD .none,
        UInt32.ofNat (BigEndian.field 18 4 bytes)⟩, (claimed bytes).drop 8) := by
  rw [unwrap, Header.decode_eq_unlessAny, checks, Check.unlessAny_append _ _ (Header.ofBytes bytes)]
  cases hheader : Check.unlessAny (Header.checks bytes) (Header.ofBytes bytes) with
  | error error => rfl
  | ok header =>
    obtain ⟨rfl, -⟩ := Check.unlessAny_eq_ok_iff.mp hheader
    have hbody : (bytes.drop Header.width).take (BigEndian.field 10 4 bytes) = claimed bytes := rfl
    simp only [Check.unlessAny, decide_eq_true_eq, Header.toNat_size_ofBytes]
    refine ite_congr rfl (fun _ => rfl) fun _ => ite_congr rfl (fun _ => rfl) fun hrun => ?_
    refine ite_congr rfl (fun _ => rfl) fun _ => ?_
    -- enough was received, so the body is as long as the header claims
    have hlength : (claimed bytes).length = BigEndian.field 10 4 bytes := by
      have hrun : ¬ bytes.length - 14 < BigEndian.field 10 4 bytes := hrun
      rw [claimed, List.length_take, List.length_drop]
      omega
    rw [hbody, hlength]
    refine ite_congr rfl (fun _ => rfl) fun hshort => ?_
    rw [field_claimed (by omega), field_claimed (by omega)]
    cases haction : Action.ofCode? (BigEndian.field 14 4 bytes) with
    | none => exact (if_pos (Action.ofCode?_eq_none_iff.mp haction)).symm
    | some action =>
      rw [Action.ofCode?_eq_some_iff.mp haction, if_neg (Nat.not_le.mpr action.code_lt)]
      rfl

/-- What the later checks rely on, of a frame that has passed these. -/
theorem bounds_of_passed {bytes : Bytes} (h : ∀ check ∈ checks bytes, check.applies = false) :
    BigEndian.field 10 4 bytes ≤ bytes.length - 14 ∧ 8 ≤ BigEndian.field 10 4 bytes
      ∧ BigEndian.field 14 4 bytes < 4 := by
  simp only [checks, List.forall_mem_append, List.forall_mem_cons, decide_eq_false_iff_not] at h
  obtain ⟨-, -, hrun, -, hshort, hknown, -⟩ := h
  omega

end Frame

theorem Action.code_inj {action other : Action} : action.code = other.code ↔ action = other := by
  refine ⟨fun h => ?_, congrArg code⟩
  rw [← Option.some.injEq, ← ofCode?_code action, h, ofCode?_code]

namespace Envelope

/-- What is wrong with a frame as a message of the kind that has this action and this size. -/
def checks (action : Action) (size : Nat) (bytes : Bytes) : List Check :=
  Frame.checks bytes ++
    [⟨decide (BigEndian.field 14 4 bytes ≠ action.code),
      .wrongAction action ((Action.ofCode? (BigEndian.field 14 4 bytes)).getD .none)⟩,
    ⟨decide (BigEndian.field 10 4 bytes - 8 < size - 22),
      .truncated size (14 + BigEndian.field 10 4 bytes)⟩]

section Kind

variable {α : Type} [Payload α] {bytes : Bytes}

theorem decode_eq_unlessAny (bytes : Bytes) :
    decode α bytes = Check.unlessAny (checks (Payload.action α) (width α) bytes)
      ⟨⟨Header.ofBytes bytes, Payload.action α, UInt32.ofNat (BigEndian.field 18 4 bytes)⟩,
        Payload.ofBytes (bytes.drop 22)⟩ := by
  let opened : Message × Bytes :=
    (⟨Header.ofBytes bytes, (Action.ofCode? (BigEndian.field 14 4 bytes)).getD .none,
      UInt32.ofNat (BigEndian.field 18 4 bytes)⟩, (Frame.claimed bytes).drop 8)
  rw [decode, Frame.unwrap_eq_unlessAny, checks, Check.unlessAny_append _ _ opened]
  cases hframe : Check.unlessAny (Frame.checks bytes) opened with
  | error error => rfl
  | ok passed =>
    obtain ⟨rfl, hpassed⟩ := Check.unlessAny_eq_ok_iff.mp hframe
    -- only a frame that passed has an action to compare and octets of a payload to count
    obtain ⟨hrun, hshort, hknown⟩ := Frame.bounds_of_passed hpassed
    obtain ⟨action, hcode⟩ := Frame.exists_code_eq hknown
    have hfound : opened.1.action = action := by
      simp only [opened, hcode, Action.ofCode?_code, Option.getD_some]
    have hlength : opened.2.length = BigEndian.field 10 4 bytes - 8 := by
      simp only [opened, Frame.claimed, List.length_drop, List.length_take]
      omega
    simp only [Check.unlessAny, decide_eq_true_eq, hfound, hlength, hcode, Action.ofCode?_code,
      Option.getD_some]
    refine ite_congr (by rw [ne_eq, ne_eq, Action.code_inj]) (fun _ => rfl) fun hmatch => ?_
    have hwidth : width α - 22 = Payload.width α := Nat.add_sub_cancel_left ..
    have hsize : Message.width + (BigEndian.field 10 4 bytes - 8)
        = 14 + BigEndian.field 10 4 bytes := by
      rw [show Message.width = 22 from rfl]
      omega
    rw [hwidth, hsize]
    refine ite_congr rfl (fun _ => rfl) fun henough => ?_
    have hmessage : opened.1 = ⟨Header.ofBytes bytes, Payload.action α,
        UInt32.ofNat (BigEndian.field 18 4 bytes)⟩ := by
      rw [← Action.code_inj.mp (not_not.mp hmatch), ← hfound]
    have hpayload : (Payload.ofBytes opened.2 : α) = Payload.ofBytes (bytes.drop 22) := by
      have hfront : opened.2 = (bytes.drop 22).take (BigEndian.field 10 4 bytes - 8) := by
        simp only [opened, Frame.claimed, List.drop_take, List.drop_drop]
      rw [hfront, Payload.ofBytes_take (by omega) (by rw [List.length_drop]; omega)]
    rw [hmessage, hpayload]

theorem exists_of_isOk_decode (h : (decode α bytes).isOk) :
    ∃ envelope, decode α bytes = .ok envelope := by
  cases hdecode : decode α bytes with
  | ok envelope => exact ⟨envelope, rfl⟩
  | error error => simp [hdecode, Except.isOk, Except.toBool] at h

theorem code_of_isOk_decode (h : (decode α bytes).isOk) :
    BigEndian.field 14 4 bytes = (Payload.action α).code := by
  obtain ⟨envelope, hdecode⟩ := exists_of_isOk_decode h
  rw [decode_eq_unlessAny] at hdecode
  obtain ⟨-, hpassed⟩ := Check.unlessAny_eq_ok_iff.mp hdecode
  simp only [checks, List.forall_mem_append, List.forall_mem_cons, decide_eq_false_iff_not,
    not_not] at hpassed
  exact hpassed.2.1

theorem action_eq_of_isOk_decode {β : Type} [Payload β] (h : (decode α bytes).isOk)
    (hother : (decode β bytes).isOk) : Payload.action α = Payload.action β :=
  Action.code_inj.mp ((code_of_isOk_decode h).symm.trans (code_of_isOk_decode hother))

end Kind

/-- Every kind of message is read by the same eleven checks in one order, and the first that applies
is the error. Octets that pass them are a message, whose fields stand at fixed places, and they pass
them for one kind at most. -/
theorem first_failing_check_decides (bytes : Bytes) :
    let message (action : Action) : Message :=
      ⟨⟨UInt16.ofNat (BigEndian.field 0 2 bytes), UInt64.ofNat (BigEndian.field 2 8 bytes),
        UInt32.ofNat (BigEndian.field 10 4 bytes)⟩, action,
        UInt32.ofNat (BigEndian.field 18 4 bytes)⟩
    decode Login bytes = Check.unlessAny (checks .login 32 bytes)
      ⟨message .login, UInt32.ofNat (BigEndian.field 22 4 bytes),
        ⟨UInt32.ofNat (BigEndian.field 26 4 bytes)⟩, UInt16.ofNat (BigEndian.field 30 2 bytes)⟩
    ∧ decode Ping bytes = Check.unlessAny (checks .ping 34 bytes)
      ⟨message .ping, UInt32.ofNat (BigEndian.field 22 4 bytes),
        UInt64.ofNat (BigEndian.field 26 8 bytes)⟩
    ∧ decode Acknowledge bytes = Check.unlessAny (checks .acknowledge 30 bytes)
      ⟨message .acknowledge, ⟨UInt64.ofNat (BigEndian.field 22 8 bytes)⟩⟩
    ∧ [(decode Login bytes).isOk, (decode Ping bytes).isOk,
      (decode Acknowledge bytes).isOk].count true ≤ 1 := by
  intro message
  refine ⟨?_, ?_, ?_, ?_⟩
  · rw [decode_eq_unlessAny]
    simp only [Payload.ofBytes, BigEndian.field_drop]
    rfl
  · rw [decode_eq_unlessAny]
    simp only [Payload.ofBytes, BigEndian.field_drop]
    rfl
  · rw [decode_eq_unlessAny]
    simp only [Payload.ofBytes, BigEndian.field_drop]
    rfl
  · -- an accepted frame has one action, and each kind asks for its own
    have hlogin_ping : (decode Login bytes).isOk → ¬ (decode Ping bytes).isOk :=
      fun h hother => nomatch action_eq_of_isOk_decode h hother
    have hlogin_acknowledge : (decode Login bytes).isOk → ¬ (decode Acknowledge bytes).isOk :=
      fun h hother => nomatch action_eq_of_isOk_decode h hother
    have hping_acknowledge : (decode Ping bytes).isOk → ¬ (decode Acknowledge bytes).isOk :=
      fun h hother => nomatch action_eq_of_isOk_decode h hother
    generalize (decode Login bytes).isOk = login, (decode Ping bytes).isOk = ping,
      (decode Acknowledge bytes).isOk = acknowledge at *
    revert login ping acknowledge
    decide

end Envelope

end GridSession
