import GridSession.Bytes.Damage
import GridSession.Proofs.GameLoop.Arrivals

namespace GridSession

theorem Damage.last_eq_set {bytes : Bytes} {octet : UInt8} (h : bytes.getLast? = some octet) :
    last bytes = bytes.set (bytes.length - 1) (octet ^^^ 0x5A) := by
  induction bytes with
  | nil => cases h
  | cons first rest ih =>
    cases rest with
    | nil =>
      obtain rfl : first = octet := by simpa using h
      rfl
    | cons second rest => simpa [last] using ih (by simpa using h)

namespace Frame

variable {body : Bytes}

theorem getLast?_wrap (h : body ≠ []) : (wrap body).getLast? = body.getLast? := by
  rw [wrap, List.getLast?_append_of_ne_nil _ h]

theorem damaged_last (h : body ≠ []) : Damaged (wrap body) (Damage.last (wrap body)) := by
  have hlast : (wrap body).getLast? = some (body.getLast h) := by
    rw [getLast?_wrap h, List.getLast?_eq_some_getLast h]
  have hlength := length_wrap body
  have hpositive := List.length_pos_of_ne_nil h
  rw [Damage.last_eq_set hlast]
  refine .replace (by omega) (.inr (by omega)) ?_
  rw [← List.getLast?_eq_getElem?, hlast]
  intro hsame
  -- flipping bits by a mask changes an octet unless the mask is zero
  have hmask := (Option.some.inj hsame).symm.trans UInt8.xor_zero.symm
  exact absurd ((UInt8.xor_right_inj _).mp hmask) (by decide)

theorem unwrap_last_wrap_ne_ok (hlong : body.length ≤ maxBody) (opened : Message × Bytes) :
    unwrap (Damage.last (wrap body)) ≠ .ok opened := by
  by_cases h : body = []
  · -- there is no body, so the size field is spoiled, and it then claims one
    subst h
    have herror : unwrap (Damage.last (wrap [])) = .error (.payloadOverrun 90 0) := by decide
    rw [herror]
    nofun
  · exact (damaged_last h).unwrap_ne_ok hlong opened

theorem Carries.decoded?_last {P : Event → Prop} {sent : Bytes} (h : Carries P sent)
    (sender : SocketAddress) : Event.decoded? ⟨sender, Damage.last sent⟩ = none := by
  obtain ⟨body, hlong, rfl⟩ := h.eq_wrap
  exact Event.decoded?_of_unwrap_ne_ok (unwrap_last_wrap_ne_ok hlong)

end Frame

end GridSession
