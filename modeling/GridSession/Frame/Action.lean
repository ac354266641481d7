namespace GridSession

inductive Action where
  | none
  | acknowledge
  | login
  | ping
deriving DecidableEq, Inhabited

namespace Action

def code : Action → Nat
  | none => 0
  | acknowledge => 1
  | login => 2
  | ping => 3

def ofCode? : Nat → Option Action
  | 0 => some none
  | 1 => some acknowledge
  | 2 => some login
  | 3 => some ping
  | _ => .none

def name : Action → String
  | none => "None"
  | acknowledge => "Acknowledge"
  | login => "Login"
  | ping => "Ping"

instance : ToString Action := ⟨name⟩

theorem ofCode?_code (action : Action) : ofCode? action.code = some action := by
  cases action <;> rfl

theorem code_lt (action : Action) : action.code < 4 := by
  cases action <;> decide

theorem ofCode?_eq_some_iff {n : Nat} {action : Action} :
    ofCode? n = some action ↔ n = action.code := by
  constructor
  · intro h
    unfold ofCode? at h
    split at h <;> simp_all [code] <;> subst h <;> rfl
  · rintro rfl
    exact ofCode?_code action

theorem ofCode?_eq_none_iff {n : Nat} : ofCode? n = .none ↔ 4 ≤ n := by
  match n with
  | 0 | 1 | 2 | 3 => simp [ofCode?]
  | n + 4 => simp [ofCode?]

end Action

end GridSession
