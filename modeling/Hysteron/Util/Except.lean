import Mathlib

/-!
Inversion of computations that can fail.
-/

namespace Except

variable {ε : Type u} {α β : Type v}

@[simp]
theorem pure_eq_ok (a : α) : (pure a : Except ε α) = .ok a := rfl

@[simp]
theorem bind_ok (a : α) (f : α → Except ε β) : ((.ok a : Except ε α) >>= f) = f a := rfl

@[simp]
theorem bind_error (e : ε) (f : α → Except ε β) : ((.error e : Except ε α) >>= f) = .error e := rfl

@[simp]
theorem bind_eq_ok_iff {x : Except ε α} {f : α → Except ε β} {b : β}
    : (x >>= f) = .ok b ↔ ∃ (a : α), x = .ok a ∧ f a = .ok b := by
  cases x with
  | error e => simp
  | ok a => simp

@[simp]
theorem bind_eq_error_iff {x : Except ε α} {f : α → Except ε β} {e : ε}
    : (x >>= f) = .error e ↔ x = .error e ∨ ∃ (a : α), x = .ok a ∧ f a = .error e := by
  cases x with
  | error e => simp
  | ok a => simp

theorem map_eq_ok_iff {x : Except ε α} {f : α → β} {b : β}
    : x.map f = .ok b ↔ ∃ (a : α), x = .ok a ∧ f a = b := by
  cases x with
  | error e => simp [Except.map]
  | ok a => simp [Except.map]

theorem exists_ok_of_toOption_map {x : Except ε α} {f : α → β} {b : β}
    (h : x.toOption.map f = some b) : ∃ (a : α), x = .ok a ∧ f a = b := by
  cases x with
  | error e => cases h
  | ok a => exact ⟨a, rfl, by simpa [Except.toOption] using h⟩

def getError? : Except ε α → Option ε
  | .ok _ => none
  | .error e => some e

theorem getError?_eq_some_iff {x : Except ε α} {e : ε} : x.getError? = some e ↔ x = .error e := by
  cases x with
  | error e => simp [getError?]
  | ok a => simp [getError?]

end Except
