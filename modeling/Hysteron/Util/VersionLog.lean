import Mathlib

/-!
Logs of the versions of a value. Every version carries a number, and the next one either repeats the
last version or carries the next number.
-/

namespace Hysteron

universe u

abbrev VersionLog (α : Type u) := List (Int × α)

namespace VersionLog

variable {α : Type u} {l : VersionLog α} {n : Int} {a : α}

inductive Valid : VersionLog α → Prop where
  | nil : Valid []
  | first (n : Int) (a : α) : Valid [(n, a)]
  | keep {n : Int} {a : α} {l : VersionLog α} (h : Valid ((n, a) :: l)) : Valid ((n, a) :: (n, a) :: l)
  | bump {n : Int} {a : α} {l : VersionLog α} (b : α) (h : Valid ((n, a) :: l))
    : Valid ((n + 1, b) :: (n, a) :: l)

theorem Valid.le_head (h : Valid ((n, a) :: l)) : ∀ e ∈ l, e.1 ≤ n := by
  generalize hlog : (n, a) :: l = log at h
  induction h generalizing n a l with
  | nil => cases hlog
  | first m b =>
    cases hlog
    simp
  | keep h ih =>
    cases hlog
    intro e he
    cases he with
    | head => exact Int.le_refl _
    | tail _ he => exact ih rfl e he
  | bump b h ih =>
    cases hlog
    intro e he
    cases he with
    | head => dsimp only; omega
    | tail _ he =>
      have := ih rfl e he
      omega

theorem Valid.eq_of_number_eq (h : Valid l) {e e' : Int × α} (he : e ∈ l) (he' : e' ∈ l)
    (hn : e.1 = e'.1) : e.2 = e'.2 := by
  induction h with
  | nil => cases he
  | first m b =>
    rw [List.mem_singleton] at he he'
    rw [he, he']
  | keep h ih =>
    -- The repeated version adds no member.
    exact ih (by simpa using he) (by simpa using he')
  | @bump m c l b h ih =>
    have hle (x : Int × α) (hx : x ∈ (m, c) :: l) : x.1 ≤ m := by
      cases hx with
      | head => exact Int.le_refl _
      | tail _ hx => exact h.le_head x hx
    rw [List.mem_cons] at he he'
    rcases he with rfl | he
    . rcases he' with rfl | he'
      . rfl
      . have := hle e' he'
        dsimp only at hn
        omega
    . rcases he' with rfl | he'
      . have := hle e he
        dsimp only at hn
        omega
      . exact ih he he'

end VersionLog
end Hysteron
