import Mathlib

/-!
Transition systems, their reachable states, and the rules by which a property is shown for all of
them.
-/

namespace Hysteron

universe u v

structure TransitionSystem (σ : Type u) where
  init : σ → Prop
  step : σ → σ → Prop

namespace TransitionSystem

variable {σ : Type u} {τ : Type v} {M : TransitionSystem σ}

inductive Reachable (M : TransitionSystem σ) : σ → Prop where
  | init {x : σ} (h : M.init x) : Reachable M x
  | step {x y : σ} (hx : Reachable M x) (h : M.step x y) : Reachable M y

variable {x y : σ}

structure Inductive (M : TransitionSystem σ) (P : σ → Prop) : Prop where
  init : ∀ (x : σ), M.init x → P x
  step : ∀ (x y : σ), P x → M.step x y → P y

theorem Inductive.of_reachable {P : σ → Prop} (hP : M.Inductive P) (h : M.Reachable x) : P x := by
  induction h with
  | init hinit => exact hP.init _ hinit
  | step _ hstep ih => exact hP.step _ _ ih hstep

theorem Inductive.steps {P : σ → Prop} (hP : M.Inductive P) (hx : P x)
    (h : Relation.ReflTransGen M.step x y) : P y := by
  induction h with
  | refl => exact hx
  | tail _ hstep ih => exact hP.step _ _ ih hstep

theorem Reachable.steps (hx : M.Reachable x) (h : Relation.ReflTransGen M.step x y)
    : M.Reachable y := by
  induction h with
  | refl => exact hx
  | tail _ hstep ih => exact ih.step hstep

def restrict (M : TransitionSystem σ) (guard : σ → σ → Prop) : TransitionSystem σ where
  init := M.init
  step x y := M.step x y ∧ guard x y

theorem Reachable.simulate {N : TransitionSystem τ} {f : σ → τ} (hx : M.Reachable x)
    (hinit : ∀ (x : σ), M.init x → N.init (f x))
    (hstep : ∀ (x y : σ), M.step x y → Relation.ReflTransGen N.step (f x) (f y))
    : N.Reachable (f x) := by
  induction hx with
  | init h => exact .init (hinit _ h)
  | step _ h ih => exact ih.steps (hstep _ _ h)

end TransitionSystem
end Hysteron
