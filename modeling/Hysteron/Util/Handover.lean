import Hysteron.Util.TransitionSystem

/-!
The hand-over of a target among members that follow announcements. An announcement has a generation
and a target, or none between two targets. The members read it, acknowledge its generation and use
its target, all in their own time. A new target is only announced when every member has acknowledged
that there is none or does not use one, and no member uses a target that it has read before two later
announcements. Then all members use the same target at all times.
-/

namespace Hysteron
namespace Handover

universe u v

structure Member (τ : Type v) where
  held : Option τ := none
  read : Option (Int × Option τ) := none
  acknowledged : Int

structure State (ι : Type u) (τ : Type v) where
  generation : Int
  target : Option τ
  member : ι → Member τ

variable {ι : Type u} {τ : Type v} [DecidableEq ι]

def State.setMember (s : State ι τ) (i : ι) (m : Member τ) : State ι τ :=
  { s with member := Function.update s.member i m }

inductive Step : State ι τ → State ι τ → Prop where
  | keep (s : State ι τ) : Step s { s with generation := s.generation + 1 }
  | withdraw (s : State ι τ) : Step s { s with generation := s.generation + 1, target := none }
  | offer (s : State ι τ) (t : τ) (hnone : s.target = none)
    (hready : ∀ (i : ι), (s.member i).acknowledged = s.generation ∨ (s.member i).held = none)
    : Step s { s with generation := s.generation + 1, target := some t }
  | read (s : State ι τ) (i : ι)
    : Step s (s.setMember i { s.member i with read := some (s.generation, s.target) })
  | release (s : State ι τ) (i : ι) : Step s (s.setMember i { s.member i with held := none })
  | acknowledge (s : State ι τ) (i : ι) (g : Int) (t : Option τ)
    (hread : (s.member i).read = some (g, t)) (hreleased : t = none → (s.member i).held = none)
    : Step s (s.setMember i { s.member i with acknowledged := g })
  | take (s : State ι τ) (i : ι) (g : Int) (t : τ) (hread : (s.member i).read = some (g, some t))
    (hrecent : s.generation ≤ g + 1)
    : Step s (s.setMember i { s.member i with held := some t })

def system (ι : Type u) (τ : Type v) [DecidableEq ι] : TransitionSystem (State ι τ) where
  init s := s.target = none ∧ ∀ (i : ι),
    (s.member i).held = none ∧ (s.member i).read = none ∧ (s.member i).acknowledged ≤ s.generation
  step := Step

structure Member.Coherent (generation : Int) (target last : Option τ) (m : Member τ) : Prop where
  held : m.held = none ∨ m.held = last
  acknowledged : m.acknowledged ≤ generation
  released : target = none → m.acknowledged = generation → m.held = none
  read : ∀ (g : Int) (t : Option τ), m.read = some (g, t) → m.acknowledged ≤ g ∧ g ≤ generation
  current : ∀ (t : Option τ), m.read = some (generation, t) → t = target
  previous : ∀ (t : Option τ), m.read = some (generation - 1, t) → t = none ∨ t = last

structure Coherent (last : Option τ) (s : State ι τ) : Prop where
  target : s.target = none ∨ s.target = last
  member : ∀ (i : ι), (s.member i).Coherent s.generation s.target last

variable {s s' : State ι τ} {last target : Option τ} {generation : Int} {m : Member τ} {i : ι}

theorem Member.Coherent.announce {target' : Option τ} (h : m.Coherent generation target last)
    (htarget : target = none ∨ target = last) : m.Coherent (generation + 1) target' last where
  held := h.held
  acknowledged := by
    have := h.acknowledged
    omega
  released := by
    intro _ heq
    have := h.acknowledged
    omega
  read := by
    intro g t hread
    have := h.read g t hread
    omega
  current := by
    intro t hread
    have := h.read _ t hread
    omega
  previous := by
    intro t hread
    rw [Int.add_sub_cancel] at hread
    rw [h.current t hread]
    exact htarget

theorem Member.Coherent.offer {t : τ} (h : m.Coherent generation none last) (hheld : m.held = none)
    : m.Coherent (generation + 1) (some t) (some t) :=
  let hnext : m.Coherent (generation + 1) (some t) last := h.announce (.inl rfl)
  { hnext with
    held := .inl hheld
    previous := by
      intro t' hread
      rw [Int.add_sub_cancel] at hread
      exact .inl (h.current t' hread)
  }

theorem Member.Coherent.reads (h : m.Coherent generation target last)
    : Member.Coherent generation target last { m with read := some (generation, target) } where
  held := h.held
  acknowledged := h.acknowledged
  released := h.released
  read := by
    rintro _ _ ⟨⟩
    exact ⟨h.acknowledged, le_rfl⟩
  current := by
    rintro _ ⟨⟩
    rfl
  previous := by
    intro t hread
    simp only [Option.some.injEq, Prod.mk.injEq] at hread
    omega

theorem Member.Coherent.release (h : m.Coherent generation target last)
    : Member.Coherent generation target last { m with held := none } :=
  { h with held := .inl rfl, released := fun _ _ => rfl }

theorem Member.Coherent.acknowledge {g : Int} {t : Option τ} (h : m.Coherent generation target last)
    (hread : m.read = some (g, t)) (hreleased : t = none → m.held = none)
    : Member.Coherent generation target last { m with acknowledged := g } where
  held := h.held
  acknowledged := (h.read g t hread).2
  released := by
    intro hnone hcurrent
    apply hreleased
    have hcurrent : g = generation := hcurrent
    rw [← hnone]
    exact h.current t (hcurrent ▸ hread)
  read := by
    intro g' t' hread'
    have hread' : m.read = some (g', t') := hread'
    rw [hread] at hread'
    cases hread'
    exact ⟨le_rfl, (h.read g t hread).2⟩
  current := h.current
  previous := h.previous

theorem Member.Coherent.take {g : Int} {t : τ} (h : m.Coherent generation target last)
    (htarget : target = none ∨ target = last) (hread : m.read = some (g, some t))
    (hrecent : generation ≤ g + 1)
    : Member.Coherent generation target last { m with held := some t } := by
  obtain ⟨hacknowledged, hle⟩ := h.read g _ hread
  have hcurrent (heq : g = generation) : some t = target := h.current _ (heq ▸ hread)
  refine { h with held := .inr ?_, released := ?_ }
  . by_cases heq : g = generation
    . have hsome := hcurrent heq
      rcases htarget with hnone | hlast
      . rw [hnone] at hsome
        cases hsome
      . exact hsome.trans hlast
    . have hprevious : g = generation - 1 := by omega
      have := h.previous (some t) (hprevious ▸ hread)
      simpa using this
  . intro hnone heq
    have heq : m.acknowledged = generation := heq
    have hsome := hcurrent (by omega)
    rw [hnone] at hsome
    cases hsome

theorem Coherent.setMember (h : Coherent last s) (hm : m.Coherent s.generation s.target last)
    : Coherent last (s.setMember i m) where
  target := h.target
  member := by
    intro j
    unfold State.setMember
    dsimp only
    by_cases heq : j = i
    . rw [heq, Function.update_self]
      exact hm
    . rw [Function.update_of_ne heq]
      exact h.member j

theorem coherent_step (h : Coherent last s) (hstep : Step s s')
    : ∃ (last' : Option τ), Coherent last' s' := by
  cases hstep with
  | keep => exact ⟨last, h.target, fun i => (h.member i).announce h.target⟩
  | withdraw => exact ⟨last, .inl rfl, fun i => (h.member i).announce h.target⟩
  | offer t hnone hready =>
    refine ⟨some t, .inr rfl, ?_⟩
    intro i
    have hi := h.member i
    have hheld : (s.member i).held = none := (hready i).elim (hi.released hnone) id
    rw [hnone] at hi
    exact hi.offer hheld
  | read i => exact ⟨last, h.setMember (h.member i).reads⟩
  | release i => exact ⟨last, h.setMember (h.member i).release⟩
  | acknowledge i g t hread hreleased =>
    exact ⟨last, h.setMember ((h.member i).acknowledge hread hreleased)⟩
  | take i g t hread hrecent =>
    exact ⟨last, h.setMember ((h.member i).take h.target hread hrecent)⟩

theorem coherent_inductive
    : (system ι τ).Inductive (fun s => ∃ (last : Option τ), Coherent last s) where
  init := by
    rintro s ⟨htarget, hmembers⟩
    refine ⟨none, .inl htarget, ?_⟩
    intro i
    obtain ⟨hheld, hread, hacknowledged⟩ := hmembers i
    exact {
      held := .inl hheld
      acknowledged := hacknowledged
      released := fun _ _ => hheld
      read := by simp [hread]
      current := by simp [hread]
      previous := by simp [hread]
    }
  step := by
    rintro s s' ⟨last, h⟩ hstep
    exact coherent_step h hstep

omit [DecidableEq ι] in
theorem Coherent.held_eq_target {t t' : τ} (h : Coherent last s) (htarget : s.target = some t)
    (hheld : (s.member i).held = some t') : t' = t := by
  have hlast : s.target = last := h.target.resolve_left (by simp [htarget])
  have hsame : (s.member i).held = last := (h.member i).held.resolve_left (by simp [hheld])
  rw [hheld, ← hlast, htarget] at hsame
  exact Option.some.inj hsame

omit [DecidableEq ι] in
theorem Coherent.held_eq_held {j : ι} {t t' : τ} (h : Coherent last s)
    (hi : (s.member i).held = some t) (hj : (s.member j).held = some t') : t = t' := by
  have hi' : (s.member i).held = last := (h.member i).held.resolve_left (by simp [hi])
  have hj' : (s.member j).held = last := (h.member j).held.resolve_left (by simp [hj])
  rw [← hj', hi, hj] at hi'
  exact Option.some.inj hi'

end Handover
end Hysteron
