import Mathlib.Tactic

/-!
Trees of branches that fork off each other at a position. A branch carries an id that grows along
every path from the root, but different forks may reuse the same id.
-/

namespace Hysteron

structure ForkTree (ι : Type u) where
  root : ι
  parent : ι → Option ι
  id : ι → Nat
  forkPoint : ι → Nat
  parent_eq_none_iff : ∀ (b : ι), parent b = none ↔ b = root
  id_root : id root = 1
  id_lt : ∀ (a b : ι), parent b = some a → id a < id b
  forkPoint_le : ∀ (a b : ι), parent b = some a → a ≠ root → forkPoint a ≤ forkPoint b
  forks_distinct : ∀ (b b' : ι), id b = id b' → parent b = parent b' → forkPoint b = forkPoint b' →
    b = b'

namespace ForkTree

variable {ι : Type u} {t : ForkTree ι} {a a' b b' : ι} {p p' i : Nat} {entries : List (Nat × Nat)}

/--
The lineage of `b` leaves its ancestor `a` at the position `p`.
-/
inductive Leaves (t : ForkTree ι) : ι → ι → Nat → Prop where
  | fork {a b : ι} (hparent : t.parent b = some a) : Leaves t a b (t.forkPoint b)
  | earlier {a m b : ι} {p : Nat} (hparent : t.parent b = some m) (h : Leaves t a m p)
    : Leaves t a b p

def OnLineage (t : ForkTree ι) (a : ι) (p : Nat) (b : ι) : Prop :=
  a = b ∨ ∃ (q : Nat), t.Leaves a b q ∧ p ≤ q

inductive History (t : ForkTree ι) : ι → List (Nat × Nat) → Prop where
  | root : History t t.root []
  | fork {a b : ι} {entries : List (Nat × Nat)} (hparent : t.parent b = some a)
    (h : History t a entries) : History t b (entries ++ [(t.id a, t.forkPoint b)])

theorem Leaves.id_lt (h : t.Leaves a b p) : t.id a < t.id b := by
  induction h with
  | fork hparent => apply t.id_lt _ _ hparent
  | earlier hparent _ ih =>
    have := t.id_lt _ _ hparent
    omega

theorem leaves_iff (hparent : t.parent b = some a')
    : t.Leaves a b p ↔ (a = a' ∧ p = t.forkPoint b) ∨ t.Leaves a a' p := by
  constructor
  . intro h
    cases h with
    | fork hparent' =>
      rw [hparent] at hparent'
      cases hparent'
      exact .inl ⟨rfl, rfl⟩
    | earlier hparent' h =>
      rw [hparent] at hparent'
      cases hparent'
      exact .inr h
  . rintro (⟨rfl, rfl⟩ | h)
    . exact .fork hparent
    . exact .earlier hparent h

theorem Leaves.unique (h : t.Leaves a b p) (h' : t.Leaves a' b p') (hid : t.id a = t.id a')
    : a = a' ∧ p = p' := by
  induction h generalizing a' p' with
  | fork hparent =>
    cases (leaves_iff hparent).mp h' with
    | inl heq => exact ⟨heq.1.symm, heq.2.symm⟩
    | inr h' =>
      have := h'.id_lt
      omega
  | earlier hparent h ih =>
    cases (leaves_iff hparent).mp h' with
    | inl heq =>
      obtain ⟨rfl, rfl⟩ := heq
      have := h.id_lt
      omega
    | inr h' => exact ih h' hid

theorem Leaves.parent_of_succ (h : t.Leaves a b p) (hid : t.id a + 1 = t.id b)
    : t.parent b = some a ∧ p = t.forkPoint b := by
  cases h with
  | fork hparent => exact ⟨hparent, rfl⟩
  | earlier hparent h =>
    have := h.id_lt
    have := t.id_lt _ _ hparent
    omega

theorem not_leaves_root : ¬ t.Leaves a t.root p := by
  have hroot := (t.parent_eq_none_iff t.root).mpr rfl
  intro h
  cases h with
  | fork hparent =>
    rw [hroot] at hparent
    cases hparent
  | earlier hparent =>
    rw [hroot] at hparent
    cases hparent

theorem History.mem_iff (h : t.History b entries)
    : (i, p) ∈ entries ↔ ∃ (a : ι), t.id a = i ∧ t.Leaves a b p := by
  induction h with
  | root => simp [not_leaves_root]
  | @fork m b entries hparent _ ih =>
    simp only [List.mem_append, ih, List.mem_singleton, Prod.mk.injEq, leaves_iff hparent]
    constructor
    . rintro (⟨a, hid, hleaves⟩ | ⟨rfl, rfl⟩)
      . exact ⟨a, hid, .inr hleaves⟩
      . exact ⟨m, rfl, .inl ⟨rfl, rfl⟩⟩
    . rintro ⟨a, hid, ⟨rfl, rfl⟩ | hleaves⟩
      . exact .inr ⟨hid.symm, rfl⟩
      . exact .inl ⟨a, hid, hleaves⟩

theorem History.length_lt (h : t.History b entries) : entries.length < t.id b := by
  induction h with
  | root => simp [t.id_root]
  | fork hparent _ ih =>
    have := t.id_lt _ _ hparent
    simp only [List.length_append, List.length_singleton]
    omega

theorem History.parent_id_pos (h : t.History b entries) (hparent : t.parent b = some a)
    : 0 < t.id a := by
  cases h with
  | root =>
    rw [(t.parent_eq_none_iff t.root).mpr rfl] at hparent
    cases hparent
  | fork hparent' h =>
    rw [hparent] at hparent'
    cases hparent'
    have := h.length_lt
    omega

theorem not_onLineage_of_id_lt (h : t.id b < t.id a) : ¬ t.OnLineage a p b := by
  rintro (rfl | ⟨q, hleaves, -⟩)
  . omega
  . have := hleaves.id_lt
    omega

theorem onLineage_iff_eq (h : t.id a = t.id b) : t.OnLineage a p b ↔ a = b := by
  constructor
  . rintro (rfl | ⟨q, hleaves, -⟩)
    . rfl
    . have := hleaves.id_lt
      omega
  . exact .inl

theorem onLineage_iff_leaves (h : t.id a < t.id b)
    : t.OnLineage a p b ↔ ∃ (q : Nat), t.Leaves a b q ∧ p ≤ q := by
  constructor
  . rintro (rfl | hleaves)
    . omega
    . exact hleaves
  . exact .inr

end ForkTree
end Hysteron
