import Hysteron.Util.FinMap

/-!
Slices, where a missing slice and an empty one are two values, and the operations on lists of
strings that the program takes from its slice helpers.
-/

/--
A slice: `none` is the nil slice, which differs from an empty one under deep equality.
-/
abbrev Slice (α : Type u) := Option (List α)

namespace Slice

def elems (s : Slice α) : List α := s.getD []

def omitEmpty (s : Slice α) : Slice α :=
  s.filter (fun l => !l.isEmpty)

@[simp]
theorem omitEmpty_omitEmpty (s : Slice α) : omitEmpty (omitEmpty s) = omitEmpty s := by
  simp [omitEmpty]

@[simp]
theorem elems_omitEmpty (s : Slice α) : elems (omitEmpty s) = elems s := by
  cases s with
  | none => rfl
  | some l => cases l <;> rfl

@[simp]
theorem elems_some (l : List α) : elems (some l) = l := rfl

@[simp]
theorem elems_none : elems (none : Slice α) = [] := rfl

end Slice

namespace Slices

def sortStrings (a : List String) : List String :=
  a.insertionSort (· ≤ ·)

def compareStringSliceNoOrder (a b : List String) : Bool :=
  sortStrings a == sortStrings b

def commonElements (a b : List String) : List String :=
  a.filter (fun v => b.contains v)

def difference (a b : List String) : List String :=
  a.filter (fun v => !b.contains v)

@[simp]
theorem mem_sortStrings {a : List String} : v ∈ sortStrings a ↔ v ∈ a :=
  (List.perm_insertionSort _ a).mem_iff

theorem sortStrings_eq_iff_perm {a b : List String} : sortStrings a = sortStrings b ↔ a.Perm b := by
  constructor
  . intro h
    have ha := List.perm_insertionSort (· ≤ ·) a
    have hb := List.perm_insertionSort (· ≤ ·) b
    rw [sortStrings, sortStrings] at h
    rw [h] at ha
    exact ha.symm.trans hb
  . intro h
    refine List.Perm.eq_of_pairwise' (r := (· ≤ ·)) ?_ ?_ ?_
    . exact List.pairwise_insertionSort _ a
    . exact List.pairwise_insertionSort _ b
    . exact ((List.perm_insertionSort _ a).trans h).trans (List.perm_insertionSort _ b).symm

theorem pairwise_sortStrings {a : List String} (h : a.Nodup)
    : (sortStrings a).Pairwise (· < ·) := by
  have hsorted : (sortStrings a).Pairwise (· ≤ ·) := List.pairwise_insertionSort _ a
  have hnodup : (sortStrings a).Nodup := (List.perm_insertionSort _ a).nodup_iff.mpr h
  exact hsorted.imp₂ (fun _ _ hle hne => lt_of_le_of_ne hle hne) hnodup

theorem compareStringSliceNoOrder_iff {a b : List String}
    : compareStringSliceNoOrder a b = true ↔ a.Perm b := by
  simp [compareStringSliceNoOrder, sortStrings_eq_iff_perm]

@[simp]
theorem mem_commonElements {a b : List String} : v ∈ commonElements a b ↔ v ∈ a ∧ v ∈ b := by
  simp [commonElements]

@[simp]
theorem mem_difference {a b : List String} : v ∈ difference a b ↔ v ∈ a ∧ v ∉ b := by
  simp [difference]

end Slices
