import Hysteron.Postgres.Commands

/-!
The restore command is expanded as if it were read from left to right, one character or one pair of
characters at a time.
-/

namespace Hysteron
namespace Postgres

/--
What the expansion of a command is: a pair `%d`, `%w` or `%%` is replaced, and any other character is
kept. Replacements are not read again.
-/
def expansion (dataDir walDir : List Char) : List Char → List Char
  | [] => []
  | '%' :: 'd' :: cs => dataDir ++ expansion dataDir walDir cs
  | '%' :: 'w' :: cs => walDir ++ expansion dataDir walDir cs
  | '%' :: '%' :: cs => '%' :: expansion dataDir walDir cs
  | c :: cs => c :: expansion dataDir walDir cs

section Loop

variable {s dataDir walDir : List Char} {i j : Nat}

theorem expansion_cons {c : Char} {cs : List Char}
    (h : c = '%' → cs.head? ≠ some 'd' ∧ cs.head? ≠ some 'w' ∧ cs.head? ≠ some '%')
    : expansion dataDir walDir (c :: cs) = c :: expansion dataDir walDir cs := by
  rw [expansion]
  . rintro ds rfl rfl
    exact (h rfl).1 rfl
  . rintro ds rfl rfl
    exact (h rfl).2.1 rfl
  . rintro ds rfl rfl
    exact (h rfl).2.2 rfl

theorem slice_self : slice s j j = [] := by
  simp [slice]

theorem slice_succ (hi : i ≤ j) (hj : j < s.length) : slice s i (j + 1) = slice s i j ++ [s[j]] := by
  rw [slice, slice, List.take_add_one, List.getElem?_eq_getElem hj, Option.toList_some,
    List.drop_append_of_le_length]
  rw [List.length_take]
  omega

theorem drop_pair {c d : Char} (hc : s[j]? = some c) (hd : s[j + 1]? = some d)
    : s.drop j = c :: d :: s.drop (j + 2) := by
  obtain ⟨hj, hc⟩ := List.getElem?_eq_some_iff.mp hc
  obtain ⟨hj', hd⟩ := List.getElem?_eq_some_iff.mp hd
  rw [List.drop_eq_getElem_cons hj, List.drop_eq_getElem_cons hj', hc, hd]

theorem expandFrom_eq (buf : List Char) (hi : i ≤ j) (hj : j ≤ s.length)
    : expandFrom s dataDir walDir buf i j
        =
      buf ++ slice s i j ++ expansion dataDir walDir (s.drop j) := by
  fun_induction expandFrom s dataDir walDir buf i j with
  | case1 buf i j hlt hpercent hd ih =>
    have hbound := (List.getElem?_eq_some_iff.mp hd).1
    rw [ih (Nat.le_refl _) (by omega), drop_pair hpercent hd, expansion, slice_self]
    simp
  | case2 buf i j hlt hpercent hw ih =>
    have hbound := (List.getElem?_eq_some_iff.mp hw).1
    rw [ih (Nat.le_refl _) (by omega), drop_pair hpercent hw, expansion, slice_self]
    simp
  | case3 buf i j hlt hpercent hpercent' ih =>
    have hbound := (List.getElem?_eq_some_iff.mp hpercent').1
    have hchar := (List.getElem?_eq_some_iff.mp hpercent).2
    rw [ih (Nat.le_refl _) (by omega), drop_pair hpercent hpercent', expansion, slice_self,
      slice_succ hi hlt, hchar]
    simp
  | case4 buf i j hlt hpercent hd hw hpercent' ih =>
    rw [ih (by omega) hlt, List.drop_eq_getElem_cons hlt, slice_succ hi hlt, expansion_cons]
    . simp
    . intro _
      simp only [List.head?_drop]
      exact ⟨hd, hw, hpercent'⟩
  | case5 buf i j hlt hpercent ih =>
    rw [ih (by omega) hlt, List.drop_eq_getElem_cons hlt, slice_succ hi hlt, expansion_cons]
    . simp
    . intro heq
      exact absurd (List.getElem?_eq_some_iff.mpr ⟨hlt, heq⟩) hpercent
  | case6 buf i j hlt =>
    obtain rfl : j = s.length := by omega
    simp [slice, expansion]

end Loop

theorem expand_eq_expansion (s dataDir walDir : String)
    : expand s dataDir walDir = String.ofList (expansion dataDir.toList walDir.toList s.toList) := by
  rw [expand, expandFrom_eq [] (Nat.le_refl 0) (Nat.zero_le _)]
  simp [slice]

example : expansion "/data".toList "/wal".toList "cp %%d %d %w %x %".toList
    = "cp %d /data /wal %x %".toList := by
  decide +kernel

end Postgres
end Hysteron
