import Mathlib

/-!
Texts as lists of characters: how many bytes they take, and their first characters of some kind.
-/

namespace Hysteron
namespace Text

/-! ## Bytes -/

theorem utf8ByteSize_ofList (cs : List Char)
    : (String.ofList cs).utf8ByteSize = (cs.map Char.utf8Size).sum := by
  induction cs with
  | nil => rfl
  | cons c cs ih =>
    have hcons : String.ofList (c :: cs) = String.singleton c ++ String.ofList cs := by
      apply String.toList_inj.mp
      simp
    rw [hcons, String.utf8ByteSize_append, String.utf8ByteSize_singleton, ih, List.map_cons,
      List.sum_cons]

theorem utf8ByteSize_eq_sum (s : String) : s.utf8ByteSize = (s.toList.map Char.utf8Size).sum := by
  rw [← utf8ByteSize_ofList, String.ofList_toList]

theorem utf8ByteSize_eq_length {s : String} (h : ∀ c ∈ s.toList, c.utf8Size = 1)
    : s.utf8ByteSize = s.toList.length := by
  rw [utf8ByteSize_eq_sum, List.map_congr_left h, List.map_const', List.sum_replicate, smul_eq_mul,
    mul_one]

/-! ## First characters -/

section First

variable {p : Char → Bool} {text tail : List Char} {c : Char}

theorem not_of_head?_dropWhile (h : (text.dropWhile p).head? = some c) : p c = false := by
  have := List.head?_dropWhile_not p text
  rw [h] at this
  simpa using this

theorem mem_dropWhile_or (p : Char → Bool) (hc : c ∈ text)
    : p c = true ∨ c ∈ text.dropWhile p := by
  rw [← List.takeWhile_append_dropWhile (p := p) (l := text), List.mem_append] at hc
  exact hc.imp_left List.mem_takeWhile_imp

theorem takeWhile_append_of_neg (h : ∀ c, tail.head? = some c → p c = false)
    : (text ++ tail).takeWhile p = text.takeWhile p := by
  induction text with
  | nil =>
    cases tail with
    | nil => rfl
    | cons c cs => simp [h c rfl]
  | cons c cs ih =>
    rw [List.cons_append, List.takeWhile_cons, List.takeWhile_cons, ih]

theorem dropWhile_append_of_neg (h : ∀ c, tail.head? = some c → p c = false)
    : (text ++ tail).dropWhile p = text.dropWhile p ++ tail := by
  induction text with
  | nil =>
    cases tail with
    | nil => rfl
    | cons c cs => simp [h c rfl]
  | cons c cs ih =>
    rw [List.cons_append, List.dropWhile_cons, List.dropWhile_cons, ih]
    split <;> rfl

end First

end Text
end Hysteron
