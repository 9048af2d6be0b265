import Mathlib

/-!
Regular expressions that are a sequence of repeated character classes up to the end of the text. The
search takes the first place where the sequence matches, and there every repetition takes as many
characters as the rest allows.
-/

namespace Hysteron
namespace Regexp

structure Piece where
  isIn : Char → Bool
  least : Nat
  captured : Bool

def Piece.add (piece : Piece) (taken : List Char) (groups : List (List Char)) : List (List Char) :=
  if piece.captured then taken :: groups else groups

/--
Match a whole text. A repetition tries the largest number of characters first.
-/
def matchHere (pieces : List Piece) (text : List Char) : Option (List (List Char)) :=
  match pieces with
  | [] => if text = [] then some [] else none
  | piece :: pieces =>
    ((List.range ((text.takeWhile piece.isIn).length + 1)).reverse).findSome? (fun n =>
      if n < piece.least then none
      else (matchHere pieces (text.drop n)).map (piece.add (text.take n)))

def search (pieces : List Piece) (text : List Char) : Option (List (List Char)) :=
  text.tails.findSome? (matchHere pieces)

variable {piece : Piece} {pieces : List Piece} {text rest : List Char} {groups : List (List Char)}

theorem findSome?_reverse_range {α : Type} {f : Nat → Option α} {n : Nat} {a : α} (h : f n = some a)
    : ((List.range (n + 1)).reverse).findSome? f = some a := by
  rw [List.range_succ, List.reverse_append, List.reverse_singleton, List.singleton_append,
    List.findSome?_cons, h]

theorem drop_length_takeWhile (p : Char → Bool) (text : List Char)
    : text.drop (text.takeWhile p).length = text.dropWhile p :=
  calc text.drop (text.takeWhile p).length
  _ = (text.takeWhile p ++ text.dropWhile p).drop (text.takeWhile p).length := by
    rw [List.takeWhile_append_dropWhile]
  _ = text.dropWhile p := List.drop_left

theorem take_length_takeWhile (p : Char → Bool) (text : List Char)
    : text.take (text.takeWhile p).length = text.takeWhile p :=
  calc text.take (text.takeWhile p).length
  _ = (text.takeWhile p ++ text.dropWhile p).take (text.takeWhile p).length := by
    rw [List.takeWhile_append_dropWhile]
  _ = text.takeWhile p := List.take_left

theorem matchHere_cons (hleast : piece.least ≤ (text.takeWhile piece.isIn).length)
    (h : matchHere pieces (text.dropWhile piece.isIn) = some groups)
    : matchHere (piece :: pieces) text = some (piece.add (text.takeWhile piece.isIn) groups) := by
  rw [matchHere]
  apply findSome?_reverse_range
  rw [if_neg (not_lt.mpr hleast), drop_length_takeWhile, h, take_length_takeWhile, Option.map_some]

theorem matchHere_cons_eq_none
    (h : ∀ n ≤ (text.takeWhile piece.isIn).length, piece.least ≤ n →
      matchHere pieces (text.drop n) = none)
    : matchHere (piece :: pieces) text = none := by
  rw [matchHere, List.findSome?_eq_none_iff]
  intro n hn
  rw [List.mem_reverse, List.mem_range] at hn
  split
  next => rfl
  next hleast => rw [h n (by omega) (by omega), Option.map_none]

theorem matchHere_cons_of_head (hleast : 0 < piece.least)
    (h : ∀ c, text.head? = some c → piece.isIn c = false)
    : matchHere (piece :: pieces) text = none := by
  have hnone : text.takeWhile piece.isIn = [] := by
    cases text with
    | nil => rfl
    | cons c cs => simp [h c rfl]
  apply matchHere_cons_eq_none
  intro n hn hle
  rw [hnone, List.length_nil] at hn
  omega

theorem matchHere_disjoint {next : Piece} (hnext : 0 < next.least)
    (hdisjoint : ∀ c, piece.isIn c = true → next.isIn c = false)
    : matchHere (piece :: next :: pieces) text
        =
      if (text.takeWhile piece.isIn).length < piece.least then none
      else
        (matchHere (next :: pieces) (text.dropWhile piece.isIn)).map
          (piece.add (text.takeWhile piece.isIn)) := by
  -- Behind fewer characters the rest of the text starts with one of the first class.
  have hfewer : ∀ n < (text.takeWhile piece.isIn).length,
      matchHere (next :: pieces) (text.drop n) = none := by
    intro n hn
    apply matchHere_cons_of_head hnext
    intro c hc
    apply hdisjoint
    rw [List.head?_drop] at hc
    have htaken : (text.takeWhile piece.isIn)[n]? = some c := by
      rw [← take_length_takeWhile, List.getElem?_take_of_lt hn]
      exact hc
    exact List.mem_takeWhile_imp (List.mem_of_getElem? htaken)
  split
  next hlt =>
    apply matchHere_cons_eq_none
    intro n hn hle
    omega
  next hle =>
    cases hmatch : matchHere (next :: pieces) (text.dropWhile piece.isIn) with
    | some groups => exact matchHere_cons (not_lt.mp hle) hmatch
    | none =>
      rw [Option.map_none]
      apply matchHere_cons_eq_none
      intro n hn _
      rcases Nat.lt_or_eq_of_le hn with hlt | rfl
      . exact hfewer n hlt
      . rw [drop_length_takeWhile, hmatch]

theorem matchHere_last (hleast : piece.least = 0) (h : ∀ c ∈ text, piece.isIn c = true)
    : matchHere [piece] text = some (piece.add text []) := by
  have htake := List.takeWhile_eq_self_iff.mpr h
  have hdrop := List.dropWhile_eq_nil_iff.mpr h
  have hrest : matchHere [] (text.dropWhile piece.isIn) = some [] := by
    rw [hdrop]
    rfl
  rw [matchHere_cons (by omega) hrest, htake]

/-! ## Searches -/

theorem search_of_matchHere (h : matchHere pieces text = some groups)
    : search pieces text = some groups := by
  cases text with
  | nil => simp [search, h]
  | cons c cs => simp [search, h]

theorem search_cons_of_matchHere_eq_none {c : Char} (h : matchHere pieces (c :: text) = none)
    : search pieces (c :: text) = search pieces text := by
  simp [search, h]

end Regexp
end Hysteron
