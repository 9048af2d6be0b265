import Hysteron.Util.LibPQ
import Hysteron.Util.PgLexer
import Hysteron.Util.Text

/-!
How PostgreSQL reads an integer setting that counts megabytes: a number as `strtol` reads it, with
octal and hexadecimal forms, and a unit whose letters have to be written as they are.
-/

namespace Hysteron
namespace PgSetting

open PgLexer (isOctal isHex number)
open LibPQ (isSpace)
open Text

/-! ## Numbers -/

def isHexForm (text : List Char) : Bool :=
  match text with
  | '0' :: x :: d :: _ => (x == 'x' || x == 'X') && isHex d
  | _ => false

def base (text : List Char) : Nat × List Char :=
  if isHexForm text then (16, text.drop 2)
  else if text.head? = some '0' then (8, text)
  else (10, text)

def isDigitOf (base : Nat) (c : Char) : Bool :=
  if base = 16 then isHex c else if base = 8 then isOctal c else c.isDigit

def readNumber (text : List Char) : Option (Nat × List Char) :=
  let (base, text) := base text
  let digits := text.takeWhile (isDigitOf base)
  if digits = [] then none else some (number base digits, text.dropWhile (isDigitOf base))

def sign (text : List Char) : Int × List Char :=
  match text with
  | '-' :: cs => (-1, cs)
  | '+' :: cs => (1, cs)
  | cs => (1, cs)

def strtol (text : List Char) : Option (Int × List Char) :=
  let (sign, text) := sign (text.dropWhile isSpace)
  (readNumber text).map (fun (n, rest) => (sign * n, rest))

/-! ## Units -/

/--
The units and their numbers of bytes. A number without a unit counts megabytes.
-/
def units : List (List Char × Nat) :=
  [([], 2 ^ 20), (['B'], 1), (['k', 'B'], 2 ^ 10), (['M', 'B'], 2 ^ 20), (['G', 'B'], 2 ^ 30),
    (['T', 'B'], 2 ^ 40)]

def unitSize (unit : List Char) : Option Nat := (units.find? (·.1 = unit)).map (·.2)

def readUnit (text : List Char) : Option Nat :=
  let text := text.dropWhile isSpace
  if (text.dropWhile (!isSpace ·)).all isSpace then unitSize (text.takeWhile (!isSpace ·)) else none

/-! ## Settings -/

def inRange (bytes : Int) : Bool := - 2 ^ 19 ≤ bytes ∧ bytes < (2 ^ 31 - 1) * 2 ^ 20 + 2 ^ 19

def bounded (bytes : Int) : Option Int := if inRange bytes then some bytes else none

def reading (text : List Char) : Option Int := do
  let (n, rest) ← strtol text
  let size ← readUnit rest
  bounded (n * size)

/-! ## The characters of accepted settings -/

def isPlain (c : Char) : Bool :=
  isSpace c || isHex c || ['+', '-', 'x', 'X', 'k', 'M', 'G', 'T'].contains c

theorem isDigit_of_isOctal {c : Char} (h : isOctal c = true) : c.isDigit = true := by
  simp only [isOctal, Bool.and_eq_true, decide_eq_true_eq] at h
  simp only [Char.isDigit, Bool.and_eq_true, decide_eq_true_eq]
  exact ⟨h.1, le_trans h.2 (by decide)⟩

theorem isHex_of_isDigitOf {base : Nat} {c : Char} (h : isDigitOf base c = true)
    : isHex c = true := by
  have hdigit : c.isDigit = true → isHex c = true := fun h => by simp [isHex, h]
  unfold isDigitOf at h
  split at h
  next => exact h
  next =>
    split at h
    next => exact hdigit (isDigit_of_isOctal h)
    next => exact hdigit h

section Characters

variable {text rest : List Char} {c : Char}

theorem eq_of_isHexForm (h : isHexForm text = true)
    : ∃ x d cs, text = '0' :: x :: d :: cs ∧ (x = 'x' ∨ x = 'X') ∧ isHex d = true := by
  unfold isHexForm at h
  split at h
  next x d cs =>
    simp only [Bool.and_eq_true, Bool.or_eq_true, beq_iff_eq] at h
    exact ⟨x, d, cs, rfl, h.1, h.2⟩
  next => cases h

theorem mem_base (hc : c ∈ text) : c ∈ (base text).2 ∨ isPlain c = true := by
  unfold base
  split
  next h =>
    obtain ⟨x, d, cs, rfl, hx, -⟩ := eq_of_isHexForm h
    rcases List.mem_cons.mp hc with rfl | hc
    . exact .inr (by decide)
    . rcases List.mem_cons.mp hc with rfl | hc
      . rcases hx with rfl | rfl
        all_goals exact .inr (by decide)
      . exact .inl hc
  next =>
    split
    all_goals exact .inl hc

theorem mem_readNumber {n : Nat} (h : readNumber text = some (n, rest)) (hc : c ∈ text)
    : c ∈ rest ∨ isPlain c = true := by
  simp only [readNumber] at h
  split at h
  next => cases h
  next =>
    obtain ⟨-, rfl⟩ := Prod.mk.inj (Option.some.inj h)
    rcases mem_base hc with hc | hc
    . rcases mem_dropWhile_or (isDigitOf (base text).1) hc with hdigit | hc
      . exact .inr (by simp [isPlain, isHex_of_isDigitOf hdigit])
      . exact .inl hc
    . exact .inr hc

theorem mem_sign (hc : c ∈ text) : c ∈ (sign text).2 ∨ isPlain c = true := by
  unfold sign
  split
  all_goals
    first
    | exact .inl hc
    | rcases List.mem_cons.mp hc with rfl | hc
      . exact .inr (by decide)
      . exact .inl hc

theorem mem_strtol {n : Int} (h : strtol text = some (n, rest)) (hc : c ∈ text)
    : c ∈ rest ∨ isPlain c = true := by
  simp only [strtol, Option.map_eq_some_iff] at h
  obtain ⟨⟨m, rest⟩, hnumber, heq⟩ := h
  obtain ⟨-, rfl⟩ := Prod.mk.inj heq
  rcases mem_dropWhile_or isSpace hc with hspace | hc
  . exact .inr (by simp [isPlain, hspace])
  . rcases mem_sign hc with hc | hc
    . exact mem_readNumber hnumber hc
    . exact .inr hc

theorem mem_units {unit : List Char} {size : Nat} (h : unitSize unit = some size)
    : (unit, size) ∈ units := by
  obtain ⟨entry, hfind, rfl⟩ := Option.map_eq_some_iff.mp h
  have hunit : entry.1 = unit := by simpa using List.find?_some hfind
  exact hunit ▸ List.mem_of_find?_eq_some hfind

theorem isPlain_of_readUnit {size : Nat} (h : readUnit text = some size) (hc : c ∈ text)
    : isPlain c = true := by
  simp only [readUnit] at h
  split at h
  next hall =>
    rcases mem_dropWhile_or isSpace hc with hspace | hc
    . simp [isPlain, hspace]
    . rw [← List.takeWhile_append_dropWhile (p := (!isSpace ·)) (l := text.dropWhile isSpace),
        List.mem_append] at hc
      rcases hc with hc | hc
      . have hletters : units.all (fun unit => unit.1.all isPlain) = true := by decide +kernel
        exact List.all_eq_true.mp (List.all_eq_true.mp hletters _ (mem_units h)) c hc
      . have hspace := List.all_eq_true.mp hall c hc
        simp [isPlain, hspace]
  next => cases h

theorem isPlain_of_reading {bytes : Int} (h : reading text = some bytes) (hc : c ∈ text)
    : isPlain c = true := by
  simp only [reading, Option.bind_eq_bind, Option.bind_eq_some_iff] at h
  obtain ⟨⟨n, rest⟩, hnumber, size, hunit, -⟩ := h
  rcases mem_strtol hnumber hc with hc | hc
  . exact isPlain_of_readUnit hunit hc
  . exact hc

end Characters

/-! ## White space around a setting -/

section Surrounded

variable {text tail lead rest : List Char}

theorem not_of_isSpace {c : Char} (h : isSpace c = true)
    : c ≠ '0' ∧ c ≠ '-' ∧ c ≠ '+' ∧ c ≠ 'x' ∧ c ≠ 'X' ∧ isHex c = false := by
  have hmem : c ∈ [' ', '\t', '\n', '\x0b', '\x0c', '\r'] := List.contains_iff_mem.mp h
  simp only [List.mem_cons, List.not_mem_nil, or_false] at hmem
  rcases hmem with rfl | rfl | rfl | rfl | rfl | rfl
  all_goals decide

theorem isHexForm_append (h : ∀ c ∈ tail, isSpace c = true)
    : isHexForm (text ++ tail) = isHexForm text := by
  match text, tail with
  | _, [] => rw [List.append_nil]
  | [], c :: cs =>
    have hc := not_of_isSpace (h c (.head cs))
    simp [isHexForm, hc.1]
  | [a], c :: cs =>
    have hc := not_of_isSpace (h c (.head cs))
    by_cases ha : a = '0'
    . subst ha
      cases cs with
      | nil => rfl
      | cons d cs => simp [isHexForm, hc.2.2.2.1, hc.2.2.2.2.1]
    . simp [isHexForm, ha]
  | [a, b], c :: cs =>
    have hc := not_of_isSpace (h c (.head cs))
    by_cases ha : a = '0'
    . subst ha
      simp [isHexForm, hc.2.2.2.2.2]
    . simp [isHexForm, ha]
  | a :: b :: d :: cs, _ =>
    by_cases ha : a = '0'
    . subst ha
      rfl
    . simp [isHexForm, ha]

theorem base_append (h : ∀ c ∈ tail, isSpace c = true)
    : base (text ++ tail) = ((base text).1, (base text).2 ++ tail) := by
  have hzero : (text ++ tail).head? = some '0' ↔ text.head? = some '0' := by
    cases text with
    | cons c cs => rfl
    | nil =>
      cases tail with
      | nil => rfl
      | cons c cs => simp [(not_of_isSpace (h c (.head cs))).1]
  simp only [base, isHexForm_append h, hzero]
  split
  next hhex =>
    obtain ⟨x, d, cs, rfl, -, -⟩ := eq_of_isHexForm hhex
    rfl
  next => split <;> rfl

theorem sign_append (h : ∀ c ∈ tail, isSpace c = true)
    : sign (text ++ tail) = ((sign text).1, (sign text).2 ++ tail) := by
  cases text with
  | nil =>
    cases tail with
    | nil => rfl
    | cons c cs =>
      have hc := not_of_isSpace (h c (.head cs))
      simp [sign, hc.2.1, hc.2.2.1]
  | cons c cs =>
    by_cases hminus : c = '-'
    . subst hminus
      rfl
    . by_cases hplus : c = '+'
      . subst hplus
        rfl
      . simp [sign, hminus, hplus]

theorem readNumber_append (h : ∀ c ∈ tail, isSpace c = true)
    : readNumber (text ++ tail) = (readNumber text).map (fun (n, rest) => (n, rest ++ tail)) := by
  have hdigit : ∀ c, tail.head? = some c → isDigitOf (base text).1 c = false := by
    intro c hc
    have := (not_of_isSpace (h c (List.mem_of_mem_head? hc))).2.2.2.2.2
    exact Bool.eq_false_iff.mpr (fun hdigit => by simp [isHex_of_isDigitOf hdigit] at this)
  simp only [readNumber, base_append h, takeWhile_append_of_neg hdigit,
    dropWhile_append_of_neg hdigit]
  split <;> rfl

theorem readUnit_append (h : ∀ c ∈ tail, isSpace c = true)
    : readUnit (text ++ tail) = readUnit text := by
  have hneg : ∀ c, tail.head? = some c → (!isSpace c) = false :=
    fun c hc => by simp [h c (List.mem_of_mem_head? hc)]
  have hall : tail.all isSpace = true := List.all_eq_true.mpr h
  have hdrop : tail.dropWhile isSpace = [] := List.dropWhile_eq_nil_iff.mpr h
  simp only [readUnit, List.dropWhile_append]
  split
  next hempty =>
    rw [List.isEmpty_iff] at hempty
    rw [hempty, hdrop]
  next =>
    rw [takeWhile_append_of_neg hneg, dropWhile_append_of_neg hneg, List.all_append, hall, Bool.and_true]

theorem strtol_append (h : ∀ c ∈ tail, isSpace c = true)
    : strtol (text ++ tail) = (strtol text).map (fun (n, rest) => (n, rest ++ tail)) := by
  have hdrop : tail.dropWhile isSpace = [] := List.dropWhile_eq_nil_iff.mpr h
  simp only [strtol, List.dropWhile_append]
  split
  next hempty =>
    rw [List.isEmpty_iff] at hempty
    rw [hempty, hdrop]
    rfl
  next => simp only [sign_append h, readNumber_append h, Option.map_map, Function.comp_def]

theorem reading_surrounded (hlead : ∀ c ∈ lead, isSpace c = true)
    (htail : ∀ c ∈ tail, isSpace c = true) : reading (lead ++ text ++ tail) = reading text := by
  have hstrtol : strtol (lead ++ text) = strtol text := by
    simp only [strtol, List.dropWhile_append, List.dropWhile_eq_nil_iff.mpr hlead, List.isEmpty_nil,
      ↓reduceIte]
  simp only [reading, strtol_append htail, hstrtol]
  cases strtol text with
  | none => rfl
  | some number =>
    simp only [Option.map_some, Option.bind_eq_bind, Option.bind_some, readUnit_append htail]

theorem readUnit_lead (hlead : ∀ c ∈ lead, isSpace c = true)
    : readUnit (lead ++ text) = readUnit text := by
  simp only [readUnit, List.dropWhile_append, List.dropWhile_eq_nil_iff.mpr hlead, List.isEmpty_nil,
    ↓reduceIte]

theorem readUnit_eq_unitSize (htext : ∀ c ∈ text, isSpace c = false)
    : readUnit text = unitSize text := by
  have hunit : ∀ c ∈ text, (!isSpace c) = true := fun c hc => by simp [htext c hc]
  have hdrop : text.dropWhile isSpace = text := by
    cases text with
    | nil => rfl
    | cons c cs => simp [htext c (.head cs)]
  simp only [readUnit, hdrop, List.dropWhile_eq_nil_iff.mpr hunit,
    List.takeWhile_eq_self_iff.mpr hunit, List.all_nil, ↓reduceIte]

theorem not_isSpace_of_readUnit {size : Nat} (h : readUnit text = some size)
    (hfirst : ∀ c, text.head? = some c → isSpace c = false)
    (hlast : ∀ c, text.getLast? = some c → isSpace c = false) : ∀ c ∈ text, isSpace c = false := by
  have hdrop : text.dropWhile isSpace = text := by
    cases text with
    | nil => rfl
    | cons c cs => simp [hfirst c rfl]
  simp only [readUnit, hdrop] at h
  split at h
  next hall =>
    have hnil : text.dropWhile (!isSpace ·) = [] := by
      by_contra hne
      obtain ⟨c, hc⟩ := Option.isSome_iff_exists.mp (List.getLast?_isSome.mpr hne)
      have hend : text.getLast? = some c := by
        rw [← List.takeWhile_append_dropWhile (p := (!isSpace ·)) (l := text), List.getLast?_append, hc]
        rfl
      have hspace := List.all_eq_true.mp hall c (List.mem_of_getLast? hc)
      simp [hlast c hend] at hspace
    intro c hc
    simpa using List.dropWhile_eq_nil_iff.mp hnil c hc
  next => cases h

end Surrounded

/-! ## Settings that start with a digit -/

section Digits

variable {digits rest : List Char}

def plainNumber (digits : List Char) : Option Nat :=
  if digits.head? = some '0' then
    if digits.all isOctal then some (number 8 digits) else none
  else
    some (number 10 digits)

theorem isSpace_of_isDigit {c : Char} (h : c.isDigit = true) : isSpace c = false := by
  by_contra hspace
  have hhex := (not_of_isSpace (Bool.not_eq_false _ ▸ hspace)).2.2.2.2.2
  simp [isHex, h] at hhex

theorem readUnit_digit {c : Char} (hc : c.isDigit = true) : readUnit (c :: rest) = none := by
  by_contra hne
  obtain ⟨size, hsize⟩ := Option.ne_none_iff_exists'.mp hne
  have hspace := isSpace_of_isDigit hc
  simp only [readUnit, List.dropWhile_cons, hspace, List.takeWhile_cons, Bool.not_false,
    Bool.false_eq_true, ↓reduceIte] at hsize
  split at hsize
  next =>
    have hletters : units.all (fun unit => unit.1.all (!Char.isDigit ·)) = true := by decide +kernel
    have hletter := List.all_eq_true.mp (List.all_eq_true.mp hletters _ (mem_units hsize)) c (.head _)
    simp [hc] at hletter
  next => cases hsize

theorem isHexForm_digits (hne : digits ≠ []) (hdigits : ∀ c ∈ digits, c.isDigit = true)
    (hrest : ∀ c, rest.head? = some c → c ≠ 'x' ∧ c ≠ 'X')
    : isHexForm (digits ++ rest) = false := by
  by_contra h
  obtain ⟨x, d, cs, heq, hx, -⟩ := eq_of_isHexForm (Bool.not_eq_false _ ▸ h)
  match digits with
  | [] => exact hne rfl
  | [c] =>
    have hhead : rest.head? = some x := by
      simp only [List.cons_append, List.nil_append, List.cons.injEq] at heq
      rw [heq.2]
      rfl
    exact hx.elim (hrest x hhead).1 (hrest x hhead).2
  | c :: e :: es =>
    simp only [List.cons_append, List.cons.injEq] at heq
    have hdigit := hdigits e (.tail c (.head es))
    rw [heq.2.1] at hdigit
    rcases hx with rfl | rfl
    all_goals exact absurd hdigit (by decide)

theorem readNumber_digits (hne : digits ≠ []) (hdigits : ∀ c ∈ digits, c.isDigit = true)
    (hrest : ∀ c, rest.head? = some c → c.isDigit = false) (hhex : isHexForm (digits ++ rest) = false)
    : readNumber (digits ++ rest)
        =
      if digits.head? = some '0' then
        some (number 8 (digits.takeWhile isOctal), digits.dropWhile isOctal ++ rest)
      else
        some (number 10 digits, rest) := by
  have hhead : (digits ++ rest).head? = digits.head? := by
    cases digits with
    | nil => exact absurd rfl hne
    | cons c cs => rfl
  have hoctal : ∀ c, rest.head? = some c → isOctal c = false := by
    intro c hc
    by_contra hoctal
    have hdigit := isDigit_of_isOctal (Bool.not_eq_false _ ▸ hoctal)
    simp [hrest c hc] at hdigit
  simp only [readNumber, base, hhex, Bool.false_eq_true, ↓reduceIte, hhead]
  split
  next hzero =>
    have hne : digits.takeWhile isOctal ≠ [] := by
      cases digits with
      | nil => cases hzero
      | cons c cs =>
        obtain rfl : c = '0' := Option.some.inj hzero
        simp [isOctal]
    rw [show isDigitOf 8 = isOctal from rfl, takeWhile_append_of_neg hoctal,
      dropWhile_append_of_neg hoctal, if_neg hne]
  next =>
    rw [show isDigitOf 10 = Char.isDigit from rfl, takeWhile_append_of_neg hrest,
      dropWhile_append_of_neg hrest, List.takeWhile_eq_self_iff.mpr hdigits,
      List.dropWhile_eq_nil_iff.mpr hdigits, if_neg hne, List.nil_append]

theorem strtol_digits (hne : digits ≠ []) (hdigits : ∀ c ∈ digits, c.isDigit = true)
    : strtol (digits ++ rest)
        =
      (readNumber (digits ++ rest)).map (fun (n, rest) => ((n : Int), rest)) := by
  obtain ⟨c, cs, rfl⟩ := List.exists_cons_of_ne_nil hne
  have hc := hdigits c (.head cs)
  have hsign : sign (c :: (cs ++ rest)) = (1, c :: (cs ++ rest)) := by
    have hminus : c ≠ '-' := by
      rintro rfl
      exact absurd hc (by decide)
    have hplus : c ≠ '+' := by
      rintro rfl
      exact absurd hc (by decide)
    simp [sign, hminus, hplus]
  simp [strtol, isSpace_of_isDigit hc, hsign]

theorem reading_digits (hne : digits ≠ []) (hdigits : ∀ c ∈ digits, c.isDigit = true)
    (hrest : ∀ c, rest.head? = some c → c.isDigit = false) (hhex : isHexForm (digits ++ rest) = false)
    : reading (digits ++ rest)
        =
      (plainNumber digits).bind (fun n => (readUnit rest).bind (fun size => bounded (n * size))) := by
  rw [reading, strtol_digits hne hdigits, readNumber_digits hne hdigits hrest hhex, plainNumber]
  split
  next =>
    split
    next hall =>
      have hall' := List.all_eq_true.mp hall
      rw [List.takeWhile_eq_self_iff.mpr hall', List.dropWhile_eq_nil_iff.mpr hall']
      rfl
    next hall =>
      -- A digit that is not octal is read as the start of a unit.
      obtain ⟨c, cs, hcs⟩ := List.exists_cons_of_ne_nil
        (fun hnil => hall (List.all_eq_true.mpr (List.dropWhile_eq_nil_iff.mp hnil)))
      have hc : c ∈ digits := List.dropWhile_subset _ (hcs ▸ List.mem_cons_self)
      simp only [hcs, List.cons_append, Option.map_some, Option.bind_eq_bind, Option.bind_some,
        readUnit_digit (hdigits c hc), Option.bind_none]
  next => rfl

end Digits

/-! ## Octal and decimal readings of the same digits -/

theorem number_concat (b : Nat) (digits : List Char) (c : Char)
    : number b (digits ++ [c]) = b * number b digits + PgLexer.digit c := by
  simp [number]

theorem number_octal_le (digits : List Char) : number 8 digits ≤ number 10 digits := by
  induction digits using List.reverseRecOn with
  | nil => exact le_refl _
  | append_singleton digits c ih =>
    rw [number_concat, number_concat]
    omega

theorem number_decimal_le {j : Nat} {digits : List Char} (h : number 8 digits < 8 ^ j)
    : number 10 digits * 4 ^ j ≤ number 8 digits * 5 ^ j := by
  induction digits using List.reverseRecOn generalizing j with
  | nil => simp [number]
  | append_singleton digits c ih =>
    rw [number_concat] at h ⊢
    rw [number_concat]
    cases j with
    | zero =>
      have hzero : number 8 digits = 0 ∧ PgLexer.digit c = 0 := by omega
      have hprefix := ih (j := 0) (by omega)
      simp only [pow_zero, Nat.mul_one] at hprefix ⊢
      omega
    | succ j =>
      have hprefix := ih (j := j) (by rw [pow_succ] at h; omega)
      have hdigit : PgLexer.digit c * 4 ^ (j + 1) ≤ PgLexer.digit c * 5 ^ (j + 1) :=
        Nat.mul_le_mul_left _ (Nat.pow_le_pow_left (by omega) _)
      calc (10 * number 10 digits + PgLexer.digit c) * 4 ^ (j + 1)
      _ = 40 * (number 10 digits * 4 ^ j) + PgLexer.digit c * 4 ^ (j + 1) := by ring
      _ ≤ 40 * (number 8 digits * 5 ^ j) + PgLexer.digit c * 5 ^ (j + 1) := by omega
      _ = (8 * number 8 digits + PgLexer.digit c) * 5 ^ (j + 1) := by ring

end PgSetting
end Hysteron
