import Mathlib

/-!
Hexadecimal digits: their value, what a number is written as, and that digits of one length are ordered
like their values.
-/

namespace Hysteron
namespace Hex

def upperDigits : List Char := "0123456789ABCDEF".toList

def digit (c : Char) : Nat :=
  if '0' ≤ c ∧ c ≤ '9' then
    c.toNat - '0'.toNat
  else if 'A' ≤ c ∧ c ≤ 'F' then
    c.toNat - 'A'.toNat + 10
  else if 'a' ≤ c ∧ c ≤ 'f' then
    c.toNat - 'a'.toNat + 10
  else
    0

def value (cs : List Char) : Nat := cs.foldl (fun n c => 16 * n + digit c) 0

variable {a b cs : List Char} {c d : Char}

theorem digit_lt (c : Char) : digit c < 16 := by
  have hle {lo hi : Char} (h : lo ≤ c ∧ c ≤ hi) : c.toNat ≤ hi.toNat := h.2
  unfold digit
  split
  . next h =>
    have := hle h
    simp only [Char.reduceToNat] at this ⊢
    omega
  split
  . next h =>
    have := hle h
    simp only [Char.reduceToNat] at this ⊢
    omega
  split
  . next h =>
    have := hle h
    simp only [Char.reduceToNat] at this ⊢
    omega
  . decide

theorem foldl_digit (n : Nat) (cs : List Char)
    : cs.foldl (fun n c => 16 * n + digit c) n = n * 16 ^ cs.length + value cs := by
  induction cs generalizing n with
  | nil => simp [value]
  | cons c cs ih =>
    have hvalue : value (c :: cs) = digit c * 16 ^ cs.length + value cs := by
      rw [value, List.foldl_cons, ih, mul_zero, zero_add]
    rw [List.foldl_cons, ih, hvalue, List.length_cons]
    ring

theorem value_append (a b : List Char) : value (a ++ b) = value a * 16 ^ b.length + value b := by
  rw [value, List.foldl_append, foldl_digit, ← value]

theorem value_cons (c : Char) (cs : List Char)
    : value (c :: cs) = digit c * 16 ^ cs.length + value cs := by
  rw [value, List.foldl_cons, foldl_digit]
  simp

theorem value_lt (cs : List Char) : value cs < 16 ^ cs.length := by
  induction cs with
  | nil => simp [value]
  | cons c cs ih =>
    have hdigit := digit_lt c
    calc value (c :: cs)
      _ = digit c * 16 ^ cs.length + value cs := value_cons c cs
      _ < (digit c + 1) * 16 ^ cs.length := by linarith
      _ ≤ 16 * 16 ^ cs.length := Nat.mul_le_mul_right _ hdigit
      _ = 16 ^ (c :: cs).length := by rw [List.length_cons, pow_succ, mul_comm]

theorem value_replicate_append (n : Nat) (cs : List Char)
    : value (List.replicate n '0' ++ cs) = value cs := by
  have hzero : digit '0' = 0 := by decide
  induction n with
  | zero => rfl
  | succ n ih => rw [List.replicate_succ, List.cons_append, value_cons, ih, hzero, zero_mul, zero_add]

theorem digit_lt_digit_iff (hc : c ∈ upperDigits) (hd : d ∈ upperDigits)
    : digit c < digit d ↔ c < d := by
  have hall : upperDigits.all (fun c => upperDigits.all (fun d =>
      decide (digit c < digit d) == decide (c < d))) = true := by
    decide +kernel
  have h := List.all_eq_true.mp (List.all_eq_true.mp hall c hc) d hd
  simpa using h

theorem lt_iff_value_lt (ha : ∀ c ∈ a, c ∈ upperDigits) (hb : ∀ c ∈ b, c ∈ upperDigits)
    (hlength : a.length = b.length) : a < b ↔ value a < value b := by
  induction a generalizing b with
  | nil =>
    obtain rfl : b = [] := List.length_eq_zero_iff.mp hlength.symm
    simp
  | cons c a ih =>
    obtain ⟨d, b, rfl⟩ := List.exists_cons_of_length_eq_add_one hlength.symm
    obtain ⟨hc, ha⟩ := List.forall_mem_cons.mp ha
    obtain ⟨hd, hb⟩ := List.forall_mem_cons.mp hb
    have hlength : a.length = b.length := by simpa using hlength
    have hvalue := value_lt a
    have hvalue' := value_lt b
    rw [List.cons_lt_cons_iff, ih ha hb hlength, value_cons, value_cons]
    rw [hlength] at hvalue ⊢
    -- The first digits decide unless they are the same.
    rcases lt_trichotomy (digit c) (digit d) with hlt | heq | hgt
    . have hle : (digit c + 1) * 16 ^ b.length ≤ digit d * 16 ^ b.length :=
        Nat.mul_le_mul_right _ hlt
      have hcd := (digit_lt_digit_iff hc hd).mp hlt
      constructor
      . intro _
        linarith
      . intro _
        exact .inl hcd
    . have hcd : c = d := by
        apply le_antisymm
        . exact not_lt.mp fun h => absurd ((digit_lt_digit_iff hd hc).mpr h) (by omega)
        . exact not_lt.mp fun h => absurd ((digit_lt_digit_iff hc hd).mpr h) (by omega)
      subst hcd
      simp
    . have hle : (digit d + 1) * 16 ^ b.length ≤ digit c * 16 ^ b.length :=
        Nat.mul_le_mul_right _ hgt
      have hcd := (digit_lt_digit_iff hd hc).mp hgt
      constructor
      . rintro (h | ⟨rfl, -⟩)
        . exact absurd h (lt_asymm hcd)
        . exact absurd hcd (lt_irrefl _)
      . intro h
        exact absurd h (by linarith)

/-! ## Numbers as texts -/

def format (n : Nat) : List Char := (Nat.toDigits 16 n).map Char.toUpper

theorem digitChar_toUpper {n : Nat} (h : n < 16)
    : (Nat.digitChar n).toUpper ∈ upperDigits ∧ digit (Nat.digitChar n).toUpper = n := by
  have hall : (List.range 16).all (fun n => upperDigits.contains (Nat.digitChar n).toUpper
      && digit (Nat.digitChar n).toUpper == n) = true := by
    decide +kernel
  have hn := List.all_eq_true.mp hall n (List.mem_range.mpr h)
  simpa using hn

theorem format_of_lt {n : Nat} (h : n < 16) : format n = [(Nat.digitChar n).toUpper] := by
  rw [format, Nat.toDigits_of_lt_base h, List.map_singleton]

theorem format_of_le {n : Nat} (h : 16 ≤ n)
    : format n = format (n / 16) ++ [(Nat.digitChar (n % 16)).toUpper] := by
  rw [format, Nat.toDigits_of_base_le (by decide) h, List.map_append]
  rfl

theorem format_spec (n : Nat) : (∀ c ∈ format n, c ∈ upperDigits) ∧ value (format n) = n := by
  induction n using Nat.strong_induction_on with
  | _ n ih =>
    by_cases h : n < 16
    . obtain ⟨hmem, hdigit⟩ := digitChar_toUpper h
      rw [format_of_lt h]
      exact ⟨by simpa using hmem, by simpa [value] using hdigit⟩
    . obtain ⟨hmem, hdigit⟩ := digitChar_toUpper (Nat.mod_lt n (by decide : 0 < 16))
      obtain ⟨hmem', hvalue⟩ := ih (n / 16) (by omega)
      rw [format_of_le (by omega)]
      constructor
      . exact List.forall_mem_append.mpr ⟨hmem', by simpa using hmem⟩
      . rw [value_append, hvalue, value_cons, hdigit]
        simp only [List.length_singleton, List.length_nil, pow_one, pow_zero, mul_one, value,
          List.foldl_nil, add_zero]
        omega

theorem length_format_le {n k : Nat} (hk : 0 < k) (h : n < 16 ^ k) : (format n).length ≤ k := by
  rw [format, List.length_map]
  exact (Nat.length_toDigits_le_iff (by decide) hk).mpr h

end Hex
end Hysteron
