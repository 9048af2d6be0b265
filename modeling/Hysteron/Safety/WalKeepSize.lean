import Hysteron.Keeper.Settings
import Hysteron.Util.PgSetting

/-!
The size of the log that is kept, as the server reads the setting that the keeper writes.
-/

namespace Hysteron
namespace Keeper

open PgLexer (isOctal isHex number)
open PgSetting Text

def minWalKeepBytes : Nat := 8 * walSegSize

def Clamped (v written : String) : Prop :=
  ∃ size, reading written.toList = some size ∧ minWalKeepBytes ≤ size
    ∧ ∀ size', reading v.toList = some size' → minWalKeepBytes ≤ size' → size' = size

/-! ## What the keeper reads -/

section Parts

variable (v : String)

def trimmedOf : List Char := (ClusterSpec.trimSpace v).toList

def digitsOf : List Char := (trimmedOf v).takeWhile Char.isDigit

def restOf : List Char := (trimmedOf v).dropWhile Char.isDigit

def blanksOf : List Char := (restOf v).takeWhile ClusterSpec.isSpace

def unitOf : List Char := (restOf v).dropWhile ClusterSpec.isSpace

end Parts

def unitAnyCase (unit : List Char) : Option Nat :=
  (units.find? (fun entry => entry.1.map Char.toUpper = unit.map Char.toUpper)).map (·.2)

def ReadAsEnough (v : String) (size : Nat) : Prop :=
  unitAnyCase (unitOf v) = some size
    ∧ digitsOf v ≠ []
    ∧ number 10 (digitsOf v) < 2 ^ 64
    ∧ minWalKeepBytes ≤ number 10 (digitsOf v) * size % 2 ^ 64

structure SafeSpelling (v : String) : Prop where
  /-- What the keeper takes over has a number, white space and a unit that the server reads as large
  enough, where a number that starts with zero is octal. -/
  read : ∀ size, ReadAsEnough v size →
    (∀ c ∈ blanksOf v, LibPQ.isSpace c = true)
      ∧ unitSize (unitOf v) = some size
      ∧ ∃ n, plainNumber (digitsOf v) = some n ∧ minWalKeepBytes ≤ n * size
        ∧ inRange ((n * size : Nat) : Int) = true
  plain : ∀ size, reading v.toList = some size → minWalKeepBytes < size →
    digitsOf v ≠ [] ∧ isHexForm (trimmedOf v) = false

/-! ## Trimmed texts -/

section Trimmed

variable {v : String}

theorem exists_surrounded (v : String)
    : ∃ lead tail, v.toList = lead ++ trimmedOf v ++ tail
        ∧ (∀ c ∈ lead, ClusterSpec.isSpace c = true) ∧ (∀ c ∈ tail, ClusterSpec.isSpace c = true) := by
  let behind := (v.toList.dropWhile ClusterSpec.isSpace).reverse
  refine ⟨v.toList.takeWhile ClusterSpec.isSpace, (behind.takeWhile ClusterSpec.isSpace).reverse, ?_,
    fun c hc => List.mem_takeWhile_imp (p := ClusterSpec.isSpace) hc,
    fun c hc => List.mem_takeWhile_imp (p := ClusterSpec.isSpace) (List.mem_reverse.mp hc)⟩
  have hbehind : trimmedOf v ++ (behind.takeWhile ClusterSpec.isSpace).reverse
      = v.toList.dropWhile ClusterSpec.isSpace := by
    rw [trimmedOf, ClusterSpec.trimSpace, String.toList_ofList, ← List.reverse_append,
      List.takeWhile_append_dropWhile, List.reverse_reverse]
  rw [List.append_assoc, hbehind, List.takeWhile_append_dropWhile]

theorem isSpace_getLast (v : String) {c : Char} (h : (trimmedOf v).getLast? = some c)
    : ClusterSpec.isSpace c = false := by
  rw [trimmedOf, ClusterSpec.trimSpace, String.toList_ofList, List.getLast?_reverse] at h
  exact not_of_head?_dropWhile h

theorem trimmedOf_eq (v : String) : trimmedOf v = digitsOf v ++ restOf v :=
  List.takeWhile_append_dropWhile.symm

theorem restOf_eq (v : String) : restOf v = blanksOf v ++ unitOf v :=
  List.takeWhile_append_dropWhile.symm

theorem isSpace_getLast_unitOf {c : Char} (h : (unitOf v).getLast? = some c)
    : ClusterSpec.isSpace c = false := by
  apply isSpace_getLast v
  rw [trimmedOf_eq, restOf_eq, ← List.append_assoc, List.getLast?_append, h]
  rfl

theorem trimSpace_restOf (v : String)
    : ClusterSpec.trimSpace (String.ofList (restOf v)) = String.ofList (unitOf v) := by
  have hend : (unitOf v).reverse.dropWhile ClusterSpec.isSpace = (unitOf v).reverse := by
    cases hunit : (unitOf v).reverse with
    | nil => rfl
    | cons c cs =>
      have hlast : (unitOf v).getLast? = some c := by
        rw [← List.head?_reverse, hunit]
        rfl
      simp [isSpace_getLast_unitOf hlast]
  rw [ClusterSpec.trimSpace, String.toList_ofList, ← unitOf, hend, List.reverse_reverse]

end Trimmed

/-! ## The code's reading -/

theorem decimal_digitsOf (v : String)
    : decimal (digitsOf v) = if digitsOf v = [] then none else some (number 10 (digitsOf v)) := by
  have hall : (digitsOf v).all Char.isDigit = true :=
    List.all_eq_true.mpr (fun c hc => List.mem_takeWhile_imp (p := Char.isDigit) hc)
  have hvalue : (digitsOf v).foldl (fun n c => 10 * n + (c.toNat - '0'.toNat)) 0
      = number 10 (digitsOf v) := by
    unfold number
    apply List.foldl_ext
    intro n c hc
    have hdigit : c.isDigit = true := List.all_eq_true.mp hall c hc
    simp [PgLexer.digit, hdigit]
  rw [decimal, hall, hvalue]
  by_cases hempty : digitsOf v = []
  all_goals simp [hempty]

theorem unitAnyCase_of_upper {unit : List Char} (letters : List Char) {size : Nat}
    (h : String.ofList (unit.map Char.toUpper) = String.ofList letters)
    (hsize : (units.find? (fun entry => entry.1.map Char.toUpper = letters)).map (·.2) = some size)
    : unitAnyCase unit = some size := by
  rw [unitAnyCase, String.ofList_injective h]
  exact hsize

theorem unitAnyCase_eq_none {unit : List Char}
    (h : ∀ entry ∈ units, String.ofList (unit.map Char.toUpper)
      ≠ String.ofList (entry.1.map Char.toUpper))
    : unitAnyCase unit = none := by
  rw [unitAnyCase, Option.map_eq_none_iff, List.find?_eq_none]
  intro entry hentry heq
  rw [decide_eq_true_eq] at heq
  exact h entry hentry (congrArg String.ofList heq.symm)

theorem parsePostgreSQLBytes_eq (v : String)
    : parsePostgreSQLBytes v
        =
      if digitsOf v = [] ∨ 2 ^ 64 ≤ number 10 (digitsOf v) then none
      else (unitAnyCase (unitOf v)).map (fun size => UInt64.ofNat (number 10 (digitsOf v) * size)) := by
  have hunit : (ClusterSpec.trimSpace (String.ofList (restOf v))).map Char.toUpper
      = String.ofList ((unitOf v).map Char.toUpper) := by
    rw [trimSpace_restOf]
    apply String.toList_injective
    simp
  unfold parsePostgreSQLBytes
  dsimp only
  rw [← trimmedOf, ← digitsOf, ← restOf, decimal_digitsOf, hunit]
  generalize number 10 (digitsOf v) = n
  by_cases hempty : digitsOf v = []
  . simp only [hempty, ↓reduceIte, true_or]
    rfl
  . by_cases hlarge : 2 ^ 64 ≤ n
    . simp only [hempty, hlarge, ↓reduceIte, or_true, Option.bind_eq_bind, Option.bind_some]
    . simp only [hempty, hlarge, ↓reduceIte, or_self, Option.bind_eq_bind, Option.bind_some]
      split
      next h =>
        rw [unitAnyCase_of_upper [] h rfl]
        simp [UInt64.ofNat_mul, UInt64.mul_assoc]
      next h =>
        rw [unitAnyCase_of_upper ['B'] h rfl]
        simp
      next h =>
        rw [unitAnyCase_of_upper ['K', 'B'] h rfl]
        simp [UInt64.ofNat_mul]
      next h =>
        rw [unitAnyCase_of_upper ['M', 'B'] h rfl]
        simp [UInt64.ofNat_mul, UInt64.mul_assoc]
      next h =>
        rw [unitAnyCase_of_upper ['G', 'B'] h rfl]
        simp [UInt64.ofNat_mul, UInt64.mul_assoc]
      next h =>
        rw [unitAnyCase_of_upper ['T', 'B'] h rfl]
        simp [UInt64.ofNat_mul, UInt64.mul_assoc]
      next h₀ h₁ h₂ h₃ h₄ h₅ =>
        rw [unitAnyCase_eq_none, Option.map_none]
        simp only [units, List.forall_mem_cons, List.not_mem_nil, IsEmpty.forall_iff, implies_true,
          and_true]
        exact ⟨h₀, h₁, h₂, h₃, h₄, h₅⟩

section Decision

variable {db : DB} {v : String} {size : Nat}

theorem minimum_eq (n : Nat)
    : UInt64.ofNat n < 8 * UInt64.ofNat (walSegSize / (1024 * 1024)) * 1024 * 1024
        ↔
      n % 2 ^ 64 < minWalKeepBytes := by
  have hmin : 8 * UInt64.ofNat (walSegSize / (1024 * 1024)) * 1024 * 1024
      = UInt64.ofNat minWalKeepBytes := by decide
  rw [hmin, UInt64.lt_iff_toNat_lt, UInt64.toNat_ofNat', UInt64.toNat_ofNat',
    Nat.mod_eq_of_lt (by decide : minWalKeepBytes < 2 ^ 64)]

theorem walKeepSize_of_readAsEnough (h : specParameter db "wal_keep_size" = some v)
    (hread : ReadAsEnough v size) : walKeepSize db = ClusterSpec.trimSpace v := by
  obtain ⟨hunit, hdigits, hlt, hmin⟩ := hread
  have hnot : ¬ (digitsOf v = [] ∨ 2 ^ 64 ≤ number 10 (digitsOf v)) := by
    rintro (hempty | hge)
    . exact hdigits hempty
    . exact absurd hlt (not_lt.mpr hge)
  have hparse := parsePostgreSQLBytes_eq v
  rw [if_neg hnot, hunit, Option.map_some] at hparse
  simp only [walKeepSize, h, hparse, minimum_eq]
  rw [if_neg (not_lt.mpr hmin)]

theorem walKeepSize_of_not_readAsEnough (h : specParameter db "wal_keep_size" = some v)
    (hread : ∀ size, ¬ ReadAsEnough v size) : walKeepSize db = "128MB" := by
  have hdefault : toString (8 * UInt64.ofNat (walSegSize / (1024 * 1024))) ++ "MB" = "128MB" := by
    decide +kernel
  have hparse := parsePostgreSQLBytes_eq v
  simp only [walKeepSize, h, hdefault]
  split
  next => rfl
  next bytes hbytes =>
    rw [hbytes] at hparse
    split at hparse
    next => cases hparse
    next hnot =>
      obtain ⟨size, hunit, rfl⟩ := Option.map_eq_some_iff.mp hparse.symm
      rw [not_or, not_le] at hnot
      rw [if_pos]
      exact (minimum_eq _).mpr (not_le.mp (fun hmin => hread size ⟨hunit, hnot.1, hnot.2, hmin⟩))

end Decision

/-! ## The server's reading -/

section Reading

variable {v : String} {text : List Char} {c : Char}

theorem isSpace_of_isSpace (h : LibPQ.isSpace c = true) : ClusterSpec.isSpace c = true := by
  have hmem : c ∈ [' ', '\t', '\n', '\x0b', '\x0c', '\r'] := List.contains_iff_mem.mp h
  simp only [List.mem_cons, List.not_mem_nil, or_false] at hmem
  rcases hmem with rfl | rfl | rfl | rfl | rfl | rfl
  all_goals decide

theorem isSpace_of_isHex (h : isHex c = true) : ClusterSpec.isSpace c = false := by
  have hrange : 48 ≤ c.toNat ∧ c.toNat ≤ 102 := by
    simp only [isHex, Char.isDigit, Bool.or_eq_true, Bool.and_eq_true, decide_eq_true_eq, Char.le_def,
      ge_iff_le, UInt32.le_iff_toNat_le, UInt32.reduceToNat, Char.reduceVal] at h
    have : c.toNat = c.val.toNat := rfl
    omega
  simp only [ClusterSpec.isSpace, Bool.or_eq_false_iff, decide_eq_false_iff_not, Bool.and_eq_false_iff,
    List.mem_cons, List.not_mem_nil, or_false]
  omega

theorem isSpace_of_isPlain (h : isPlain c = true) (hspace : ClusterSpec.isSpace c = true)
    : LibPQ.isSpace c = true := by
  simp only [isPlain, Bool.or_eq_true, List.contains_iff_mem] at h
  rcases h with (h | h) | h
  . exact h
  . simp [isSpace_of_isHex h] at hspace
  . simp only [List.mem_cons, List.not_mem_nil, or_false] at h
    rcases h with rfl | rfl | rfl | rfl | rfl | rfl | rfl | rfl
    all_goals exact absurd hspace (by decide)

theorem reading_trimmedOf {size : Int} (h : reading v.toList = some size)
    : reading (trimmedOf v) = some size := by
  obtain ⟨lead, tail, hv, hlead, htail⟩ := exists_surrounded v
  have hplain : ∀ c ∈ v.toList, isPlain c = true := fun c hc => isPlain_of_reading h hc
  rw [hv] at h hplain
  rw [← h]
  symm
  apply reading_surrounded
  . intro c hc
    exact isSpace_of_isPlain (hplain c (by simp [hc])) (hlead c hc)
  . intro c hc
    exact isSpace_of_isPlain (hplain c (by simp [hc])) (htail c hc)

theorem head_restOf (hc : (restOf v).head? = some c) : c.isDigit = false :=
  not_of_head?_dropWhile hc

theorem head_unitOf (hc : (unitOf v).head? = some c) : ClusterSpec.isSpace c = false :=
  not_of_head?_dropWhile hc

theorem isDigit_digitsOf : ∀ c ∈ digitsOf v, c.isDigit = true :=
  fun _ hc => List.mem_takeWhile_imp (p := Char.isDigit) hc

theorem isSpace_blanksOf (hc : c ∈ blanksOf v) : ClusterSpec.isSpace c = true :=
  List.mem_takeWhile_imp (p := ClusterSpec.isSpace) hc

theorem unitSize_of_readUnit {size : Nat} (h : readUnit (restOf v) = some size)
    : (∀ c ∈ blanksOf v, LibPQ.isSpace c = true) ∧ unitSize (unitOf v) = some size := by
  have hplain : ∀ c ∈ restOf v, isPlain c = true := fun c hc => isPlain_of_readUnit h hc
  have hblanks : ∀ c ∈ blanksOf v, LibPQ.isSpace c = true := by
    intro c hc
    have hrest : c ∈ restOf v := by
      rw [restOf_eq, List.mem_append]
      exact .inl hc
    exact isSpace_of_isPlain (hplain c hrest) (isSpace_blanksOf hc)
  have hunit : ∀ {c : Char}, ClusterSpec.isSpace c = false → LibPQ.isSpace c = false :=
    fun hc => Bool.eq_false_iff.mpr (fun h => by simp [isSpace_of_isSpace h] at hc)
  rw [restOf_eq, readUnit_lead hblanks] at h
  have hnone := not_isSpace_of_readUnit h (fun c hc => hunit (head_unitOf hc))
    (fun c hc => hunit (isSpace_getLast_unitOf hc))
  rw [readUnit_eq_unitSize hnone] at h
  exact ⟨hblanks, h⟩

theorem isSpace_unit {unit : List Char} {size : Nat} (h : unitAnyCase unit = some size) (hc : c ∈ unit)
    : LibPQ.isSpace c = false ∧ c ≠ 'x' ∧ c ≠ 'X' := by
  obtain ⟨entry, hfind, -⟩ := Option.map_eq_some_iff.mp h
  have hletters : entry.1.map Char.toUpper = unit.map Char.toUpper := by
    simpa using List.find?_some hfind
  obtain ⟨d, hd, hupper⟩ := List.mem_map.mp (hletters ▸ List.mem_map_of_mem hc)
  have hall : units.all (fun entry => entry.1.all (fun d => d.toUpper.isUpper && d.toUpper != 'X'))
      = true := by
    decide +kernel
  have hnot := List.all_eq_true.mp
    (List.all_eq_true.mp hall entry (List.mem_of_find?_eq_some hfind)) d hd
  rw [hupper, Bool.and_eq_true, bne_iff_ne] at hnot
  refine ⟨Bool.eq_false_iff.mpr ?_, ?_, ?_⟩
  . intro hspace
    have hmem : c ∈ [' ', '\t', '\n', '\x0b', '\x0c', '\r'] := List.contains_iff_mem.mp hspace
    simp only [List.mem_cons, List.not_mem_nil, or_false] at hmem
    rcases hmem with rfl | rfl | rfl | rfl | rfl | rfl
    all_goals exact absurd hnot.1 (by decide)
  . rintro rfl
    exact hnot.2 (by decide)
  . rintro rfl
    exact hnot.2 (by decide)

theorem unitAnyCase_of_unitSize {unit : List Char} {size : Nat} (h : unitSize unit = some size)
    : unitAnyCase unit = some size := by
  have hall : units.all (fun entry => unitAnyCase entry.1 = some entry.2) = true := by decide +kernel
  simpa using List.all_eq_true.mp hall _ (mem_units h)

theorem reading_trimmedOf_iff {bytes : Int} (hdigits : digitsOf v ≠ [])
    (hhex : isHexForm (trimmedOf v) = false)
    : reading (trimmedOf v) = some bytes
        ↔
      ∃ n size, plainNumber (digitsOf v) = some n ∧ readUnit (restOf v) = some size
        ∧ bytes = ((n * size : Nat) : Int) ∧ inRange bytes = true := by
  rw [trimmedOf_eq] at hhex ⊢
  rw [reading_digits hdigits isDigit_digitsOf (fun c hc => head_restOf hc) hhex]
  simp only [Option.bind_eq_some_iff, bounded]
  constructor
  . rintro ⟨n, hn, size, hsize, hbytes⟩
    split at hbytes
    next hrange =>
      obtain rfl := Option.some.inj hbytes
      exact ⟨n, size, hn, hsize, by push_cast; rfl, hrange⟩
    next => cases hbytes
  . rintro ⟨n, size, hn, hsize, rfl, hrange⟩
    refine ⟨n, hn, size, hsize, ?_⟩
    push_cast at hrange ⊢
    rw [if_pos hrange]

theorem not_isHexForm_of_unitAnyCase {size : Nat} (hunit : unitAnyCase (unitOf v) = some size)
    (hdigits : digitsOf v ≠ []) : isHexForm (trimmedOf v) = false := by
  rw [trimmedOf_eq]
  apply isHexForm_digits hdigits isDigit_digitsOf
  intro c hc
  have hmem := List.mem_of_mem_head? hc
  rw [restOf_eq, List.mem_append] at hmem
  rcases hmem with hblank | hletter
  . have hspace := isSpace_blanksOf hblank
    constructor
    all_goals
      rintro rfl
      exact absurd hspace (by decide)
  . exact (isSpace_unit hunit hletter).2

theorem readUnit_of_unitSize {size : Nat} (hblanks : ∀ c ∈ blanksOf v, LibPQ.isSpace c = true)
    (hunit : unitSize (unitOf v) = some size) : readUnit (restOf v) = some size := by
  have hnone : ∀ c ∈ unitOf v, LibPQ.isSpace c = false :=
    fun c hc => (isSpace_unit (unitAnyCase_of_unitSize hunit) hc).1
  rw [restOf_eq, readUnit_lead hblanks, readUnit_eq_unitSize hnone, hunit]

theorem reading_of_readAsEnough_iff {size : Nat} (h : ReadAsEnough v size)
    : (∃ bytes, reading (trimmedOf v) = some bytes ∧ minWalKeepBytes ≤ bytes)
        ↔
      (∀ c ∈ blanksOf v, LibPQ.isSpace c = true)
        ∧ unitSize (unitOf v) = some size
        ∧ ∃ n, plainNumber (digitsOf v) = some n ∧ minWalKeepBytes ≤ n * size
          ∧ inRange ((n * size : Nat) : Int) = true := by
  obtain ⟨hunit, hdigits, -, -⟩ := h
  have hhex := not_isHexForm_of_unitAnyCase hunit hdigits
  constructor
  . rintro ⟨bytes, hreading, hmin⟩
    obtain ⟨n, size', hn, hsize, rfl, hrange⟩ := (reading_trimmedOf_iff hdigits hhex).mp hreading
    obtain ⟨hblanks, hsize⟩ := unitSize_of_readUnit hsize
    obtain rfl : size' = size := Option.some.inj ((unitAnyCase_of_unitSize hsize).symm.trans hunit)
    exact ⟨hblanks, hsize, n, hn, by exact_mod_cast hmin, hrange⟩
  . rintro ⟨hblanks, hsize, n, hn, hmin, hrange⟩
    exact ⟨_, (reading_trimmedOf_iff hdigits hhex).mpr
      ⟨n, size, hn, readUnit_of_unitSize hblanks hsize, rfl, hrange⟩, by exact_mod_cast hmin⟩

theorem number_of_plainNumber {digits : List Char} {n : Nat} (h : plainNumber digits = some n)
    : n ≤ number 10 digits ∧ ∀ j, n < 8 ^ j → number 10 digits * 4 ^ j ≤ n * 5 ^ j := by
  unfold plainNumber at h
  split at h
  next =>
    split at h
    next =>
      obtain rfl := Option.some.inj h
      exact ⟨number_octal_le digits, fun j hj => number_decimal_le hj⟩
    next => cases h
  next =>
    obtain rfl := Option.some.inj h
    exact ⟨le_refl _, fun j _ => Nat.mul_le_mul_left _ (Nat.pow_le_pow_left (by omega) _)⟩

theorem unitSize_pos {unit : List Char} {size : Nat} (h : unitSize unit = some size) : 0 < size := by
  have hall : units.all (fun entry => decide (0 < entry.2)) = true := by decide +kernel
  simpa using List.all_eq_true.mp hall _ (mem_units h)

theorem product_lt {digits : List Char} {n size : Nat} (hn : plainNumber digits = some n)
    (hsize : 0 < size) (hrange : inRange ((n * size : Nat) : Int) = true)
    : number 10 digits * size < 2 ^ 64 := by
  obtain ⟨-, hbound⟩ := number_of_plainNumber hn
  have hproduct : n * size < 2 ^ 51 := by
    simp only [inRange, decide_eq_true_eq] at hrange
    omega
  have hlt : n < 8 ^ 17 :=
    calc n
    _ ≤ n * size := Nat.le_mul_of_pos_right _ hsize
    _ < 8 ^ 17 := hproduct
  have hscaled : number 10 digits * size * 4 ^ 17 < 2 ^ 64 * 4 ^ 17 :=
    calc number 10 digits * size * 4 ^ 17
    _ = number 10 digits * 4 ^ 17 * size := by ring
    _ ≤ n * 5 ^ 17 * size := Nat.mul_le_mul_right _ (hbound 17 hlt)
    _ = n * size * 5 ^ 17 := by ring
    _ < 2 ^ 51 * 5 ^ 17 := Nat.mul_lt_mul_of_pos_right hproduct (by norm_num)
    _ < 2 ^ 64 * 4 ^ 17 := by norm_num
  exact Nat.lt_of_mul_lt_mul_right hscaled

theorem readAsEnough_of_reading {bytes : Int} (h : reading v.toList = some bytes)
    (hmin : minWalKeepBytes ≤ bytes) (hdigits : digitsOf v ≠ [])
    (hhex : isHexForm (trimmedOf v) = false) : ∃ size, ReadAsEnough v size := by
  obtain ⟨n, size, hn, hunit, rfl, hrange⟩ :=
    (reading_trimmedOf_iff hdigits hhex).mp (reading_trimmedOf h)
  obtain ⟨-, hsize⟩ := unitSize_of_readUnit hunit
  have hpos := unitSize_pos hsize
  have hlt := product_lt hn hpos hrange
  refine ⟨size, unitAnyCase_of_unitSize hsize, hdigits, ?_, ?_⟩
  . exact lt_of_le_of_lt (Nat.le_mul_of_pos_right _ hpos) hlt
  . rw [Nat.mod_eq_of_lt hlt]
    calc minWalKeepBytes
    _ ≤ n * size := by exact_mod_cast hmin
    _ ≤ number 10 (digitsOf v) * size := Nat.mul_le_mul_right _ (number_of_plainNumber hn).1

end Reading

/--
The size that the keeper writes is safe and keeps the size that the user wants exactly for the
spellings that the keeper and the server read alike.
-/
theorem walKeepSize_clamped_iff (db : DB) (v : String) (h : specParameter db "wal_keep_size" = some v)
    : Clamped v (walKeepSize db) ↔ SafeSpelling v := by
  by_cases hread : ∃ size, ReadAsEnough v size
  . obtain ⟨size, hread⟩ := hread
    rw [walKeepSize_of_readAsEnough h hread]
    constructor
    . rintro ⟨bytes, hreading, hmin, -⟩
      exact
        { read := fun _ hread => (reading_of_readAsEnough_iff hread).mp ⟨bytes, hreading, hmin⟩
          plain := fun _ _ _ => ⟨hread.2.1, not_isHexForm_of_unitAnyCase hread.1 hread.2.1⟩ }
    . intro hsafe
      obtain ⟨bytes, hreading, hmin⟩ := (reading_of_readAsEnough_iff hread).mpr (hsafe.read size hread)
      refine ⟨bytes, hreading, hmin, ?_⟩
      intro size' hsize' _
      exact Option.some.inj ((reading_trimmedOf hsize').symm.trans hreading)
  . rw [walKeepSize_of_not_readAsEnough h (fun size hsize => hread ⟨size, hsize⟩)]
    have hdefault : reading "128MB".toList = some (minWalKeepBytes : Int) := by decide +kernel
    constructor
    . rintro ⟨bytes, hreading, -, hsame⟩
      obtain rfl := Option.some.inj (hdefault.symm.trans hreading)
      exact
        { read := fun size hsize => absurd ⟨size, hsize⟩ hread
          plain := fun size hsize hlt => absurd (hsame size hsize hlt.le) hlt.ne' }
    . intro hsafe
      refine ⟨minWalKeepBytes, hdefault, le_refl _, ?_⟩
      intro size' hsize' hmin
      by_contra hne
      obtain ⟨hdigits, hhex⟩ := hsafe.plain size' hsize' (lt_of_le_of_ne hmin (Ne.symm hne))
      exact hread (readAsEnough_of_reading hsize' hmin hdigits hhex)

def sizedDB (v : String) : DB where
  uid := "db1"
  generation := 1
  spec :=
    { keeperUID := "keeper1"
      initMode := .none
      role := .master
      pgParameters := some (Std.ExtTreeMap.ofList [("wal_keep_size", v)]) }

theorem walKeepSize_clamped_iff_sample
    : Clamped " 1 GB" (walKeepSize (sizedDB " 1 GB")) ↔ SafeSpelling " 1 GB" :=
  walKeepSize_clamped_iff (sizedDB " 1 GB") " 1 GB" (by decide +kernel)

/--
A unit in another case is taken over although the server rejects it. A number that starts with zero and
a size beyond the range of the server are taken over as well, and a sign hides a size that is large
enough.
-/
theorem sizes_misread
    : ¬ Clamped "200mb" (walKeepSize (sizedDB "200mb"))
        ∧
      walKeepSize (sizedDB "0150MB") = "0150MB" ∧ reading "0150MB".toList = some (104 * 2 ^ 20)
        ∧
      walKeepSize (sizedDB "3000000000MB") = "3000000000MB" ∧ reading "3000000000MB".toList = none
        ∧
      walKeepSize (sizedDB "+200MB") = "128MB" ∧ reading "+200MB".toList = some (200 * 2 ^ 20) := by
  have hwritten : walKeepSize (sizedDB "200mb") = "200mb" ∧ reading "200mb".toList = none := by
    decide +kernel
  refine ⟨?_, by decide +kernel⟩
  rintro ⟨bytes, hreading, -⟩
  rw [hwritten.1, hwritten.2] at hreading
  cases hreading

end Keeper
end Hysteron
