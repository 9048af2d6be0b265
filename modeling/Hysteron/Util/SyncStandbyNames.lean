import Mathlib.Data.List.Basic
import Mathlib.Data.String.Basic

/-!
The grammar of `synchronous_standby_names`: a list of names, or a number of required standbys with a
list in parentheses, after `ANY` or `FIRST` or without a keyword.
-/

namespace Hysteron
namespace SyncStandbyNames

/-! ## Tokens -/

inductive Token where
  | name (chars : List Char)
  | num (digits : List Char)
  | any
  | first
  | comma
  | lparen
  | rparen
  | junk
  deriving DecidableEq

def isSpace (c : Char) : Bool :=
  c == ' ' || c == '\t' || c == '\n' || c == '\r' || c == '\x0b' || c == '\x0c'

def identStart (c : Char) : Bool := c.isAlpha || c == '_' || 0x80 ≤ c.toNat

def identCont (c : Char) : Bool := identStart c || c.isDigit || c == '$'

inductive State where
  | start
  | num (digits : List Char)
  | ident (chars : List Char)
  | quoted (chars : List Char)
  | closed (chars : List Char)

def keyword (chars : List Char) : Token :=
  if chars.map Char.toLower = ['a', 'n', 'y'] then .any
  else if chars.map Char.toLower = ['f', 'i', 'r', 's', 't'] then .first
  else .name chars

def symbol (c : Char) : Token :=
  match c with
  | '*' => .name ['*']
  | ',' => .comma
  | '(' => .lparen
  | ')' => .rparen
  | _ => .junk

def begin (c : Char) : List Token × State :=
  if isSpace c then ([], .start)
  else if c.isDigit then ([], .num [c])
  else if identStart c then ([], .ident [c])
  else if c == '"' then ([], .quoted [])
  else ([symbol c], .start)

def State.flush : State → List Token
  | .start => []
  | .num digits => [.num digits]
  | .ident chars => [keyword chars]
  | .quoted _ => [.junk]
  | .closed chars => [.name chars]

def State.step (s : State) (c : Char) : List Token × State :=
  match s with
  | .num digits =>
    if c.isDigit then ([], .num (digits ++ [c])) else (s.flush ++ (begin c).1, (begin c).2)
  | .ident chars =>
    if identCont c then ([], .ident (chars ++ [c])) else (s.flush ++ (begin c).1, (begin c).2)
  | .quoted chars => if c == '"' then ([], .closed chars) else ([], .quoted (chars ++ [c]))
  | .closed chars =>
    if c == '"' then ([], .quoted (chars ++ [c])) else (s.flush ++ (begin c).1, (begin c).2)
  | .start => begin c

def lex (s : State) : List Char → List Token
  | [] => s.flush
  | c :: cs => (s.step c).1 ++ lex (s.step c).2 cs

/-! ## The requirement -/

structure Requirement where
  count : Nat
  names : List String
  deriving DecidableEq

def Requirement.Acknowledges (r : Requirement) (confirmed : String → Bool) : Prop :=
  r.count ≤ (r.names.filter confirmed).length

def standbyName : Token → Option String
  | .name chars => some (String.ofList chars)
  | .num digits => some (String.ofList digits)
  | _ => none

def standbyList (closing : List Token) : List Token → Option (List String)
  | [] => none
  | token :: .comma :: rest => do
    let name ← standbyName token
    let names ← standbyList closing rest
    return name :: names
  | token :: rest =>
    if rest = closing then (standbyName token).map ([·]) else none

def numbered (digits : List Char) (rest : List Token) : Option Requirement := do
  let count := Nat.ofDigitChars 10 digits 0
  let names ← standbyList [.rparen] rest
  if 0 < count then some { count, names } else none

def standbyConfig : List Token → Option Requirement
  | .num digits :: .lparen :: rest => numbered digits rest
  | .any :: .num digits :: .lparen :: rest => numbered digits rest
  | .first :: .num digits :: .lparen :: rest => numbered digits rest
  | tokens => do
    let names ← standbyList [] tokens
    return { count := 1, names }

/--
What a value requires, or `none` if PostgreSQL refuses it.
-/
def read (value : String) : Option Requirement :=
  if value = "" then
    some { count := 0, names := [] }
  else
    standbyConfig (lex .start value.toList)

/-! ## Lists of identifiers -/

theorem Requirement.confirmed_of_acknowledges {r : Requirement} {confirmed : String → Bool}
    (hall : r.count = r.names.length) (h : r.Acknowledges confirmed)
    : ∀ name ∈ r.names, confirmed name = true := by
  unfold Acknowledges at h
  rw [hall] at h
  exact List.length_filter_eq_length_iff.mp (Nat.le_antisymm (List.length_filter_le _ _) h)

structure IsIdentifier (name : String) : Prop where
  chars : ∃ (c : Char) (cs : List Char),
    name.toList = c :: cs ∧ identStart c = true ∧ ∀ c' ∈ cs, identCont c' = true
  notKeyword : keyword name.toList = .name name.toList

theorem isSpace_eq_false {c : Char} {p : Char → Bool} (h : p c = true)
    (hspaces : [' ', '\t', '\n', '\r', '\x0b', '\x0c'].all (fun c' => !p c') = true)
    : isSpace c = false := by
  by_contra hspace
  simp only [isSpace, Bool.not_eq_false, Bool.or_eq_true, beq_iff_eq, or_assoc] at hspace
  have hnot := List.all_eq_true.mp hspaces c (by simpa using hspace)
  simp [h] at hnot

theorem isDigit_eq_false {c : Char} (h : identStart c = true) : c.isDigit = false := by
  by_contra hdigit
  simp only [Bool.not_eq_false, Char.isDigit, Bool.and_eq_true, decide_eq_true_eq,
    UInt32.le_iff_toNat_le] at hdigit
  simp only [identStart, Bool.or_eq_true, decide_eq_true_eq, beq_iff_eq] at h
  rcases h with (halpha | rfl) | h
  . change (decide (c.val ≥ 'A'.val ∧ c.val ≤ 'Z'.val)
      || (decide (c.val ≥ 'a'.val) && decide (c.val ≤ 'z'.val))) = true at halpha
    simp only [Bool.or_eq_true, Bool.and_eq_true, decide_eq_true_eq, ge_iff_le,
      UInt32.le_iff_toNat_le] at halpha
    rcases halpha with h | h
    . exact absurd (h.1.trans hdigit.2) (by decide)
    . exact absurd (h.1.trans hdigit.2) (by decide)
  . exact absurd hdigit.2 (by decide)
  . exact absurd (h.trans hdigit.2) (by decide)

theorem begin_identStart {c : Char} (h : identStart c = true) : begin c = ([], .ident [c]) := by
  simp [begin, isSpace_eq_false h (by decide), isDigit_eq_false h, h]

theorem begin_digit {c : Char} (h : c.isDigit = true) : begin c = ([], .num [c]) := by
  simp [begin, isSpace_eq_false h (by decide), h]

theorem lex_append {state : List Char → State} {p : Char → Bool}
    (hstep : ∀ (chars : List Char) (c : Char), p c = true →
      (state chars).step c = ([], state (chars ++ [c])))
    (chars cs rest : List Char) (h : ∀ c ∈ cs, p c = true)
    : lex (state chars) (cs ++ rest) = lex (state (chars ++ cs)) rest := by
  induction cs generalizing chars with
  | nil => simp
  | cons c cs ih =>
    simp only [List.cons_append, lex, hstep chars c (h c List.mem_cons_self), List.nil_append]
    rw [ih _ fun c' hc' => h c' (List.mem_cons_of_mem c hc')]
    simp

theorem lex_ident (chars cs rest : List Char) (h : ∀ c ∈ cs, identCont c = true)
    : lex (.ident chars) (cs ++ rest) = lex (.ident (chars ++ cs)) rest :=
  lex_append (fun chars c hc => by simp only [State.step, hc, if_true]) chars cs rest h

theorem lex_num (digits cs rest : List Char) (h : ∀ c ∈ cs, c.isDigit = true)
    : lex (.num digits) (cs ++ rest) = lex (.num (digits ++ cs)) rest :=
  lex_append (fun digits c hc => by simp only [State.step, hc, if_true]) digits cs rest h

theorem lex_identifier {name : String} (h : IsIdentifier name) (rest : List Char)
    : lex .start (name.toList ++ rest) = lex (.ident name.toList) rest := by
  obtain ⟨c, cs, hname, hstart, hcont⟩ := h.chars
  rw [hname, List.cons_append, lex, State.step, begin_identStart hstart, List.nil_append,
    lex_ident _ _ _ hcont]
  rfl

theorem lex_ident_end {name : String} (h : IsIdentifier name)
    : lex (.ident name.toList) [] = [.name name.toList] := by
  rw [lex, State.flush, h.notKeyword]

theorem lex_ident_rparen {name : String} (h : IsIdentifier name)
    : lex (.ident name.toList) [')'] = [.name name.toList, .rparen] := by
  rw [lex, State.step, if_neg (by decide), State.flush, h.notKeyword]
  rfl

theorem lex_ident_comma {name : String} (h : IsIdentifier name) (rest : List Char)
    : lex (.ident name.toList) (',' :: rest) = .name name.toList :: .comma :: lex .start rest := by
  rw [lex, State.step, if_neg (by decide), State.flush, h.notKeyword]
  rfl

theorem standbyList_lex {names : List String} (hne : names ≠ [])
    (hnames : ∀ name ∈ names, IsIdentifier name) {tail : List Char} {closing : List Token}
    (htail : tail = [] ∧ closing = [] ∨ tail = [')'] ∧ closing = [.rparen])
    : standbyList closing (lex .start ((",".intercalate names).toList ++ tail)) = some names := by
  induction names with
  | nil => exact absurd rfl hne
  | cons name names ih =>
    have hname := hnames name List.mem_cons_self
    cases names with
    | nil =>
      have hsingle : ",".intercalate [name] = name := rfl
      rw [hsingle, lex_identifier hname]
      obtain ⟨rfl, rfl⟩ | ⟨rfl, rfl⟩ := htail
      . rw [lex_ident_end hname]
        simp [standbyList, standbyName]
      . rw [lex_ident_rparen hname]
        simp [standbyList, standbyName]
    | cons next names =>
      have hcons : (",".intercalate (name :: next :: names)).toList
          = name.toList ++ ',' :: (",".intercalate (next :: names)).toList := by
        simp [String.intercalate_cons_cons]
      rw [hcons, List.append_assoc, lex_identifier hname, List.cons_append, lex_ident_comma hname,
        standbyList, ih (by simp) fun name hname => hnames name (List.mem_cons_of_mem _ hname)]
      simp [standbyName]

theorem lex_toDigits (n : Nat) (rest : List Char)
    : lex .start (Nat.toDigits 10 n ++ rest) = lex (.num (Nat.toDigits 10 n)) rest := by
  have hdigits : ∀ c ∈ Nat.toDigits 10 n, c.isDigit = true := fun c hc =>
    Nat.isDigit_of_mem_toDigits (by decide) (by decide) hc
  generalize hchars : Nat.toDigits 10 n = chars at hdigits
  cases chars with
  | nil => exact absurd hchars (Nat.toDigits_ne_nil)
  | cons c cs =>
    rw [List.cons_append, lex, State.step, begin_digit (hdigits c List.mem_cons_self), List.nil_append,
      lex_num _ _ _ fun c' hc' => hdigits c' (List.mem_cons_of_mem c hc')]
    rfl

theorem read_numbered {names : List String} (hne : names ≠ [])
    (hnames : ∀ name ∈ names, IsIdentifier name) {n : Nat} (hn : 0 < n)
    : read (toString n ++ " (" ++ ",".intercalate names ++ ")") = some { count := n, names } := by
  have hchars : (toString n ++ " (" ++ ",".intercalate names ++ ")").toList
      = Nat.toDigits 10 n ++ ' ' :: '(' :: ((",".intercalate names).toList ++ [')']) := by
    simp
  have hvalue : toString n ++ " (" ++ ",".intercalate names ++ ")" ≠ "" := by
    intro h
    rw [h] at hchars
    simp at hchars
  have hlex (rest : List Char) : lex (.num (Nat.toDigits 10 n)) (' ' :: '(' :: rest)
      = .num (Nat.toDigits 10 n) :: .lparen :: lex .start rest := rfl
  rw [read, if_neg hvalue, hchars, lex_toDigits, hlex, standbyConfig, numbered,
    standbyList_lex hne hnames (.inr ⟨rfl, rfl⟩)]
  simp [Nat.ofDigitChars_ten_toDigits, hn]

theorem read_single {name : String} (hname : IsIdentifier name)
    : read name = some { count := 1, names := [name] } := by
  have hvalue : name ≠ "" := by
    rintro rfl
    obtain ⟨c, cs, hchars, -⟩ := hname.chars
    cases hchars
  have hlex := lex_identifier hname []
  rw [List.append_nil, lex_ident_end hname] at hlex
  rw [read, if_neg hvalue, hlex]
  simp [standbyConfig, standbyList, standbyName]

end SyncStandbyNames
end Hysteron
