import Hysteron.Util.Except

/-!
PostgreSQL's reading of a configuration file, after its scanner `guc-file.l`.

A line is empty or sets a parameter: a name, an optional equals sign and a value, which is a string
in quotes, a number or a word. A comment ends with its line. In a string a doubled quote is a quote,
and a backslash escapes. No token goes beyond the end of its line, and one line that is none of
these makes the whole file invalid.
-/

namespace Hysteron
namespace ConfFile

def isLetter (c : Char) : Bool := c.isAlpha || c == '_' || 128 ≤ c.toNat

def isLetterOrDigit (c : Char) : Bool := isLetter c || c.isDigit

def isWordChar (c : Char) : Bool := isLetterOrDigit c || ['-', '.', '_', ':', '/'].contains c

def isBlank (c : Char) : Bool := c == ' ' || c == '\t' || c == '\r'

def isHexDigit (c : Char) : Bool := c.isDigit || "abcdefABCDEF".toList.contains c

def isOctalDigit (c : Char) : Bool := '0' ≤ c && c ≤ '7'

def isID : List Char → Bool
  | [] => false
  | c :: cs => isLetter c && cs.all isLetterOrDigit

def isName (cs : List Char) : Bool :=
  isID cs || (isID (cs.takeWhile (· ≠ '.')) && isID ((cs.dropWhile (· ≠ '.')).drop 1))

def signLength : List Char → Nat
  | '-' :: _ | '+' :: _ => 1
  | _ => 0

def digitsLength (cs : List Char) : Nat := (cs.takeWhile Char.isDigit).length

def hexLength : List Char → Nat
  | '0' :: 'x' :: rest =>
    let n := (rest.takeWhile isHexDigit).length
    if n = 0 then 0 else n + 2
  | _ => 0

def lengthWithUnit (cs : List Char) (n : Nat) : Nat :=
  let sign := signLength cs
  if n = 0 then 0 else sign + n + ((cs.drop (sign + n)).takeWhile Char.isAlpha).length

def integerLength (cs : List Char) : Nat :=
  let digits := cs.drop (signLength cs)
  max (lengthWithUnit cs (digitsLength digits)) (lengthWithUnit cs (hexLength digits))

def exponentLength : List Char → Nat
  | e :: cs =>
    let sign := signLength cs
    let n := digitsLength (cs.drop sign)
    if (e == 'e' || e == 'E') && 0 < n then 1 + sign + n else 0
  | [] => 0

def realLength (cs : List Char) : Nat :=
  let sign := signLength cs
  let whole := digitsLength (cs.drop sign)
  match cs.drop (sign + whole) with
  | '.' :: rest =>
    let fraction := digitsLength rest
    sign + whole + 1 + fraction + exponentLength (rest.drop fraction)
  | _ => 0

def numberLength (cs : List Char) : Nat := max (integerLength cs) (realLength cs)

def octalValue (digits : List Char) : Nat :=
  digits.foldl (fun n c => 8 * n + (c.toNat - '0'.toNat)) 0

def escape : List Char → Option (Char × Nat)
  | [] => none
  | 'b' :: _ => some ('\x08', 1)
  | 'f' :: _ => some ('\x0c', 1)
  | 'n' :: _ => some ('\n', 1)
  | 'r' :: _ => some ('\r', 1)
  | 't' :: _ => some ('\t', 1)
  | c :: cs =>
    if isOctalDigit c then
      let digits := c :: (cs.take 2).takeWhile isOctalDigit
      some (Char.ofNat (octalValue digits % 256), digits.length)
    else
      some (c, 1)

def prepend (c : Char) (scanned : Option (List Char × List Char))
    : Option (List Char × List Char) :=
  scanned.map (fun (value, rest) => (c :: value, rest))

/--
Read a string behind its first quote, up to the quote that ends it. The first `skip` characters
belong to an escape that has been read. A string without an end is invalid: if the scanner takes a
shorter one, up to the first of two quotes, another string follows it.
-/
def readString : Nat → List Char → Option (List Char × List Char)
  | _, [] => none
  | skip + 1, _ :: cs => readString skip cs
  | 0, '\\' :: cs => (escape cs).bind (fun (c, n) => prepend c (readString n cs))
  | 0, '\'' :: cs => if cs.head? = some '\'' then prepend '\'' (readString 1 cs) else some ([], cs)
  | 0, c :: cs => prepend c (readString 0 cs)

def cString (value : List Char) : List Char := value.takeWhile (· ≠ '\x00')

inductive Token where
  | name (text : List Char)
  | value (text : List Char)
  | equals

def scan (line : List Char) : Except Unit (Option (Token × List Char)) :=
  match line.dropWhile isBlank with
  | [] => .ok none
  | '#' :: _ => .ok none
  | '=' :: rest => .ok (some (.equals, rest))
  | '\'' :: rest =>
    match readString 0 rest with
    | none => .error ()
    | some (value, rest) => .ok (some (.value (cString value), rest))
  | c :: cs =>
    if isLetter c then
      let word := (c :: cs).takeWhile isWordChar
      let rest := (c :: cs).dropWhile isWordChar
      .ok (some (if isName word then .name word else .value word, rest))
    else
      let n := numberLength (c :: cs)
      if n = 0 then .error () else .ok (some (.value ((c :: cs).take n), (c :: cs).drop n))

/--
The value that a token is. A qualified name can only be the name of a parameter.
-/
def Token.text : Token → Option (List Char)
  | .name text => if isID text then some text else none
  | .value text => some text
  | .equals => none

def readValue (line : List Char) : Except Unit (List Char) := do
  match ← scan line with
  | none => .error ()
  | some (token, rest) =>
    match token.text, ← scan rest with
    | some text, none => .ok text
    | _, _ => .error ()

def readLine (line : List Char) : Except Unit (Option (List Char × List Char)) := do
  match ← scan line with
  | none => return none
  | some (.name name, rest) =>
    match ← scan rest with
    | some (.equals, rest) => return some (name, ← readValue rest)
    | _ => return some (name, ← readValue rest)
  | some _ => .error ()

def read (file : List Char) : Except Unit (List (List Char × List Char)) := do
  return (← (file.splitOn '\n').mapM readLine).filterMap id

def sameName (a b : List Char) : Bool := a.map Char.toLower == b.map Char.toLower

def valueOf (entries : List (List Char × List Char)) (name : List Char) : Option (List Char) :=
  (entries.reverse.find? (fun entry => sameName entry.1 name)).map Prod.snd

def directives : List String := ["include", "include_if_exists", "include_dir"]

def isParameterName (name : List Char) : Bool :=
  isName name && !directives.any (fun directive => sameName directive.toList name)

def doubleQuotes (value : List Char) : List Char :=
  value.flatMap (fun c => if c = '\'' then ['\'', '\''] else [c])

section Strings

variable {value rest cs w : List Char} {n : Nat}

@[simp]
theorem doubleQuotes_nil : doubleQuotes [] = [] := rfl

@[simp]
theorem doubleQuotes_quote : doubleQuotes ('\'' :: cs) = '\'' :: '\'' :: doubleQuotes cs := rfl

theorem doubleQuotes_cons {c : Char} (h : c ≠ '\'')
    : doubleQuotes (c :: cs) = c :: doubleQuotes cs := by
  simp [doubleQuotes, h]

theorem readString_cons {c : Char} (hescape : c ≠ '\\') (hquote : c ≠ '\'')
    : readString 0 (c :: cs) = prepend c (readString 0 cs) := by
  rw [readString]
  . exact hescape
  . exact hquote

theorem prepend_eq_some_iff {c : Char} {scanned : Option (List Char × List Char)}
    : prepend c scanned = some (w, rest)
        ↔
      ∃ (w' : List Char), scanned = some (w', rest) ∧ w = c :: w' := by
  cases scanned with
  | none => simp [prepend]
  | some scanned =>
    obtain ⟨w', rest'⟩ := scanned
    simp only [prepend, Option.map_some, Option.some.injEq, Prod.mk.injEq]
    constructor
    . rintro ⟨rfl, rfl⟩
      exact ⟨w', ⟨rfl, rfl⟩, rfl⟩
    . rintro ⟨_, ⟨rfl, rfl⟩, rfl⟩
      exact ⟨rfl, rfl⟩

theorem readString_doubleQuotes (hvalue : '\\' ∉ value) (hrest : rest.head? ≠ some '\'')
    : readString 0 (doubleQuotes value ++ '\'' :: rest) = some (value, rest) := by
  induction value with
  | nil => simp [readString, hrest]
  | cons c value ih =>
    obtain ⟨hc, htail⟩ := List.ne_and_not_mem_of_not_mem_cons hvalue
    by_cases hquote : c = '\''
    . subst hquote
      simp [readString, ih htail, prepend]
    . rw [doubleQuotes_cons hquote, List.cons_append, readString_cons hc.symm hquote, ih htail]
      rfl

/--
What the characters of a string are worth: a quote is half of one of the characters that the string
denotes.
-/
def weight (cs : List Char) : Nat := (cs.map (fun c => if c = '\'' then 1 else 2)).sum

@[simp]
theorem weight_nil : weight [] = 0 := rfl

@[simp]
theorem weight_quote : weight ('\'' :: cs) = 1 + weight cs := rfl

theorem weight_cons {c : Char} (h : c ≠ '\'') : weight (c :: cs) = 2 + weight cs := by
  simp [weight, h]

theorem weight_pos {c : Char} : 0 < weight (c :: cs) := by
  by_cases h : c = '\''
  . subst h
    rw [weight_quote]
    omega
  . rw [weight_cons h]
    omega

@[simp]
theorem weight_append : weight (cs ++ rest) = weight cs + weight rest := by
  simp [weight]

@[simp]
theorem weight_doubleQuotes : weight (doubleQuotes value) = 2 * value.length := by
  induction value with
  | nil => rfl
  | cons c value ih =>
    by_cases hquote : c = '\''
    . subst hquote
      simp only [doubleQuotes_quote, weight_quote, ih, List.length_cons]
      omega
    . rw [doubleQuotes_cons hquote, weight_cons hquote, ih, List.length_cons]
      omega

theorem weight_take_add_drop (n : Nat) (cs : List Char)
    : weight (cs.take n) + weight (cs.drop n) = weight cs := by
  rw [← weight_append, List.take_append_drop]

theorem escape_length {c : Char} (h : escape cs = some (c, n)) : 0 < weight (cs.take n) := by
  unfold escape at h
  split at h
  . cases h
  . cases h
    exact weight_pos
  . cases h
    exact weight_pos
  . cases h
    exact weight_pos
  . cases h
    exact weight_pos
  . cases h
    exact weight_pos
  . split at h
    . cases h
      exact weight_pos
    . cases h
      exact weight_pos

theorem readString_weight (h : readString n cs = some (w, rest))
    : 2 * w.length + weight rest + 1 ≤ weight (cs.drop n)
        ∧
      (2 * w.length + weight rest + 1 = weight (cs.drop n) →
        ∃ (used : List Char), cs.drop n = used ++ rest ∧ '\\' ∉ used) := by
  induction cs generalizing n w with
  | nil => simp [readString] at h
  | cons c cs ih =>
    match n with
    | n + 1 => exact ih h
    | 0 =>
      simp only [List.drop_zero]
      by_cases hescape : c = '\\'
      . subst hescape
        rw [readString, Option.bind_eq_some_iff] at h
        obtain ⟨⟨c, m⟩, hc, h⟩ := h
        obtain ⟨w', hread, rfl⟩ := prepend_eq_some_iff.mp h
        have hle := (ih hread).1
        have hpos := escape_length hc
        have hsplit := weight_take_add_drop m cs
        rw [weight_cons (by decide), List.length_cons]
        exact ⟨by omega, by omega⟩
      . by_cases hquote : c = '\''
        . subst hquote
          rw [readString] at h
          split at h
          . next hpair =>
            obtain ⟨w', hread, rfl⟩ := prepend_eq_some_iff.mp h
            obtain ⟨hle, heq⟩ := ih hread
            cases cs with
            | nil => cases hpair
            | cons c cs =>
              cases hpair
              simp only [List.drop_succ_cons, List.drop_zero] at hle heq
              simp only [weight_quote, List.length_cons]
              refine ⟨by omega, fun hweight => ?_⟩
              obtain ⟨used, rfl, hused⟩ := heq (by omega)
              exact ⟨'\'' :: '\'' :: used, rfl, by simp [hused]⟩
          . cases h
            simp only [weight_quote, List.length_nil]
            exact ⟨by omega, fun _ => ⟨['\''], rfl, by decide⟩⟩
        . rw [readString_cons hescape hquote] at h
          obtain ⟨w', hread, rfl⟩ := prepend_eq_some_iff.mp h
          obtain ⟨hle, heq⟩ := ih hread
          simp only [List.drop_zero] at hle heq
          rw [weight_cons hquote, List.length_cons]
          refine ⟨by omega, fun hweight => ?_⟩
          obtain ⟨used, rfl, hused⟩ := heq (by omega)
          exact ⟨c :: used, rfl, by simp [hused, Ne.symm hescape]⟩

theorem length_lt_of_readString_unclosed (h : readString 0 (doubleQuotes value) = some (w, rest))
    : w.length < value.length := by
  have hle := (readString_weight h).1
  rw [List.drop_zero, weight_doubleQuotes] at hle
  omega

theorem length_lt_of_readString_escape (hvalue : '\\' ∈ value)
    (h : readString 0 (doubleQuotes value ++ ['\'']) = some (w, rest))
    : w.length < value.length := by
  obtain ⟨hle, heq⟩ := readString_weight h
  simp only [List.drop_zero, weight_append, weight_doubleQuotes, weight_quote, weight_nil]
    at hle heq
  by_contra hlength
  have hrest : weight rest = 0 := by omega
  obtain ⟨used, hused, hescape⟩ := heq (by omega)
  have hnil : rest = [] := by
    cases rest with
    | nil => rfl
    | cons c rest => exact absurd hrest weight_pos.ne'
  rw [hnil, List.append_nil] at hused
  apply hescape
  rw [← hused]
  refine List.mem_append_left _ (List.mem_flatMap.mpr ⟨_, hvalue, ?_⟩)
  simp

theorem quotes_of_readString {e : List Char} (he : e = [] ∨ e = ['\''])
    (h : readString 0 ('\'' :: (doubleQuotes value ++ e)) = some (w, rest))
    : ∀ c ∈ w, c = '\'' := by
  induction value generalizing w with
  | nil =>
    obtain rfl | rfl := he
    . simp only [doubleQuotes_nil, List.append_nil, readString, List.head?_nil] at h
      cases h
      simp
    . simp [readString, prepend] at h
  | cons c value ih =>
    by_cases hquote : c = '\''
    . subst hquote
      simp only [doubleQuotes_quote, List.cons_append] at h
      rw [readString, if_pos (by simp)] at h
      obtain ⟨w', hread, rfl⟩ := prepend_eq_some_iff.mp h
      rw [readString] at hread
      exact List.forall_mem_cons.mpr ⟨rfl, ih hread⟩
    . rw [doubleQuotes_cons hquote, List.cons_append, readString,
        if_neg (by simpa using hquote)] at h
      cases h
      simp

end Strings

def isClean (c : Char) : Bool := c ≠ '\\' && c ≠ '\n' && c ≠ '\x00'

section Tokens

variable {line rest text : List Char} {token : Token} {c : Char}

theorem isClean_of_isWordChar (h : isWordChar c = true) : isClean c = true := by
  by_contra hc
  simp only [isClean, Bool.and_eq_true, decide_eq_true_eq, not_and_or, not_not] at hc
  obtain (rfl | rfl) | rfl := hc <;> revert h <;> decide

def isNumberChar (c : Char) : Bool :=
  c.isAlpha || c.isDigit || c == '.' || c == '-' || c == '+'

theorem isClean_of_isNumberChar (h : isNumberChar c = true) : isClean c = true := by
  by_contra hc
  simp only [isClean, Bool.and_eq_true, decide_eq_true_eq, not_and_or, not_not] at hc
  obtain (rfl | rfl) | rfl := hc <;> revert h <;> decide

theorem take_length_takeWhile (p : Char → Bool) (cs : List Char)
    : cs.take (cs.takeWhile p).length = cs.takeWhile p :=
  (List.prefix_iff_eq_take.mp (List.takeWhile_prefix p)).symm

theorem mem_take_add {cs : List Char} {m n : Nat} (h : c ∈ cs.take (m + n))
    : c ∈ cs.take m ∨ c ∈ (cs.drop m).take n := by
  rw [List.take_add] at h
  exact List.mem_append.mp h

theorem of_mem_take_takeWhile {p : Char → Bool} {cs : List Char}
    (h : c ∈ cs.take (cs.takeWhile p).length) : p c = true := by
  rw [take_length_takeWhile] at h
  exact List.mem_takeWhile_imp h

theorem isNumberChar_of_digit (h : c.isDigit = true) : isNumberChar c = true := by
  simp [isNumberChar, h]

theorem isNumberChar_of_sign {cs : List Char} (h : c ∈ cs.take (signLength cs))
    : isNumberChar c = true := by
  unfold signLength at h
  split at h
  . simp only [List.take_succ_cons, List.take_zero, List.mem_singleton] at h
    subst h
    decide
  . simp only [List.take_succ_cons, List.take_zero, List.mem_singleton] at h
    subst h
    decide
  . simp at h

theorem isNumberChar_of_hexDigit (h : isHexDigit c = true) : isNumberChar c = true := by
  obtain h | h := Bool.or_eq_true_iff.mp h
  . exact isNumberChar_of_digit h
  . have hletters : ("abcdefABCDEF".toList.all isNumberChar) = true := by decide +kernel
    exact List.all_eq_true.mp hletters c (by simpa using h)

theorem isNumberChar_of_digits {cs : List Char} (h : c ∈ cs.take (digitsLength cs))
    : isNumberChar c = true :=
  isNumberChar_of_digit (of_mem_take_takeWhile h)

theorem isNumberChar_of_hex {cs : List Char} (h : c ∈ cs.take (hexLength cs))
    : isNumberChar c = true := by
  unfold hexLength at h
  dsimp only at h
  split at h
  . split at h
    . simp at h
    . simp only [List.take_succ_cons, List.mem_cons] at h
      obtain rfl | rfl | h := h
      . decide
      . decide
      . exact isNumberChar_of_hexDigit (of_mem_take_takeWhile h)
  . simp at h

theorem isNumberChar_of_unit {cs : List Char} {n : Nat}
    (hdigits : ∀ c ∈ (cs.drop (signLength cs)).take n, isNumberChar c = true)
    (h : c ∈ cs.take (lengthWithUnit cs n)) : isNumberChar c = true := by
  unfold lengthWithUnit at h
  dsimp only at h
  split at h
  . simp at h
  . obtain h | h := mem_take_add h
    . obtain h | h := mem_take_add h
      . exact isNumberChar_of_sign h
      . exact hdigits c h
    . simp [isNumberChar, of_mem_take_takeWhile h]

theorem isNumberChar_of_integer {cs : List Char} (h : c ∈ cs.take (integerLength cs))
    : isNumberChar c = true := by
  unfold integerLength at h
  dsimp only at h
  obtain hmax | hmax := max_choice
    (lengthWithUnit cs (digitsLength (cs.drop (signLength cs))))
    (lengthWithUnit cs (hexLength (cs.drop (signLength cs))))
  . exact isNumberChar_of_unit (fun _ => isNumberChar_of_digits) (hmax ▸ h)
  . exact isNumberChar_of_unit (fun _ => isNumberChar_of_hex) (hmax ▸ h)

theorem isNumberChar_of_exponent {cs : List Char} (h : c ∈ cs.take (exponentLength cs))
    : isNumberChar c = true := by
  cases cs with
  | nil => simp at h
  | cons e cs =>
    unfold exponentLength at h
    dsimp only at h
    split at h
    . next hexponent =>
      rw [Nat.add_assoc, Nat.add_comm 1, List.take_succ_cons, List.mem_cons] at h
      obtain rfl | h := h
      . simp only [Bool.and_eq_true, Bool.or_eq_true, beq_iff_eq] at hexponent
        obtain ⟨rfl | rfl, -⟩ := hexponent <;> decide
      . obtain h | h := mem_take_add h
        . exact isNumberChar_of_sign h
        . exact isNumberChar_of_digits h
    . simp at h

theorem isNumberChar_of_real {cs : List Char} (h : c ∈ cs.take (realLength cs))
    : isNumberChar c = true := by
  unfold realLength at h
  dsimp only at h
  split at h
  . next rest hrest =>
    rw [Nat.add_assoc, Nat.add_assoc] at h
    obtain h | h := mem_take_add h
    . obtain h | h := mem_take_add h
      . exact isNumberChar_of_sign h
      . exact isNumberChar_of_digits h
    . rw [hrest, Nat.add_comm 1, List.take_succ_cons, List.mem_cons] at h
      obtain rfl | h := h
      . decide
      . obtain h | h := mem_take_add h
        . exact isNumberChar_of_digits h
        . exact isNumberChar_of_exponent h
  . simp at h

theorem isNumberChar_of_number {cs : List Char} (h : c ∈ cs.take (numberLength cs))
    : isNumberChar c = true := by
  unfold numberLength at h
  obtain hmax | hmax := max_choice (integerLength cs) (realLength cs)
  . exact isNumberChar_of_integer (hmax ▸ h)
  . exact isNumberChar_of_real (hmax ▸ h)

end Tokens

section Lines

variable {line rest text name value w : List Char} {token : Token} {c : Char}

def Doubled (line : List Char) : Prop :=
  ∃ (value e : List Char), line = doubleQuotes value ++ e ∧ (e = [] ∨ e = ['\''])

theorem Doubled.tail (h : Doubled (c :: rest)) (hc : c ≠ '\'') : Doubled rest := by
  obtain ⟨value, e, heq, he⟩ := h
  cases value with
  | nil =>
    obtain rfl | rfl := he
    . cases heq
    . cases heq
      exact absurd rfl hc
  | cons d value =>
    by_cases hquote : d = '\''
    . subst hquote
      cases heq
      exact absurd rfl hc
    . rw [doubleQuotes_cons hquote, List.cons_append] at heq
      cases heq
      exact ⟨value, e, rfl, he⟩

theorem Doubled.dropWhile {p : Char → Bool} (hp : p '\'' = false) (h : Doubled line)
    : Doubled (line.dropWhile p) := by
  induction line with
  | nil => exact h
  | cons c line ih =>
    rw [List.dropWhile_cons]
    split
    . next hc => exact ih (h.tail fun heq => by simp [heq, hp] at hc)
    . exact h

theorem isClean_of_doubled_string (h : Doubled ('\'' :: line))
    (hread : readString 0 line = some (w, rest)) : ∀ c ∈ cString w, isClean c = true := by
  obtain ⟨value, e, heq, he⟩ := h
  have hquotes : ∀ c ∈ w, c = '\'' := by
    cases value with
    | nil =>
      obtain rfl | rfl := he
      . cases heq
      . cases heq
        simp [readString] at hread
    | cons d value =>
      by_cases hquote : d = '\''
      . subst hquote
        cases heq
        exact quotes_of_readString he hread
      . rw [doubleQuotes_cons hquote, List.cons_append] at heq
        cases heq
        exact absurd rfl hquote
  intro c hc
  rw [hquotes c (List.takeWhile_subset _ hc)]
  decide

theorem scan_doubled (hline : Doubled line) (h : scan line = .ok (some (token, rest)))
    : (∀ text ∈ token.text, ∀ c ∈ text, isClean c = true)
        ∧
      ((token = .equals ∨ ∃ (name : List Char), token = .name name) → Doubled rest) := by
  have hdrop : Doubled (line.dropWhile isBlank) := hline.dropWhile (by decide)
  unfold scan at h
  split at h
  . cases h
  . cases h
  . next rest hrest =>
    cases h
    rw [hrest] at hdrop
    exact ⟨by simp [Token.text], fun _ => hdrop.tail (by decide)⟩
  . next rest hrest =>
    rw [hrest] at hdrop
    split at h
    . cases h
    . next w rest hread =>
      cases h
      refine ⟨?_, by simp⟩
      rintro text ⟨⟩
      exact isClean_of_doubled_string hdrop hread
  . next c cs _ _ _ hrest =>
    rw [hrest] at hdrop
    dsimp only at h
    split at h
    . cases h
      constructor
      . intro text htext c' hc
        have htext : text = (c :: cs).takeWhile isWordChar := by
          split at htext
          . rw [Token.text] at htext
            split at htext
            . exact (Option.some.inj htext).symm
            . cases htext
          . exact (Option.some.inj htext).symm
        rw [htext] at hc
        exact isClean_of_isWordChar (List.mem_takeWhile_imp hc)
      . intro _
        exact hdrop.dropWhile (by decide)
    . split at h
      . cases h
      . cases h
        refine ⟨?_, by simp⟩
        rintro text ⟨⟩ c hc
        exact isClean_of_isNumberChar (isNumberChar_of_number hc)

theorem readValue_doubled (hline : Doubled line) (h : readValue line = .ok text)
    : ∀ c ∈ text, isClean c = true := by
  unfold readValue at h
  obtain ⟨scanned, hscan, h⟩ := Except.bind_eq_ok_iff.mp h
  split at h
  . cases h
  . next token rest =>
    obtain ⟨last, -, h⟩ := Except.bind_eq_ok_iff.mp h
    split at h
    . next htext =>
      cases h
      exact (scan_doubled hline hscan).1 _ htext
    . cases h

theorem readLine_doubled (hline : Doubled line) (h : readLine line = .ok (some (name, value)))
    : ∀ c ∈ value, isClean c = true := by
  unfold readLine at h
  obtain ⟨scanned, hscan, h⟩ := Except.bind_eq_ok_iff.mp h
  split at h
  . cases h
  . next name' rest =>
    have hrest : Doubled rest := (scan_doubled hline hscan).2 (.inr ⟨name', rfl⟩)
    obtain ⟨second, hsecond, h⟩ := Except.bind_eq_ok_iff.mp h
    split at h
    . next rest' =>
      obtain ⟨value', hvalue, h⟩ := Except.bind_eq_ok_iff.mp h
      cases h
      exact readValue_doubled ((scan_doubled hrest hsecond).2 (.inl rfl)) hvalue
    . obtain ⟨value', hvalue, h⟩ := Except.bind_eq_ok_iff.mp h
      cases h
      exact readValue_doubled hrest hvalue
  . cases h

theorem isWordChar_of_isLetter (h : isLetter c = true) : isWordChar c = true := by
  simp [isWordChar, isLetterOrDigit, h]

theorem isID_cons {cs : List Char} (h : isID cs = true)
    : ∃ (c : Char) (rest : List Char), cs = c :: rest ∧ isLetter c = true := by
  cases cs with
  | nil => cases h
  | cons c rest => exact ⟨c, rest, rfl, (Bool.and_eq_true_iff.mp h).1⟩

theorem isWordChar_of_isID {cs : List Char} (h : isID cs = true) (hc : c ∈ cs)
    : isWordChar c = true := by
  cases cs with
  | nil => cases h
  | cons d cs =>
    obtain ⟨hd, hcs⟩ := Bool.and_eq_true_iff.mp h
    obtain rfl | hc := List.mem_cons.mp hc
    . exact isWordChar_of_isLetter hd
    . simp [isWordChar, List.all_eq_true.mp hcs c hc]

theorem isName_cons (h : isName name = true)
    : ∃ (c : Char) (rest : List Char), name = c :: rest ∧ isLetter c = true := by
  obtain h | h := Bool.or_eq_true_iff.mp h
  . exact isID_cons h
  . obtain ⟨c, rest, hcons, hc⟩ := isID_cons (Bool.and_eq_true_iff.mp h).1
    cases name with
    | nil => cases hcons
    | cons d name =>
      rw [List.takeWhile_cons] at hcons
      split at hcons
      . cases hcons
        exact ⟨c, name, rfl, hc⟩
      . cases hcons

theorem isWordChar_of_isName (h : isName name = true) (hc : c ∈ name) : isWordChar c = true := by
  obtain h | h := Bool.or_eq_true_iff.mp h
  . exact isWordChar_of_isID h hc
  . obtain ⟨hfirst, hsecond⟩ := Bool.and_eq_true_iff.mp h
    rw [← List.takeWhile_append_dropWhile (p := (· ≠ '.')) (l := name), List.mem_append] at hc
    obtain hc | hc := hc
    . exact isWordChar_of_isID hfirst hc
    . cases hdrop : name.dropWhile (· ≠ '.') with
      | nil => rw [hdrop] at hc; cases hc
      | cons d rest =>
        rw [hdrop] at hc hsecond
        obtain rfl | hc := List.mem_cons.mp hc
        . have hdot := List.head?_dropWhile_not (fun c => decide (c ≠ '.')) name
          rw [hdrop] at hdot
          have hd : c = '.' := by simpa using hdot
          rw [hd]
          decide
        . exact isWordChar_of_isID hsecond hc

theorem scan_name (h : isName name = true) (hrest : ∀ c ∈ rest.head?, isWordChar c = false)
    : scan (name ++ rest) = .ok (some (.name name, rest)) := by
  obtain ⟨c, cs, rfl, hc⟩ := isName_cons h
  have hword : ∀ d ∈ c :: cs, isWordChar d = true := fun d hd => isWordChar_of_isName h hd
  have htake : (c :: cs ++ rest).takeWhile isWordChar = c :: cs := by
    rw [List.takeWhile_append_of_pos hword]
    cases rest with
    | nil => simp
    | cons d rest => simp [hrest d rfl]
  have hdrop : (c :: cs ++ rest).dropWhile isWordChar = rest := by
    rw [List.dropWhile_append_of_pos hword]
    cases rest with
    | nil => rfl
    | cons d rest => simp [hrest d rfl]
  have hne : c ≠ ' ' ∧ c ≠ '\t' ∧ c ≠ '\r' ∧ c ≠ '#' ∧ c ≠ '=' ∧ c ≠ '\'' := by
    refine ⟨?_, ?_, ?_, ?_, ?_, ?_⟩ <;> rintro rfl <;> revert hc <;> decide
  obtain ⟨h₁, h₂, h₃, h₄, h₅, h₆⟩ := hne
  have hblank : (c :: cs ++ rest).dropWhile isBlank = c :: (cs ++ rest) := by
    simp [isBlank, h₁, h₂, h₃]
  unfold scan
  rw [hblank]
  split
  . next heq => cases heq
  . next heq => cases heq; exact absurd rfl h₄
  . next heq => cases heq; exact absurd rfl h₅
  . next heq => cases heq; exact absurd rfl h₆
  . next heq =>
    cases heq
    rw [if_pos hc]
    dsimp only
    rw [← List.cons_append, htake, hdrop, if_pos h]

def assignment (name : List Char) : List Char := name ++ [' ', '=', ' ', '\'']

theorem readLine_assignment (h : isName name = true)
    : readLine (assignment name ++ text)
        =
      match readString 0 text with
      | none => .error ()
      | some (value, rest) =>
        match scan rest with
        | .ok none => .ok (some (name, cString value))
        | _ => .error () := by
  have hname : scan (name ++ ([' ', '=', ' ', '\''] ++ text))
      = .ok (some (.name name, [' ', '=', ' ', '\''] ++ text)) :=
    scan_name h (by simp; decide)
  have hequals : scan ([' ', '=', ' ', '\''] ++ text)
      = .ok (some (.equals, [' ', '\''] ++ text)) := rfl
  have hvalue : scan ([' ', '\''] ++ text)
      = match readString 0 text with
        | none => .error ()
        | some (value, rest) => .ok (some (.value (cString value), rest)) := rfl
  unfold readLine assignment
  rw [List.append_assoc, hname]
  simp only [Except.bind_ok, hequals, readValue, hvalue]
  cases readString 0 text with
  | none => rfl
  | some scanned =>
    obtain ⟨value, rest⟩ := scanned
    simp only [Except.bind_ok, Token.text]
    cases hscan : scan rest with
    | error e => rfl
    | ok last => cases last <;> rfl

theorem readLine_assignment_eq_ok (h : isName name = true) {entry : Option (List Char × List Char)}
    (hread : readLine (assignment name ++ text) = .ok entry)
    : ∃ (value rest : List Char),
        readString 0 text = some (value, rest) ∧ entry = some (name, cString value) := by
  rw [readLine_assignment h] at hread
  split at hread
  . cases hread
  . next value rest hstring =>
    split at hread
    . cases hread
      exact ⟨value, rest, hstring, rfl⟩
    . cases hread

end Lines

def setting (name text : List Char) : List Char := assignment name ++ text ++ ['\'']

section Files

variable {line rest file name value text w n : List Char} {entries : List (List Char × List Char)}

theorem mapM_eq_ok_mem {f : α → Except ε β} {l : List α} {l' : List β} (h : l.mapM f = .ok l')
    {b : β} : b ∈ l' ↔ ∃ a ∈ l, f a = .ok b := by
  induction l generalizing l' with
  | nil =>
    cases h
    simp
  | cons a l ih =>
    rw [List.mapM_cons] at h
    obtain ⟨b', hb', h⟩ := Except.bind_eq_ok_iff.mp h
    obtain ⟨l'', hl'', h⟩ := Except.bind_eq_ok_iff.mp h
    cases h
    rw [List.mem_cons, ih hl'', List.exists_mem_cons_iff, hb']
    simp only [Except.ok.injEq, eq_comm]

theorem mem_read (h : read file = .ok entries) {entry : List Char × List Char}
    : entry ∈ entries ↔ ∃ line ∈ file.splitOn '\n', readLine line = .ok (some entry) := by
  unfold read at h
  obtain ⟨lines, hlines, h⟩ := Except.bind_eq_ok_iff.mp h
  cases h
  simp only [List.mem_filterMap, id_eq, exists_eq_right, mapM_eq_ok_mem hlines]

theorem read_nil : read [] = .ok [] := rfl

theorem read_line (hline : '\n' ∉ line) {entry : List Char × List Char}
    (hread : readLine line = .ok (some entry))
    : read (line ++ '\n' :: rest) = (read rest).map (entry :: ·) := by
  unfold read
  rw [List.splitOn_append_cons_self_of_not_mem hline, List.mapM_cons, hread]
  simp only [Except.bind_ok, bind_assoc]
  cases (rest.splitOn '\n').mapM readLine <;> rfl

theorem read_flatMap {l : List α} {lineOf : α → List Char} (entryOf : α → List Char × List Char)
    (hline : ∀ a ∈ l, '\n' ∉ lineOf a)
    (hread : ∀ a ∈ l, readLine (lineOf a) = .ok (some (entryOf a)))
    : read (l.flatMap (fun a => lineOf a ++ ['\n']) ++ rest)
        =
      (read rest).map (l.map entryOf ++ ·) := by
  induction l with
  | nil => cases hrest : read rest <;> simp [hrest, Except.map]
  | cons a l ih =>
    obtain ⟨hfirst, hline⟩ := List.forall_mem_cons.mp hline
    obtain ⟨hentry, hread⟩ := List.forall_mem_cons.mp hread
    rw [List.flatMap_cons, List.append_assoc, List.append_assoc, List.singleton_append,
      read_line hfirst hentry, ih hline hread]
    cases read rest <;> rfl

theorem splitOn_flatMap {l : List α} {lineOf : α → List Char}
    : (l.flatMap (fun a => lineOf a ++ ['\n']) ++ rest).splitOn '\n'
        =
      l.flatMap (fun a => (lineOf a).splitOn '\n') ++ rest.splitOn '\n' := by
  induction l with
  | nil => rfl
  | cons a l ih =>
    rw [List.flatMap_cons, List.append_assoc, List.append_assoc, List.singleton_append,
      List.splitOn_append_cons_self, ih, List.flatMap_cons, List.append_assoc]

theorem mapM_eq_ok_of_mem {f : α → Except ε β} {l : List α} {l' : List β} (h : l.mapM f = .ok l')
    {a : α} (ha : a ∈ l) : ∃ (b : β), f a = .ok b := by
  induction l generalizing l' with
  | nil => cases ha
  | cons first l ih =>
    rw [List.mapM_cons] at h
    obtain ⟨b, hb, h⟩ := Except.bind_eq_ok_iff.mp h
    obtain ⟨l'', hl'', -⟩ := Except.bind_eq_ok_iff.mp h
    obtain rfl | ha := List.mem_cons.mp ha
    . exact ⟨b, hb⟩
    . exact ih hl'' ha

theorem readLine_of_read (h : read file = .ok entries) (hline : line ∈ file.splitOn '\n')
    : ∃ (entry : Option (List Char × List Char)), readLine line = .ok entry := by
  unfold read at h
  obtain ⟨lines, hlines, -⟩ := Except.bind_eq_ok_iff.mp h
  exact mapM_eq_ok_of_mem hlines hline

theorem sameName_congr {a b c : List Char} (h : sameName a b = true)
    : sameName c a = sameName c b := by
  simp only [sameName, beq_iff_eq] at h ⊢
  rw [h]

theorem valueOf_congr {a b : List Char} (h : sameName a b = true)
    : valueOf entries a = valueOf entries b := by
  simp only [valueOf, sameName_congr h]

theorem sameName_refl (name : List Char) : sameName name name = true := by
  simp [sameName]

theorem exists_of_valueOf_eq_some (h : valueOf entries name = some value)
    : ∃ (n : List Char), (n, value) ∈ entries ∧ sameName n name = true := by
  obtain ⟨entry, hfind, rfl⟩ := Option.map_eq_some_iff.mp h
  have hmem := List.mem_of_find?_eq_some hfind
  have hsame := List.find?_some hfind
  exact ⟨entry.1, by simpa using hmem, hsame⟩

theorem valueOf_eq_some (hmem : (name, value) ∈ entries)
    (h : ∀ (n v : List Char), (n, v) ∈ entries → sameName n name = true → v = value)
    : valueOf entries name = some value := by
  have hsome : (entries.reverse.find? (fun entry => sameName entry.1 name)).isSome = true := by
    rw [List.find?_isSome]
    exact ⟨(name, value), by simpa using hmem, sameName_refl name⟩
  obtain ⟨entry, hfind⟩ := Option.isSome_iff_exists.mp hsome
  have hentry := List.mem_of_find?_eq_some hfind
  have hsame := List.find?_some hfind
  rw [valueOf, hfind, Option.map_some, h entry.1 entry.2 (by simpa using hentry) hsame]

theorem doubleQuotes_eq_self (h : '\'' ∉ value) : doubleQuotes value = value := by
  induction value with
  | nil => rfl
  | cons c value ih =>
    obtain ⟨hc, hvalue⟩ := List.ne_and_not_mem_of_not_mem_cons h
    rw [doubleQuotes, List.flatMap_cons, if_neg hc.symm, ← doubleQuotes, ih hvalue,
      List.singleton_append]

theorem newline_mem_doubleQuotes : '\n' ∈ doubleQuotes value ↔ '\n' ∈ value := by
  simp only [doubleQuotes, List.mem_flatMap]
  constructor
  . rintro ⟨c, hc, hmem⟩
    split at hmem
    . simp at hmem
    . rwa [List.mem_singleton.mp hmem]
  . intro h
    exact ⟨_, h, by simp⟩

theorem doubleQuotes_append
    : doubleQuotes (value ++ rest) = doubleQuotes value ++ doubleQuotes rest :=
  List.flatMap_append

theorem doubled_of_mem_splitOn (h : Doubled text) (hline : line ∈ text.splitOn '\n')
    : Doubled line := by
  obtain ⟨value, e, rfl, he⟩ := h
  have hend : '\n' ∉ e := by obtain rfl | rfl := he <;> decide
  -- On the number of characters, since what stands behind the first newline is shorter.
  induction hn : value.length using Nat.strong_induction_on generalizing value with
  | _ n ih =>
    by_cases hnewline : '\n' ∈ value
    . obtain ⟨first, later, rfl, hfirst⟩ := List.eq_append_cons_of_mem hnewline
      rw [doubleQuotes_append, doubleQuotes_cons (by decide), List.append_assoc, List.cons_append,
        List.splitOn_append_cons_self_of_not_mem (mt newline_mem_doubleQuotes.mp hfirst)] at hline
      obtain rfl | hline := List.mem_cons.mp hline
      . exact ⟨first, [], by simp, .inl rfl⟩
      . exact ih later.length (by simp [← hn]; omega) later hline rfl
    . rw [List.splitOn_eq_singleton (by simp [newline_mem_doubleQuotes, hnewline, hend])] at hline
      obtain rfl := List.mem_singleton.mp hline
      exact ⟨value, e, rfl, he⟩

theorem newline_not_mem_assignment (h : isName name = true) : '\n' ∉ assignment name := by
  intro hmem
  obtain hmem | hmem := List.mem_append.mp hmem
  . exact absurd (isWordChar_of_isName h hmem) (by decide)
  . revert hmem
    decide

theorem newline_not_mem_setting (hname : isName name = true) {text : List Char} (h : '\n' ∉ text)
    : '\n' ∉ setting name text := by
  simp [setting, newline_not_mem_assignment hname, h]

/--
The lines that a value with its quotes doubled takes: the whole setting if it has no newline, and
otherwise a first one, which lacks the end of the value, and lines of the value itself.
-/
theorem mem_lines_setting (h : isName name = true)
    (hline : line ∈ (setting name (doubleQuotes value)).splitOn '\n')
    : (line = setting name (doubleQuotes value) ∧ '\n' ∉ value)
        ∨
      (∃ (first : List Char),
        line = assignment name ++ doubleQuotes first ∧ first.length < value.length)
        ∨
      Doubled line := by
  by_cases hnewline : '\n' ∈ value
  . obtain ⟨first, later, rfl, hfirst⟩ := List.eq_append_cons_of_mem hnewline
    have hsplit : setting name (doubleQuotes (first ++ '\n' :: later))
        = (assignment name ++ doubleQuotes first) ++ '\n' :: (doubleQuotes later ++ ['\'']) := by
      simp [setting, doubleQuotes_append, doubleQuotes_cons]
    have hbefore : '\n' ∉ assignment name ++ doubleQuotes first := by
      simp [newline_not_mem_assignment h, newline_mem_doubleQuotes, hfirst]
    rw [hsplit, List.splitOn_append_cons_self_of_not_mem hbefore] at hline
    obtain rfl | hline := List.mem_cons.mp hline
    . exact .inr (.inl ⟨first, rfl, by simp⟩)
    . exact .inr (.inr (doubled_of_mem_splitOn ⟨later, _, rfl, .inr rfl⟩ hline))
  . have hsingle : '\n' ∉ setting name (doubleQuotes value) := by
      simp [setting, newline_not_mem_assignment h, newline_mem_doubleQuotes, hnewline]
    rw [List.splitOn_eq_singleton hsingle] at hline
    exact .inl ⟨List.mem_singleton.mp hline, hnewline⟩

theorem cString_eq_self (h : '\x00' ∉ value) : cString value = value := by
  rw [cString, List.takeWhile_eq_self_iff]
  intro c hc
  simpa using ne_of_mem_of_not_mem hc h

theorem backslash_not_mem (h : ∀ c ∈ value, isClean c = true) : '\\' ∉ value :=
  fun hmem => absurd (h _ hmem) (by decide)

theorem nul_not_mem (h : ∀ c ∈ value, isClean c = true) : '\x00' ∉ value :=
  fun hmem => absurd (h _ hmem) (by decide)

theorem newline_not_mem (h : ∀ c ∈ value, isClean c = true) : '\n' ∉ value :=
  fun hmem => absurd (h _ hmem) (by decide)

theorem readLine_setting (hname : isName name = true) (h : ∀ c ∈ value, isClean c = true)
    : readLine (setting name (doubleQuotes value)) = .ok (some (name, value)) := by
  have hstring : readString 0 (doubleQuotes value ++ ['\'']) = some (value, []) :=
    readString_doubleQuotes (backslash_not_mem h) (by simp)
  rw [setting, List.append_assoc, readLine_assignment hname, hstring]
  dsimp only
  rw [cString_eq_self (nul_not_mem h)]
  rfl

theorem isClean_or_ne_of_readLine (hname : isName name = true)
    (hline : line ∈ (setting name (doubleQuotes value)).splitOn '\n')
    (hread : readLine line = .ok (some (n, w)))
    : (∀ c ∈ w, isClean c = true) ∨ (n = name ∧ w ≠ value) := by
  obtain ⟨rfl, hnewline⟩ | ⟨first, rfl, hlength⟩ | hdoubled := mem_lines_setting hname hline
  . by_cases hclean : ∀ c ∈ value, isClean c = true
    . rw [readLine_setting hname hclean] at hread
      cases hread
      exact .inl hclean
    . rw [setting, List.append_assoc] at hread
      obtain ⟨v, rest, hstring, heq⟩ := readLine_assignment_eq_ok hname hread
      cases heq
      refine .inr ⟨rfl, fun heq => hclean fun c hc => ?_⟩
      have hbackslash : '\\' ∉ value := by
        intro hmem
        have hlt := length_lt_of_readString_escape hmem hstring
        have hle := (List.takeWhile_sublist (l := v) (· ≠ '\x00')).length_le
        rw [← heq, cString] at hlt
        omega
      have hnul : '\x00' ∉ value := by
        rw [← heq]
        intro hmem
        simpa using List.mem_takeWhile_imp hmem
      simp only [isClean, Bool.and_eq_true, decide_eq_true_eq]
      exact ⟨⟨fun h => hbackslash (h ▸ hc), fun h => hnewline (h ▸ hc)⟩, fun h => hnul (h ▸ hc)⟩
  . obtain ⟨v, rest, hstring, heq⟩ := readLine_assignment_eq_ok hname hread
    cases heq
    refine .inr ⟨rfl, fun heq => ?_⟩
    have hlt := length_lt_of_readString_unclosed hstring
    have hle := (List.takeWhile_sublist (l := v) (· ≠ '\x00')).length_le
    rw [← heq, cString] at hlength
    omega
  . exact .inl (readLine_doubled hdoubled hread)

end Files

section Escaped

variable {name rest : List Char} {chunks : List (Bool × Char)}

def escapedText (chunks : List (Bool × Char)) : List Char :=
  chunks.flatMap (fun chunk => if chunk.1 then ['\\', chunk.2] else [chunk.2])

def isSelfEscape (c : Char) : Bool := c == ' ' || c == '\'' || c == '\\'

def WellEscaped (chunks : List (Bool × Char)) : Prop :=
  ∀ chunk ∈ chunks,
    if chunk.1 then isSelfEscape chunk.2 = true else chunk.2 ≠ '\\' ∧ chunk.2 ≠ '\''

theorem escape_self {c : Char} (h : isSelfEscape c = true) : escape (c :: rest) = some (c, 1) := by
  simp only [isSelfEscape, Bool.or_eq_true, beq_iff_eq] at h
  obtain (rfl | rfl) | rfl := h <;> rfl

theorem readString_escapedText (h : WellEscaped chunks)
    : readString 0 (escapedText chunks ++ rest)
        =
      (readString 0 rest).map (fun scanned => (chunks.map Prod.snd ++ scanned.1, scanned.2)) := by
  induction chunks with
  | nil => simp [escapedText]
  | cons chunk chunks ih =>
    obtain ⟨escaped, c⟩ := chunk
    obtain ⟨hc, htail⟩ := List.forall_mem_cons.mp h
    have ih := ih htail
    cases escaped with
    | true =>
      have htext : escapedText ((true, c) :: chunks) ++ rest
          = '\\' :: c :: (escapedText chunks ++ rest) := rfl
      have hskip : readString 1 (c :: (escapedText chunks ++ rest))
          = readString 0 (escapedText chunks ++ rest) := rfl
      rw [htext, readString, escape_self (by simpa using hc), Option.bind_some]
      dsimp only
      rw [hskip, ih]
      cases readString 0 rest <;> rfl
    | false =>
      have htext : escapedText ((false, c) :: chunks) ++ rest
          = c :: (escapedText chunks ++ rest) := rfl
      obtain ⟨hescape, hquote⟩ : c ≠ '\\' ∧ c ≠ '\'' := by simpa using hc
      rw [htext, readString_cons hescape hquote, ih]
      cases readString 0 rest <;> rfl

theorem newline_mem_escapedText : '\n' ∈ escapedText chunks ↔ '\n' ∈ chunks.map Prod.snd := by
  simp only [escapedText, List.mem_flatMap, List.mem_map]
  refine exists_congr fun chunk => and_congr_right fun _ => ?_
  cases chunk.1 <;> simp [eq_comm]

theorem readLine_escapedText (hname : isName name = true) (h : WellEscaped chunks)
    : readLine (setting name (escapedText chunks))
        =
      .ok (some (name, cString (chunks.map Prod.snd))) := by
  have hstring : readString 0 (escapedText chunks ++ ['\'']) = some (chunks.map Prod.snd, []) := by
    rw [readString_escapedText h]
    simp [readString]
  rw [setting, List.append_assoc, readLine_assignment hname, hstring]
  rfl

theorem exists_readLine_error (hname : isName name = true) (h : WellEscaped chunks)
    (hnewline : '\n' ∈ chunks.map Prod.snd)
    : ∃ line ∈ (setting name (escapedText chunks)).splitOn '\n', readLine line = .error () := by
  obtain ⟨before, after, hsplit, hbefore⟩ := List.eq_append_cons_of_mem hnewline
  obtain ⟨first, later, rfl, rfl, hlater⟩ := List.map_eq_append_iff.mp hsplit
  obtain ⟨chunk, last, rfl, hchunk, rfl⟩ := List.map_eq_cons_iff.mp hlater
  obtain ⟨escaped, c⟩ := chunk
  obtain rfl : c = '\n' := hchunk
  have hplain : escaped = false := by
    cases escaped with
    | false => rfl
    | true => exact absurd (h (true, '\n') (by simp)) (by decide)
  subst hplain
  have hfirst : WellEscaped first := fun chunk hmem => h chunk (List.mem_append_left _ hmem)
  have htext : setting name (escapedText (first ++ (false, '\n') :: last))
      = (assignment name ++ escapedText first) ++ '\n' :: (escapedText last ++ ['\'']) := by
    simp [setting, escapedText]
  have hline : '\n' ∉ assignment name ++ escapedText first := by
    simp [newline_not_mem_assignment hname, newline_mem_escapedText, hbefore]
  refine ⟨assignment name ++ escapedText first, ?_, ?_⟩
  . rw [htext, List.splitOn_append_cons_self_of_not_mem hline]
    exact List.mem_cons_self
  . have hstring : readString 0 (escapedText first ++ []) = none := readString_escapedText hfirst
    rw [List.append_nil] at hstring
    rw [readLine_assignment hname, hstring]

end Escaped

end ConfFile
end Hysteron
