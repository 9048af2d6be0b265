import Mathlib.Data.List.Basic

/-!
The lexer of PostgreSQL, character by character: words, operators, comments, the forms of string
literals and quoted identifiers. A literal ends only where the text behind its closing quote is known
not to continue it: a literal goes on behind white space with a line break.
-/

namespace Hysteron
namespace PgLexer

/-! ## Characters -/

def isNewline (c : Char) : Bool := c == '\n' || c == '\r'

def isSpace (c : Char) : Bool :=
  isNewline c || c == ' ' || c == '\t' || c == '\x0b' || c == '\x0c'

def isOperator (c : Char) : Bool :=
  "~!@#^&|`?+-*/%<>=".toList.contains c

def isWord (c : Char) : Bool :=
  c.isAlphanum || c == '_' || c == '$' || 0x80 ≤ c.toNat

/-! ## Tokens -/

inductive Kind where
  | plain
  | escape
  | bits
  | unicode
  deriving Repr, DecidableEq

inductive Token where
  | word (text : List Char)
  | operator (text : List Char)
  | symbol (c : Char)
  | string (value : List Char)
  | bits (text : List Char)
  | unicodeString (text : List Char)
  | identifier (value : List Char)
  | unicodeIdentifier (text : List Char)
  | error
  deriving Repr, DecidableEq

def isOctal (c : Char) : Bool := '0' ≤ c && c ≤ '7'

def isHex (c : Char) : Bool := c.isDigit || ('a' ≤ c && c ≤ 'f') || ('A' ≤ c && c ≤ 'F')

def digit (c : Char) : Nat :=
  if c.isDigit then c.toNat - '0'.toNat
  else if 'a' ≤ c then c.toNat - 'a'.toNat + 10
  else c.toNat - 'A'.toNat + 10

def number (base : Nat) (digits : List Char) : Nat :=
  digits.foldl (fun n c => base * n + digit c) 0

def simpleEscape (c : Char) : Char :=
  match c with
  | 'b' => '\x08'
  | 'f' => '\x0c'
  | 'n' => '\n'
  | 'r' => '\r'
  | 't' => '\t'
  | 'v' => '\x0b'
  | c => c

def readEscape (text : List Char) : Option (Char × Nat) :=
  match text with
  | [] => none
  | c :: cs =>
    let octal := (text.takeWhile isOctal).take 3
    let hex := cs.takeWhile isHex
    if octal ≠ [] then
      some (Char.ofNat (number 8 octal % 256), octal.length)
    else if c = 'x' ∧ hex ≠ [] then
      some (Char.ofNat (number 16 (hex.take 2)), 1 + (hex.take 2).length)
    else if c = 'u' then
      if 4 ≤ hex.length then some (Char.ofNat (number 16 (hex.take 4)), 5) else none
    else if c = 'U' then
      if 8 ≤ hex.length then some (Char.ofNat (number 16 (hex.take 8)), 9) else none
    else
      some (simpleEscape c, 1)

/--
The value of the text of an escape literal. Every round takes a character, so the length of the text is
enough fuel.
-/
def unescapeWith (fuel : Nat) (text : List Char) : Option (List Char) :=
  match fuel, text with
  | _, [] => some []
  | 0, _ => none
  | fuel + 1, '\\' :: cs => do
    let (c, taken) ← readEscape cs
    let rest ← unescapeWith fuel (cs.drop taken)
    return c :: rest
  | fuel + 1, c :: cs => do
    let rest ← unescapeWith fuel cs
    return c :: rest

def unescape (text : List Char) : Option (List Char) := unescapeWith text.length text

def literalToken (kind : Kind) (text : List Char) : Token :=
  match kind with
  | .plain => .string text
  | .escape =>
    match unescape text with
    | some value => .string value
    | none => .error
  | .bits => .bits text
  | .unicode => .unicodeString text

def identifierToken (unicode : Bool) (text : List Char) : Token :=
  if unicode then .unicodeIdentifier text
  else if text = [] then .error
  else .identifier text

/-! ## The machine -/

inductive Gap where
  | space
  | dash
  | comment
  deriving Repr, DecidableEq

inductive State where
  | start
  | word (text : List Char)
  | unicodeMark (letter : Char)
  | operator (text : List Char)
  | comment
  | block (depth : Nat) (last : Char)
  /-- In a literal; `escaped` behind a backslash that starts an escape. -/
  | literal (kind : Kind) (text : List Char) (escaped : Bool)
  | closed (kind : Kind) (text : List Char)
  | gap (kind : Kind) (text : List Char) (mode : Gap) (newline : Bool)
  | identifier (unicode : Bool) (text : List Char)
  | identifierClosed (unicode : Bool) (text : List Char)
  | dollar (tag : List Char)
  | dollarQuoted (tag text : List Char)
  deriving Repr, DecidableEq

def bareKind (standardConforming : Bool) : Kind :=
  if standardConforming then .plain else .escape

def stepStart (standardConforming : Bool) (c : Char) : State × List Token :=
  if isSpace c then (.start, [])
  else if c = '\'' then (.literal (bareKind standardConforming) [] false, [])
  else if c = '"' then (.identifier false [], [])
  else if c = '$' then (.dollar [], [])
  else if isWord c then (.word [c], [])
  else if isOperator c then (.operator [c], [])
  else (.start, [.symbol c])

def stepAfter (standardConforming : Bool) (token : Token) (c : Char) : State × List Token :=
  let next := stepStart standardConforming c
  (next.1, token :: next.2)

/--
A character behind a word. Some words of one letter belong to the literal behind them.
-/
def stepWord (standardConforming : Bool) (text : List Char) (c : Char) : State × List Token :=
  if isWord c then (.word (text ++ [c]), [])
  else if c = '\'' ∧ (text = ['e'] ∨ text = ['E']) then (.literal .escape [] false, [])
  else if c = '\'' ∧ (text = ['b'] ∨ text = ['B'] ∨ text = ['x'] ∨ text = ['X']) then
    (.literal .bits [] false, [])
  else if c = '&' ∧ text = ['u'] then (.unicodeMark 'u', [])
  else if c = '&' ∧ text = ['U'] then (.unicodeMark 'U', [])
  else stepAfter standardConforming (.word text) c

/--
A character behind operator characters. Two of them start a comment inside of an operator.
-/
def stepOperator (standardConforming : Bool) (text : List Char) (c : Char) : State × List Token :=
  let before := if text.length ≤ 1 then [] else [.operator text.dropLast]
  if text.getLast? = some '-' ∧ c = '-' then (.comment, before)
  else if text.getLast? = some '/' ∧ c = '*' then (.block 0 ' ', before)
  else if isOperator c then (.operator (text ++ [c]), [])
  else stepAfter standardConforming (.operator text) c

def stepBlock (depth : Nat) (last c : Char) : State × List Token :=
  if last = '/' ∧ c = '*' then (.block (depth + 1) ' ', [])
  else if last = '*' ∧ c = '/' then
    match depth with
    | 0 => (.start, [])
    | depth + 1 => (.block depth ' ', [])
  else (.block depth c, [])

def stepLiteral (kind : Kind) (text : List Char) (escaped : Bool) (c : Char) : State × List Token :=
  if escaped then (.literal kind (text ++ [c]) false, [])
  else if c = '\'' then (.closed kind text, [])
  else (.literal kind (text ++ [c]) (kind = .escape ∧ c = '\\'), [])

def stepGap (standardConforming : Bool) (kind : Kind) (text : List Char) (newline : Bool) (c : Char)
    : State × List Token :=
  if isSpace c then (.gap kind text .space (newline || isNewline c), [])
  else if c = '-' then (.gap kind text .dash newline, [])
  else if newline ∧ c = '\'' then (.literal kind text false, [])
  else stepAfter standardConforming (literalToken kind text) c

def step (standardConforming : Bool) (state : State) (c : Char) : State × List Token :=
  match state with
  | .start => stepStart standardConforming c
  | .word text => stepWord standardConforming text c
  | .unicodeMark letter =>
    if c = '\'' then (.literal .unicode [] false, [])
    else if c = '"' then (.identifier true [], [])
    else
      let next := stepOperator standardConforming ['&'] c
      (next.1, .word [letter] :: next.2)
  | .operator text => stepOperator standardConforming text c
  | .comment => if isNewline c then (.start, []) else (.comment, [])
  | .block depth last => stepBlock depth last c
  | .literal kind text escaped => stepLiteral kind text escaped c
  | .closed kind text =>
    -- A quote is not doubled in `B'…'` and `X'…'`.
    if c = '\'' ∧ kind ≠ .bits then (.literal kind (text ++ ['\'']) false, [])
    else stepGap standardConforming kind text false c
  | .gap kind text .space newline => stepGap standardConforming kind text newline c
  | .gap kind text .dash newline =>
    if c = '-' then (.gap kind text .comment newline, [])
    else
      let next := stepOperator standardConforming ['-'] c
      (next.1, literalToken kind text :: next.2)
  | .gap kind text .comment newline =>
    if isNewline c then (.gap kind text .space true, []) else (.gap kind text .comment newline, [])
  | .identifier unicode text =>
    if c = '"' then (.identifierClosed unicode text, []) else (.identifier unicode (text ++ [c]), [])
  | .identifierClosed unicode text =>
    if c = '"' then (.identifier unicode (text ++ ['"']), [])
    else stepAfter standardConforming (identifierToken unicode text) c
  | .dollar tag =>
    if c = '$' then (.dollarQuoted tag [], [])
    else if isWord c ∧ ¬ (tag = [] ∧ c.isDigit) then (.dollar (tag ++ [c]), [])
    else stepWord standardConforming ('$' :: tag) c
  | .dollarQuoted tag text =>
    let ending := '$' :: tag ++ ['$']
    let text := text ++ [c]
    if ending <:+ text then (.start, [.string (text.take (text.length - ending.length))])
    else (.dollarQuoted tag text, [])

def finish (state : State) : List Token :=
  match state with
  | .start | .comment => []
  | .word text => [.word text]
  | .unicodeMark letter => [.word [letter], .operator ['&']]
  | .operator text => [.operator text]
  | .block _ _ | .literal _ _ _ | .identifier _ _ | .dollarQuoted _ _ => [.error]
  | .closed kind text | .gap kind text .space _ | .gap kind text .comment _ =>
    [literalToken kind text]
  | .gap kind text .dash _ => [literalToken kind text, .operator ['-']]
  | .identifierClosed unicode text => [identifierToken unicode text]
  | .dollar tag => [.word ('$' :: tag)]

def feed (standardConforming : Bool) (state : State) (text : List Char) : State × List Token :=
  match text with
  | [] => (state, [])
  | c :: cs =>
    let next := step standardConforming state c
    let rest := feed standardConforming next.1 cs
    (rest.1, next.2 ++ rest.2)

def run (standardConforming : Bool) (state : State) (text : List Char) : List Token :=
  let fed := feed standardConforming state text
  fed.2 ++ finish fed.1

/--
The tokens of a text that is handed over as a C string.
-/
def tokens (standardConforming : Bool) (text : List Char) : List Token :=
  run standardConforming .start (text.takeWhile (· ≠ '\x00'))

/--
What follows the closing quote of a literal goes on with it: white space and comments with a line
break, and a quote.
-/
def continues (mode : Gap) (newline : Bool) (text : List Char) : Bool :=
  match text with
  | [] => false
  | c :: cs =>
    match mode with
    | .space =>
      if isSpace c then continues .space (newline || isNewline c) cs
      else if c = '-' then continues .dash newline cs
      else newline && c == '\''
    | .dash => c == '-' && continues .comment newline cs
    | .comment => if isNewline c then continues .space true cs else continues .comment newline cs

def inside (state : State) : Bool :=
  match state with
  | .comment | .block _ _ | .literal _ _ _ | .identifier _ _ | .dollarQuoted _ _ => true
  | .gap _ _ .comment _ => true
  | _ => false

def Gap.alone (mode : Gap) : State :=
  match mode with
  | .space => .start
  | .dash => .operator ['-']
  | .comment => .comment

def continuable (state : State) : Bool :=
  match state with
  | .gap _ _ _ newline => newline
  | _ => false

/-! ## Texts in parts -/

section Feed

variable {standardConforming : Bool} {state : State} {text rest : List Char} {c : Char}
variable {kind : Kind} {value : List Char}

theorem feed_append
    : feed standardConforming state (text ++ rest)
        =
      ((feed standardConforming (feed standardConforming state text).1 rest).1,
        (feed standardConforming state text).2
          ++ (feed standardConforming (feed standardConforming state text).1 rest).2) := by
  induction text generalizing state with
  | nil => rfl
  | cons c cs ih => simp only [List.cons_append, feed, ih, List.append_assoc]

theorem run_append
    : run standardConforming state (text ++ rest)
        =
      (feed standardConforming state text).2
        ++ run standardConforming (feed standardConforming state text).1 rest := by
  simp only [run, feed_append, List.append_assoc]

theorem run_cons
    : run standardConforming state (c :: rest)
        =
      (step standardConforming state c).2
        ++ run standardConforming (step standardConforming state c).1 rest := by
  simp only [run, feed, List.append_assoc]

/-! ## Behind a literal -/

theorem run_gap {mode : Gap} {newline : Bool} (h : continues mode newline text = false)
    : run standardConforming (.gap kind value mode newline) text
        =
      literalToken kind value :: run standardConforming mode.alone text := by
  induction text generalizing mode newline with
  | nil => cases mode <;> rfl
  | cons c cs ih =>
    rw [run_cons, run_cons]
    cases mode with
    | space =>
      by_cases hspace : isSpace c = true
      . simp only [continues, hspace, ↓reduceIte] at h
        simp [step, stepGap, stepStart, Gap.alone, hspace, ih h]
      . by_cases hdash : c = '-'
        . subst hdash
          simp only [continues, hspace, Bool.false_eq_true, ↓reduceIte] at h
          exact ih h
        . have hquote : ¬ (newline = true ∧ c = '\'') := by
            simpa [continues, hspace, hdash] using h
          simp [step, stepGap, stepAfter, Gap.alone, hspace, hdash, hquote]
    | dash =>
      by_cases hdash : c = '-'
      . subst hdash
        simp only [continues, BEq.rfl, Bool.true_and] at h
        exact ih h
      . simp [step, Gap.alone, hdash]
    | comment =>
      by_cases hnewline : isNewline c = true
      all_goals
        simp only [continues, hnewline, Bool.false_eq_true, ↓reduceIte] at h
        simp [step, Gap.alone, hnewline, ih h]

theorem run_closed (hhead : text.head? ≠ some '\'') (h : continues .space false text = false)
    : run standardConforming (.closed kind value) text
        =
      literalToken kind value :: run standardConforming .start text := by
  rw [← show Gap.space.alone = .start from rfl, ← run_gap h]
  cases text with
  | nil => rfl
  | cons c cs =>
    have hquote : c ≠ '\'' := by simpa using hhead
    rw [run_cons, run_cons]
    simp only [step, hquote, false_and, ↓reduceIte]

theorem run_identifierClosed (hhead : text.head? ≠ some '"')
    : run standardConforming (.identifierClosed false value) text
        =
      identifierToken false value :: run standardConforming .start text := by
  cases text with
  | nil => rfl
  | cons c cs =>
    have hquote : c ≠ '"' := by simpa using hhead
    rw [run_cons, run_cons]
    simp only [step, hquote, ↓reduceIte, stepAfter, List.cons_append]

theorem continues_takeWhile {mode : Gap} {newline : Bool} (p : Char → Bool)
    (h : continues mode newline text = false)
    : continues mode newline (text.takeWhile p) = false := by
  induction text generalizing mode newline with
  | nil => rfl
  | cons c cs ih =>
    rw [List.takeWhile_cons]
    split
    next =>
      cases mode with
      | space =>
        by_cases hspace : isSpace c = true
        . simp only [continues, hspace, ↓reduceIte] at h ⊢
          exact ih h
        . by_cases hdash : c = '-'
          . subst hdash
            exact ih h
          . simpa only [continues, hspace, hdash, Bool.false_eq_true, ↓reduceIte] using h
      | dash =>
        rw [continues, Bool.and_eq_false_iff] at h ⊢
        exact h.imp_right ih
      | comment =>
        by_cases hnewline : isNewline c = true
        all_goals
          simp only [continues, hnewline, Bool.false_eq_true, ↓reduceIte] at h ⊢
          exact ih h
    next => rfl

/-! ## In a literal -/

theorem feed_quotes (hkind : kind ≠ .bits)
    : feed standardConforming (.literal kind value false) ('\'' :: '\'' :: rest)
        =
      feed standardConforming (.literal kind (value ++ ['\'']) false) rest := by
  simp [feed, step, stepLiteral, hkind]

theorem feed_character (hquote : c ≠ '\'') (hescape : kind = .escape → c ≠ '\\')
    : feed standardConforming (.literal kind value false) (c :: rest)
        =
      feed standardConforming (.literal kind (value ++ [c]) false) rest := by
  have hnot : ¬ (kind = .escape ∧ c = '\\') := fun h => hescape h.1 h.2
  simp [feed, step, stepLiteral, hquote, hnot]

theorem feed_backslashes
    : feed standardConforming (.literal .escape value false) ('\\' :: '\\' :: rest)
        =
      feed standardConforming (.literal .escape (value ++ ['\\', '\\']) false) rest := by
  simp [feed, step, stepLiteral]

/-! ## Between tokens -/

structure Separator (c : Char) : Prop where
  word : isWord c = false
  operator : isOperator c = false
  newline : isNewline c = false
  quote : c ≠ '\''
  doubleQuote : c ≠ '"'

theorem Separator.of_mem (h : c ∈ [' ', ',', '(']) : Separator c := by
  simp only [List.mem_cons, List.not_mem_nil, or_false] at h
  rcases h with rfl | rfl | rfl
  all_goals constructor <;> decide

theorem Separator.ne_of_isWord (h : Separator c) {d : Char} (hd : isWord d = true) : c ≠ d := by
  rintro rfl
  simp [h.word] at hd

theorem Separator.ne_of_isOperator (h : Separator c) {d : Char} (hd : isOperator d = true)
    : c ≠ d := by
  rintro rfl
  simp [h.operator] at hd

theorem stepAfter_separator (h : Separator c) (token : Token)
    : (stepAfter standardConforming token c).1 = .start := by
  have hdollar : c ≠ '$' := h.ne_of_isWord (by decide)
  by_cases hspace : isSpace c = true
  all_goals simp [stepAfter, stepStart, hspace, h.quote, h.doubleQuote, hdollar, h.word, h.operator]

theorem stepWord_separator (h : Separator c) : (stepWord standardConforming value c).1 = .start := by
  have hand : c ≠ '&' := h.ne_of_isOperator (by decide)
  simp [stepWord, h.word, h.quote, hand, stepAfter_separator h]

theorem stepOperator_separator (h : Separator c)
    : (stepOperator standardConforming value c).1 = .start := by
  have hdash : c ≠ '-' := h.ne_of_isOperator (by decide)
  have hstar : c ≠ '*' := h.ne_of_isOperator (by decide)
  simp [stepOperator, h.operator, hdash, hstar, stepAfter_separator h]

theorem stepGap_separator (h : Separator c) (newline : Bool)
    : (stepGap standardConforming kind value newline c).1 = .start
        ∨
      (stepGap standardConforming kind value newline c).1 = .gap kind value .space newline := by
  have hdash : c ≠ '-' := h.ne_of_isOperator (by decide)
  by_cases hspace : isSpace c = true
  . right
    simp [stepGap, hspace, h.newline]
  . left
    simp [stepGap, hspace, hdash, h.quote, stepAfter_separator h]

theorem boundary_of_step (h : Separator c)
    (hinside : inside (step standardConforming state c).1 = false)
    : (step standardConforming state c).1 = .start
        ∨
      ∃ kind value newline, (step standardConforming state c).1 = .gap kind value .space newline := by
  have hdollar : c ≠ '$' := h.ne_of_isWord (by decide)
  have hdash : c ≠ '-' := h.ne_of_isOperator (by decide)
  have hstar : c ≠ '*' := h.ne_of_isOperator (by decide)
  have hslash : c ≠ '/' := h.ne_of_isOperator (by decide)
  cases state with
  | start => exact .inl (stepAfter_separator h .error)
  | word text => exact .inl (stepWord_separator h)
  | unicodeMark letter =>
    left
    simp [step, h.quote, h.doubleQuote, stepOperator_separator h]
  | operator text => exact .inl (stepOperator_separator h)
  | comment => simp [step, h.newline, inside] at hinside
  | block depth last => simp [step, stepBlock, hstar, hslash, inside] at hinside
  | literal kind text escaped =>
    cases escaped <;> simp [step, stepLiteral, h.quote, inside] at hinside
  | closed kind text =>
    simp only [step, h.quote, false_and, ↓reduceIte]
    exact (stepGap_separator h false).imp_right fun hgap => ⟨_, _, _, hgap⟩
  | gap kind text mode newline =>
    cases mode with
    | space => exact (stepGap_separator h newline).imp_right fun hgap => ⟨_, _, _, hgap⟩
    | dash =>
      left
      simp [step, hdash, stepOperator_separator h]
    | comment => simp [step, h.newline, inside] at hinside
  | identifier unicode text => simp [step, h.doubleQuote, inside] at hinside
  | identifierClosed unicode text =>
    left
    simp [step, h.doubleQuote, stepAfter_separator h]
  | dollar tag =>
    left
    simp [step, hdollar, h.word, stepWord_separator h]
  | dollarQuoted tag text =>
    left
    by_cases hending : '$' :: tag ++ ['$'] <:+ text ++ [c]
    . simp only [step, hending, ↓reduceIte]
    . simp only [step, hending, ↓reduceIte, inside, Bool.true_eq_false] at hinside

theorem boundary_of_feed (hend : ∃ c ∈ [' ', ',', '('], text.getLast? = some c)
    (hinside : inside (feed standardConforming state text).1 = false)
    : (feed standardConforming state text).1 = .start
        ∨
      ∃ kind value newline,
        (feed standardConforming state text).1 = .gap kind value .space newline := by
  obtain ⟨c, hc, hlast⟩ := hend
  obtain ⟨front, rfl⟩ := List.getLast?_eq_some_iff.mp hlast
  rw [feed_append] at hinside ⊢
  exact boundary_of_step (Separator.of_mem hc) hinside

theorem run_append_of_boundary (hend : ∃ c ∈ [' ', ',', '('], text.getLast? = some c)
    (hinside : inside (feed standardConforming .start text).1 = false)
    (hrest : continues .space (continuable (feed standardConforming .start text).1) rest = false)
    : run standardConforming .start (text ++ rest)
        =
      run standardConforming .start text ++ run standardConforming .start rest := by
  rw [run_append]
  obtain hstart | ⟨kind, value, newline, hgap⟩ := boundary_of_feed hend hinside
  . simp only [run, hstart, finish, List.append_nil]
  . rw [hgap, continuable] at hrest
    rw [hgap, run_gap hrest]
    simp only [run, hgap, finish, Gap.alone, List.append_assoc, List.singleton_append]

/-! ## Texts as C strings -/

theorem tokens_append (h : '\x00' ∉ text)
    : tokens standardConforming (text ++ rest)
        =
      run standardConforming .start (text ++ rest.takeWhile (· ≠ '\x00')) := by
  have hall : ∀ c ∈ text, decide (c ≠ '\x00') = true := by
    intro c hc
    simp only [decide_eq_true_eq]
    rintro rfl
    exact h hc
  rw [tokens, List.takeWhile_append_of_pos hall]

theorem tokens_eq_run (h : '\x00' ∉ text)
    : tokens standardConforming text = run standardConforming .start text := by
  calc tokens standardConforming text
  _ = tokens standardConforming (text ++ []) := by rw [List.append_nil]
  _ = run standardConforming .start (text ++ []) := tokens_append h
  _ = run standardConforming .start text := by rw [List.append_nil]

end Feed

end PgLexer
end Hysteron
