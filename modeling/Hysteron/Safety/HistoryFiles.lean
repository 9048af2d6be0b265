import Hysteron.Postgres.TimelineHistory
import Hysteron.Util.Except
import Hysteron.Util.LibPQ
import Hysteron.Util.Text

/-!
History files as the server writes and accepts them, and which of them are read as they are.
-/

namespace Hysteron
namespace Postgres

open Regexp (search matchHere)
open Text

/-! ## Files of the server -/

inductive HistoryLine where
  | skipped (text : List Char) (hline : '\n' ∉ text)
    (hskipped : ∀ c, (text.dropWhile LibPQ.isSpace).head? = some c → c = '#')
  | entry (timeline high low : Fin (2 ^ 32)) (padded : Bool) (reason : List Char)
    (hline : '\n' ∉ reason)

def lowText (low : Nat) (padded : Bool) : List Char :=
  let text := Hex.format low
  if padded then List.replicate (8 - text.length) '0' ++ text else text

def lsnText (high low : Nat) (padded : Bool) : List Char :=
  Hex.format high ++ '/' :: lowText low padded

namespace HistoryLine

def text : HistoryLine → List Char
  | skipped text _ _ => text
  | entry timeline high low padded reason _ =>
    Nat.toDigits 10 timeline ++ '\t' :: lsnText high low padded ++ '\t' :: reason

def history : HistoryLine → Option PostgresTimelineHistory
  | skipped _ _ _ => none
  | entry timeline high low _ reason _ =>
    some
      { timelineID := timeline
        switchPoint := high * 2 ^ 32 + low
        reason := String.ofList reason }

end HistoryLine

def fileOf (lines : List HistoryLine) : String :=
  String.ofList (['\n'].intercalate (lines.map HistoryLine.text))

/-! ## Words -/

def behindWord (line : List Char) : List Char := (line.dropWhile isBlank).dropWhile (!isBlank ·)

def firstWord (line : List Char) : List Char := (line.dropWhile isBlank).takeWhile (!isBlank ·)

section Words

variable {line : List Char} {c : Char}

theorem behindWord_cons_of_isBlank (h : isBlank c = true) : behindWord (c :: line) = behindWord line := by
  simp [behindWord, h]

theorem firstWord_cons_of_isBlank (h : isBlank c = true) : firstWord (c :: line) = firstWord line := by
  simp [firstWord, h]

theorem behindWord_of_not_isBlank (h : isBlank c = false)
    : behindWord (c :: line) = line.dropWhile (!isBlank ·) := by
  simp [behindWord, h]

theorem behindWord_ne_nil (h : behindWord (behindWord line) ≠ []) : behindWord line ≠ [] := by
  intro hnil
  rw [hnil] at h
  exact h rfl

theorem behindWord_behindWord_cons (h : behindWord (behindWord line) ≠ [])
    : behindWord (behindWord (c :: line)) ≠ [] := by
  by_cases hc : isBlank c = true
  . rwa [behindWord_cons_of_isBlank hc]
  . rw [behindWord_of_not_isBlank (Bool.not_eq_true _ ▸ hc)]
    cases line with
    | nil => exact absurd rfl h
    | cons d ds =>
      by_cases hd : isBlank d = true
      . -- The character is a word of its own.
        have hdrop : (d :: ds).dropWhile (!isBlank ·) = d :: ds := by simp [hd]
        rw [hdrop]
        exact behindWord_ne_nil h
      . -- The character belongs to the first word.
        have hdrop : (d :: ds).dropWhile (!isBlank ·) = behindWord (d :: ds) := by
          rw [behindWord_of_not_isBlank (Bool.not_eq_true _ ▸ hd)]
          simp [hd]
        rwa [hdrop]

theorem head_behindWord (h : (behindWord line).head? = some c) : isBlank c = true := by
  have hnot : (!isBlank c) = false := not_of_head?_dropWhile h
  simpa using hnot

theorem head_dropWhile_isBlank (h : (line.dropWhile isBlank).head? = some c) : isBlank c = false :=
  not_of_head?_dropWhile h

theorem length_takeWhile_lt_one {p : Char → Bool} (h : ∀ c, line.head? = some c → p c = true)
    : (line.takeWhile p).length < 1 ↔ line = [] := by
  cases line with
  | nil => simp
  | cons c cs => simp [h c rfl]

end Words

/-! ## The regular expression -/

section Search

variable {line : List Char}

theorem mem_of_mem_behindWord {c : Char} (h : c ∈ behindWord line) : c ∈ line :=
  List.dropWhile_subset _ (List.dropWhile_subset _ h)

theorem matchHere_word {pieces : List Regexp.Piece}
    (hhead : ∀ c, line.head? = some c → isBlank c = false)
    : matchHere (wordPiece :: blankPiece :: pieces) line
        =
      if line = [] then none
      else (matchHere (blankPiece :: pieces) (behindWord line)).map (firstWord line :: ·) := by
  have hself : line.dropWhile isBlank = line := by
    cases line with
    | nil => rfl
    | cons c cs => simp [hhead c rfl]
  have hlength : (line.takeWhile (!isBlank ·)).length < 1 ↔ line = [] :=
    length_takeWhile_lt_one (fun c hc => by simp [hhead c hc])
  rw [Regexp.matchHere_disjoint (by decide) (fun c hc => by simpa [wordPiece, blankPiece] using hc),
    behindWord, firstWord, hself]
  simp only [wordPiece, hlength]
  rfl

theorem matchHere_blank {pieces : List Regexp.Piece}
    (hhead : ∀ c, line.head? = some c → isBlank c = true)
    : matchHere (blankPiece :: wordPiece :: pieces) line
        =
      if line = [] then none else matchHere (wordPiece :: pieces) (line.dropWhile isBlank) := by
  have hlength : (line.takeWhile isBlank).length < 1 ↔ line = [] := length_takeWhile_lt_one hhead
  rw [Regexp.matchHere_disjoint (by decide) (fun c hc => by simpa [wordPiece, blankPiece] using hc)]
  simp only [blankPiece, hlength]
  split
  next => rfl
  next => cases matchHere (wordPiece :: pieces) (line.dropWhile isBlank) <;> rfl

theorem matchHere_rest (hline : '\n' ∉ line) (hhead : ∀ c, line.head? = some c → isBlank c = true)
    : matchHere [blankPiece, restPiece] line
        =
      if line = [] then none else some [line.dropWhile isBlank] := by
  have hlength : (line.takeWhile isBlank).length < 1 ↔ line = [] := length_takeWhile_lt_one hhead
  split
  next hnil =>
    subst hnil
    exact Regexp.matchHere_cons_of_head (by decide) (fun c hc => by cases hc)
  next hne =>
    have hrest : matchHere [restPiece] (line.dropWhile isBlank) = some [line.dropWhile isBlank] := by
      apply Regexp.matchHere_last rfl
      intro c hc
      have hnewline : c ≠ '\n' := fun h => hline (h ▸ List.dropWhile_subset _ hc)
      simp [restPiece, hnewline]
    exact Regexp.matchHere_cons (not_lt.mp (fun h => hne (hlength.mp h))) hrest

theorem matchHere_line (hline : '\n' ∉ line) (hhead : ∀ c, line.head? = some c → isBlank c = false)
    : matchHere timelineHistoryLineRegexp line
        =
      if behindWord (behindWord line) = [] then none
      else some [firstWord line, firstWord (behindWord line),
        (behindWord (behindWord line)).dropWhile isBlank] := by
  have hsecond : ∀ c, (behindWord line).head? = some c → isBlank c = true := fun c => head_behindWord
  have hthird : ∀ c, ((behindWord line).dropWhile isBlank).head? = some c → isBlank c = false :=
    fun c => head_dropWhile_isBlank
  have hfourth : '\n' ∉ behindWord (behindWord line) :=
    fun h => hline (mem_of_mem_behindWord (mem_of_mem_behindWord h))
  have hbehind : behindWord ((behindWord line).dropWhile isBlank) = behindWord (behindWord line) := by
    simp only [behindWord, List.dropWhile_idempotent]
  have hword : firstWord ((behindWord line).dropWhile isBlank) = firstWord (behindWord line) := by
    simp only [firstWord, List.dropWhile_idempotent]
  rw [timelineHistoryLineRegexp, matchHere_word hhead, matchHere_blank hsecond, matchHere_word hthird,
    hbehind, hword, matchHere_rest hfourth (fun c => head_behindWord)]
  by_cases hwords : behindWord (behindWord line) = []
  . simp [hwords]
  . have hfirst := behindWord_ne_nil hwords
    have hline : line ≠ [] := by
      rintro rfl
      exact hfirst rfl
    have hblanks : (behindWord line).dropWhile isBlank ≠ [] := by
      intro hnil
      exact hwords (by rw [← hbehind, hnil]; rfl)
    simp [hwords, hfirst, hline, hblanks]

theorem search_line (hline : '\n' ∉ line)
    : search timelineHistoryLineRegexp line
        =
      if behindWord (behindWord line) = [] then none
      else some [firstWord line, firstWord (behindWord line),
        (behindWord (behindWord line)).dropWhile isBlank] := by
  induction line with
  | nil => rfl
  | cons c cs ih =>
    have hcs : '\n' ∉ cs := fun h => hline (.tail c h)
    by_cases hc : isBlank c = true
    . have hnone : matchHere timelineHistoryLineRegexp (c :: cs) = none := by
        apply Regexp.matchHere_cons_of_head (by decide)
        intro d hd
        obtain rfl := Option.some.inj hd
        simp [wordPiece, hc]
      rw [Regexp.search_cons_of_matchHere_eq_none hnone, ih hcs, behindWord_cons_of_isBlank hc,
        firstWord_cons_of_isBlank hc]
    . have hhere := matchHere_line hline (fun d hd => by
        obtain rfl := Option.some.inj hd
        simpa using hc)
      by_cases hwords : behindWord (behindWord (c :: cs)) = []
      . have hrest : behindWord (behindWord cs) = [] := by
          by_contra hne
          exact behindWord_behindWord_cons hne hwords
        rw [if_pos hwords] at hhere ⊢
        rw [Regexp.search_cons_of_matchHere_eq_none hhere, ih hcs, if_pos hrest]
      . rw [if_neg hwords] at hhere ⊢
        exact Regexp.search_of_matchHere hhere

end Search

/-! ## Lines of a file -/

section Lines

variable {line rest : List Char}

theorem linesOf_append (hline : '\n' ∉ line)
    : linesOf (line ++ '\n' :: rest) = line :: linesOf rest := by
  induction line with
  | nil => simp [linesOf]
  | cons c cs ih =>
    have hc : c ≠ '\n' := fun h => hline (h ▸ List.mem_cons_self)
    rw [List.cons_append, linesOf, if_neg hc, ih (fun h => hline (.tail c h))]

theorem linesOf_eq_self (hline : '\n' ∉ line) : linesOf line = if line = [] then [] else [line] := by
  induction line with
  | nil => rfl
  | cons c cs ih =>
    have hc : c ≠ '\n' := fun h => hline (h ▸ List.mem_cons_self)
    rw [linesOf, if_neg hc, ih (fun h => hline (.tail c h))]
    by_cases hcs : cs = []
    all_goals simp [hcs]

theorem parseLine_nil : parseLine [] = .ok none := by
  decide +kernel

theorem parseLines_intercalate {lines : List (List Char)} (h : ∀ line ∈ lines, '\n' ∉ line)
    : parseLines (linesOf (['\n'].intercalate lines)) = parseLines lines := by
  induction lines with
  | nil => rfl
  | cons line lines ih =>
    have hline := h line List.mem_cons_self
    cases lines with
    | nil =>
      rw [List.intercalate_singleton, linesOf_eq_self hline]
      split
      next hnil => simp [hnil, parseLines, parseLine_nil, bind, Except.bind, pure, Except.pure]
      next => rfl
    | cons next lines =>
      have hrest := ih (fun line hmem => h line (.tail _ hmem))
      rw [List.intercalate_cons_cons, List.append_assoc, List.singleton_append, linesOf_append hline,
        parseLines, hrest]
      rfl

end Lines

/-! ## Numbers -/

section Numbers

variable {base bits n : Nat} {s : List Char} {f : Char → Nat}

theorem le_foldl_digits (hbase : 0 < base)
    : n ≤ s.foldl (fun n c => base * n + f c) n := by
  induction s generalizing n with
  | nil => exact le_refl _
  | cons c cs ih =>
    rw [List.foldl_cons]
    exact le_trans (le_trans (Nat.le_mul_of_pos_left n hbase) (Nat.le_add_right _ _)) ih

theorem parseDigits_eq_ok (hbase : 0 < base) (hdigit : ∀ c ∈ s, digitOf base c = some (f c))
    (h : s.foldl (fun n c => base * n + f c) n < 2 ^ bits)
    : parseDigits base bits n s = .ok (s.foldl (fun n c => base * n + f c) n) := by
  induction s generalizing n with
  | nil => rfl
  | cons c cs ih =>
    rw [List.foldl_cons] at h ⊢
    simp only [parseDigits, hdigit c List.mem_cons_self]
    rw [if_pos (lt_of_le_of_lt (le_foldl_digits hbase) h), ih (fun d hd => hdigit d (.tail c hd)) h]

theorem digitOf_of_isDigit {c : Char} (h : c.isDigit = true)
    : digitOf 10 c = some (c.toNat - '0'.toNat) := by
  have hle : c.toNat ≤ 57 := by
    simp only [Char.isDigit, Bool.and_eq_true, decide_eq_true_eq] at h
    exact h.2
  simp only [digitOf, h, ↓reduceIte, Option.filter_some, Char.reduceToNat]
  rw [if_pos (by simp only [decide_eq_true_eq]; omega)]

theorem parseUint_decimal {n : Nat} (h : n < 2 ^ 32)
    : parseUint 10 64 (Nat.toDigits 10 n) = .ok n := by
  have hvalue := Nat.ofDigitChars_ten_toDigits (n := n)
  rw [Nat.ofDigitChars_eq_foldl] at hvalue
  rw [parseUint, if_neg Nat.toDigits_ne_nil, parseDigits_eq_ok (by decide)
    (fun c hc => digitOf_of_isDigit (Nat.isDigit_of_mem_toDigits (by decide) (by decide) hc))]
  all_goals rw [hvalue]
  exact lt_trans h (by decide)

theorem digitOf_upperDigits {c : Char} (h : c ∈ Hex.upperDigits)
    : digitOf 16 c = some (Hex.digit c) := by
  have hall : Hex.upperDigits.all (fun c => digitOf 16 c = some (Hex.digit c)) = true := by
    decide +kernel
  simpa using List.all_eq_true.mp hall c h

theorem parseUint_hex (hne : s ≠ []) (hs : ∀ c ∈ s, c ∈ Hex.upperDigits)
    (h : Hex.value s < 2 ^ 32) : parseUint 16 32 s = .ok (Hex.value s) := by
  rw [parseUint, if_neg hne]
  exact parseDigits_eq_ok (by decide) (fun c hc => digitOf_upperDigits (hs c hc)) h

theorem lowText_spec (low : Nat) (padded : Bool)
    : (∀ c ∈ lowText low padded, c ∈ Hex.upperDigits) ∧ Hex.value (lowText low padded) = low := by
  obtain ⟨hmem, hvalue⟩ := Hex.format_spec low
  unfold lowText
  dsimp only
  split
  next =>
    rw [Hex.value_replicate_append]
    refine ⟨List.forall_mem_append.mpr ⟨?_, hmem⟩, hvalue⟩
    intro c hc
    rw [List.eq_of_mem_replicate hc]
    decide
  next => exact ⟨hmem, hvalue⟩

theorem not_mem_upperDigits : '/' ∉ Hex.upperDigits ∧ ∀ c ∈ Hex.upperDigits, isBlank c = false := by
  have hall : Hex.upperDigits.all (fun c => c != '/' && !isBlank c) = true := by decide +kernel
  have hchar := List.all_eq_true.mp hall
  constructor
  . intro hmem
    simpa using hchar '/' hmem
  . intro c hc
    have := hchar c hc
    simp only [Bool.and_eq_true, Bool.not_eq_true'] at this
    exact this.2

theorem format_ne_nil (n : Nat) : Hex.format n ≠ [] := by
  simp [Hex.format, Nat.toDigits_ne_nil]

theorem lowText_ne_nil (low : Nat) (padded : Bool) : lowText low padded ≠ [] := by
  unfold lowText
  dsimp only
  split <;> simp [format_ne_nil]

theorem pgLsnToInt_lsnText {high low : Nat} (hhigh : high < 2 ^ 32) (hlow : low < 2 ^ 32)
    (padded : Bool) : pgLsnToInt (lsnText high low padded) = .ok (high * 2 ^ 32 + low) := by
  obtain ⟨hmem, hvalue⟩ := Hex.format_spec high
  obtain ⟨hmem', hvalue'⟩ := lowText_spec low padded
  have hsplit : (lsnText high low padded).splitOn '/' = [Hex.format high, lowText low padded] := by
    have hparts : ∀ part ∈ [Hex.format high, lowText low padded], '/' ∉ part := by
      simp only [List.mem_cons, List.not_mem_nil, or_false, forall_eq_or_imp, forall_eq]
      exact ⟨fun h => not_mem_upperDigits.1 (hmem _ h), fun h => not_mem_upperDigits.1 (hmem' _ h)⟩
    have hsplit := List.splitOn_intercalate '/' hparts (by simp)
    simpa [List.intercalate, lsnText] using hsplit
  have hhighText := parseUint_hex (format_ne_nil high) hmem (by rwa [hvalue])
  have hlowText := parseUint_hex (lowText_ne_nil low padded) hmem' (by rwa [hvalue'])
  rw [pgLsnToInt, hsplit]
  simp only [hhighText, hlowText, hvalue, hvalue']

end Numbers

/-! ## One line -/

section Line

variable {word rest reason : List Char} {c : Char}

theorem behindWord_append (hne : word ≠ []) (hword : ∀ c ∈ word, isBlank c = false)
    (hc : isBlank c = true) : behindWord (word ++ c :: rest) = c :: rest := by
  have hself : (word ++ c :: rest).dropWhile isBlank = word ++ c :: rest := by
    obtain ⟨d, ds, rfl⟩ := List.exists_cons_of_ne_nil hne
    simp [hword d List.mem_cons_self]
  have hdrop : word.dropWhile (!isBlank ·) = [] :=
    List.dropWhile_eq_nil_iff.mpr (fun d hd => by simp [hword d hd])
  rw [behindWord, hself, List.dropWhile_append, hdrop]
  simp [hc]

theorem firstWord_append (hne : word ≠ []) (hword : ∀ c ∈ word, isBlank c = false)
    (hc : isBlank c = true) : firstWord (word ++ c :: rest) = word := by
  have hself : (word ++ c :: rest).dropWhile isBlank = word ++ c :: rest := by
    obtain ⟨d, ds, rfl⟩ := List.exists_cons_of_ne_nil hne
    simp [hword d List.mem_cons_self]
  rw [firstWord, hself, List.takeWhile_append_of_pos (fun d hd => by simp [hword d hd])]
  simp [hc]

theorem dropCR_append (hc : c ≠ '\r') : dropCR (word ++ c :: rest) = word ++ c :: dropCR rest := by
  cases rest with
  | nil => simp [dropCR, hc]
  | cons d ds =>
    have hlast : (word ++ c :: d :: ds).getLast? = (d :: ds).getLast? := by
      rw [List.getLast?_append, List.getLast?_cons_cons]
      simp [List.getLast?_cons]
    have hdrop : (word ++ c :: d :: ds).dropLast = word ++ c :: (d :: ds).dropLast := by
      rw [List.dropLast_append_cons, List.dropLast_cons_cons]
    rw [dropCR, dropCR, hlast, hdrop]
    split <;> rfl

theorem mem_of_mem_dropCR (h : c ∈ dropCR word) : c ∈ word := by
  unfold dropCR at h
  split at h
  next => exact List.dropLast_subset _ h
  next => exact h

theorem isBlank_toDigits {n : Nat} (h : c ∈ Nat.toDigits 10 n) : isBlank c = false := by
  have hdigit : c.isDigit = true := Nat.isDigit_of_mem_toDigits (by decide) (by decide) h
  by_contra hblank
  rw [Bool.not_eq_false] at hblank
  simp only [isBlank, Bool.or_eq_true, beq_iff_eq] at hblank
  rcases hblank with (((rfl | rfl) | rfl) | rfl) | rfl
  all_goals exact absurd hdigit (by decide)

theorem lsnText_spec (high low : Nat) (padded : Bool)
    : lsnText high low padded ≠ [] ∧ ∀ c ∈ lsnText high low padded, isBlank c = false := by
  refine ⟨by simp [lsnText], ?_⟩
  intro c hc
  rcases List.mem_append.mp hc with hc | hc
  . exact not_mem_upperDigits.2 c ((Hex.format_spec high).1 c hc)
  . rcases List.mem_cons.mp hc with rfl | hc
    . decide
    . exact not_mem_upperDigits.2 c ((lowText_spec low padded).1 c hc)

theorem search_words {word' : List Char} (hne : word ≠ []) (hword : ∀ c ∈ word, isBlank c = false)
    (hne' : word' ≠ []) (hword' : ∀ c ∈ word', isBlank c = false) (hrest : '\n' ∉ rest)
    : search timelineHistoryLineRegexp (word ++ '\t' :: (word' ++ '\t' :: rest))
        =
      some [word, word', rest.dropWhile isBlank] := by
  have hblank : isBlank '\t' = true := by decide
  have hline : '\n' ∉ word ++ '\t' :: (word' ++ '\t' :: rest) := by
    have hplain : ∀ {word : List Char}, (∀ c ∈ word, isBlank c = false) → '\n' ∉ word :=
      fun hword hc => absurd (hword '\n' hc) (by decide)
    simp [hplain hword, hplain hword', hrest]
  have hbehind : behindWord (word ++ '\t' :: (word' ++ '\t' :: rest)) = '\t' :: (word' ++ '\t' :: rest) :=
    behindWord_append hne hword hblank
  have hbehind' : behindWord (word' ++ '\t' :: rest) = '\t' :: rest :=
    behindWord_append hne' hword' hblank
  rw [search_line hline, hbehind, behindWord_cons_of_isBlank hblank, firstWord_cons_of_isBlank hblank,
    hbehind', firstWord_append hne hword hblank, firstWord_append hne' hword' hblank,
    if_neg (List.cons_ne_nil _ _), List.dropWhile_cons, if_pos hblank]

theorem parseLine_entry (timeline high low : Fin (2 ^ 32)) (padded : Bool) (hline : '\n' ∉ reason)
    : parseLine (HistoryLine.entry timeline high low padded reason hline).text
        =
      if maxScanTokenSize
          ≤ byteLength (HistoryLine.entry timeline high low padded reason hline).text then
        .error .tooLong
      else
        .ok (some
          { timelineID := timeline
            switchPoint := high * 2 ^ 32 + low
            reason := String.ofList ((dropCR reason).dropWhile isBlank) }) := by
  obtain ⟨hlsn, hlsnBlank⟩ := lsnText_spec high low padded
  have hdropped : dropCR (HistoryLine.entry timeline high low padded reason hline).text
      = Nat.toDigits 10 timeline ++ '\t' :: (lsnText high low padded ++ '\t' :: dropCR reason) := by
    rw [HistoryLine.text, dropCR_append (by decide), List.append_assoc, List.cons_append]
  have hsearch : search timelineHistoryLineRegexp
      (Nat.toDigits 10 timeline ++ '\t' :: (lsnText high low padded ++ '\t' :: dropCR reason))
      = some [Nat.toDigits 10 timeline, lsnText high low padded, (dropCR reason).dropWhile isBlank] :=
    search_words Nat.toDigits_ne_nil (fun c hc => isBlank_toDigits hc) hlsn hlsnBlank
      (fun hc => hline (mem_of_mem_dropCR hc))
  rw [parseLine, hdropped]
  simp only [hsearch, parseUint_decimal timeline.isLt, pgLsnToInt_lsnText high.isLt low.isLt]

theorem isSpace_of_isBlank (h : isBlank c = true) : LibPQ.isSpace c = true := by
  simp only [isBlank, Bool.or_eq_true, beq_iff_eq] at h
  rcases h with (((rfl | rfl) | rfl) | rfl) | rfl
  all_goals decide

theorem isDigit_of_isSpace (h : LibPQ.isSpace c = true) : c.isDigit = false := by
  have hmem : c ∈ [' ', '\t', '\n', '\x0b', '\x0c', '\r'] := List.contains_iff_mem.mp h
  simp only [List.mem_cons, List.not_mem_nil, or_false] at hmem
  rcases hmem with rfl | rfl | rfl | rfl | rfl | rfl
  all_goals decide

theorem digitOf_eq_none (h : c.isDigit = false) : digitOf 10 c = none := by
  simp only [digitOf, h, Bool.false_eq_true, ↓reduceIte]
  split
  next => simp [Option.filter_some]
  next =>
    split
    next => simp [Option.filter_some]
    next => rfl

theorem exists_dropCR_append (text : List Char) : ∃ tail, text = dropCR text ++ tail := by
  unfold dropCR
  split
  next h =>
    obtain ⟨front, rfl⟩ := List.getLast?_eq_some_iff.mp h
    exact ⟨['\r'], by rw [List.dropLast_concat]⟩
  next => exact ⟨[], (List.append_nil text).symm⟩

theorem parseUint_skipped {text : List Char}
    (hskipped : ∀ c, (text.dropWhile LibPQ.isSpace).head? = some c → c = '#')
    : ∃ err, parseUint 10 64 (firstWord (dropCR text)) = .error err := by
  cases hblanks : (dropCR text).dropWhile isBlank with
  | nil =>
    rw [firstWord, hblanks]
    exact ⟨_, rfl⟩
  | cons c cs =>
    have hc : isBlank c = false := head_dropWhile_isBlank (by rw [hblanks, List.head?_cons])
    -- The character is white space for the server, or it is the first one that is not.
    have hdigit : c.isDigit = false := by
      by_cases hspace : LibPQ.isSpace c = true
      . exact isDigit_of_isSpace hspace
      . have hhead : (text.dropWhile LibPQ.isSpace).head? = some c := by
          obtain ⟨tail, htail⟩ := exists_dropCR_append text
          have hlead : ∀ d ∈ (dropCR text).takeWhile isBlank, LibPQ.isSpace d = true :=
            fun d hd => isSpace_of_isBlank (List.mem_takeWhile_imp (p := isBlank) hd)
          rw [htail, ← List.takeWhile_append_dropWhile (p := isBlank) (l := dropCR text), hblanks,
            List.append_assoc, List.dropWhile_append_of_pos hlead]
          simp [hspace]
        rw [hskipped c hhead]
        decide
    refine ⟨.invalidSyntax, ?_⟩
    simp [parseUint, firstWord, hblanks, hc, parseDigits, digitOf_eq_none hdigit]

theorem parseLine_skipped {text : List Char} (hline : '\n' ∉ text)
    (hskipped : ∀ c, (text.dropWhile LibPQ.isSpace).head? = some c → c = '#')
    : parseLine text = .ok none
        ∧ byteLength text < maxScanTokenSize ∧ behindWord (behindWord (dropCR text)) = []
        ∨
      (∃ err, parseLine text = .error err)
        ∧ ¬ (byteLength text < maxScanTokenSize ∧ behindWord (behindWord (dropCR text)) = []) := by
  have hsearch := search_line (fun hc => hline (mem_of_mem_dropCR hc))
  unfold parseLine
  dsimp only
  by_cases hlong : maxScanTokenSize ≤ byteLength text
  . rw [if_pos hlong]
    exact .inr ⟨⟨_, rfl⟩, fun h => absurd h.1 (not_lt.mpr hlong)⟩
  . rw [if_neg hlong]
    by_cases hwords : behindWord (behindWord (dropCR text)) = []
    . rw [if_pos hwords] at hsearch
      left
      simp only [hsearch]
      exact ⟨trivial, not_le.mp hlong, hwords⟩
    . rw [if_neg hwords] at hsearch
      obtain ⟨err, herr⟩ := parseUint_skipped hskipped
      right
      simp only [hsearch, herr]
      exact ⟨⟨_, rfl⟩, fun h => hwords h.2⟩

end Line

/-! ## Files -/

/--
A line fits the buffer of the scanner. A comment has no two words with white space behind them, and
the reason of an entry neither starts with white space nor ends in a carriage return.
-/
def HistoryLine.Readable (line : HistoryLine) : Prop :=
  byteLength line.text < maxScanTokenSize
    ∧
  match line with
  | skipped text _ _ => behindWord (behindWord (dropCR text)) = []
  | entry _ _ _ _ reason _ =>
    (∀ c, reason.head? = some c → isBlank c = false) ∧ reason.getLast? ≠ some '\r'

theorem trimmed_reason_eq_iff {reason : List Char}
    : (dropCR reason).dropWhile isBlank = reason
        ↔
      (∀ c, reason.head? = some c → isBlank c = false) ∧ reason.getLast? ≠ some '\r' := by
  constructor
  . intro h
    have hlast : reason.getLast? ≠ some '\r' := by
      -- Otherwise the trimmed reason is shorter.
      intro hlast
      obtain ⟨front, rfl⟩ := List.getLast?_eq_some_iff.mp hlast
      have hlength := congrArg List.length h
      rw [dropCR, if_pos hlast, List.dropLast_concat, List.length_append, List.length_singleton]
        at hlength
      have hle := (List.dropWhile_sublist isBlank (l := front)).length_le
      omega
    rw [dropCR, if_neg hlast] at h
    exact ⟨fun c hc => not_of_head?_dropWhile (h.symm ▸ hc), hlast⟩
  . rintro ⟨hhead, hlast⟩
    rw [dropCR, if_neg hlast]
    cases reason with
    | nil => rfl
    | cons c cs => simp [hhead c rfl]

theorem parseLine_cases (line : HistoryLine)
    : parseLine line.text = .ok line.history ∧ line.Readable
        ∨
      ¬ line.Readable
        ∧ ∀ entry, parseLine line.text = .ok entry →
          entry ≠ line.history ∧ entry.isSome = line.history.isSome := by
  cases line with
  | skipped text hline hskipped =>
    obtain ⟨hok, hreadable⟩ | ⟨⟨err, herr⟩, hreadable⟩ := parseLine_skipped hline hskipped
    . exact .inl ⟨hok, hreadable⟩
    . refine .inr ⟨hreadable, ?_⟩
      intro entry hentry
      rw [HistoryLine.text, herr] at hentry
      cases hentry
  | entry timeline high low padded reason hline =>
    have hparse := parseLine_entry timeline high low padded hline
    by_cases hlong : maxScanTokenSize
        ≤ byteLength (HistoryLine.entry timeline high low padded reason hline).text
    . rw [if_pos hlong] at hparse
      refine .inr ⟨fun h => absurd h.1 (not_lt.mpr hlong), ?_⟩
      intro entry hentry
      rw [hparse] at hentry
      cases hentry
    . rw [if_neg hlong] at hparse
      by_cases hreason : (dropCR reason).dropWhile isBlank = reason
      . rw [hreason] at hparse
        exact .inl ⟨hparse, not_le.mp hlong, trimmed_reason_eq_iff.mp hreason⟩
      . refine .inr ⟨fun h => hreason (trimmed_reason_eq_iff.mpr h.2), ?_⟩
        intro entry hentry
        rw [hparse] at hentry
        obtain rfl := Except.ok.inj hentry
        refine ⟨?_, rfl⟩
        intro heq
        simp only [HistoryLine.history, Option.some.injEq, PostgresTimelineHistory.mk.injEq,
          true_and] at heq
        exact hreason (String.ofList_injective heq)

theorem newline_not_mem_text (line : HistoryLine) : '\n' ∉ line.text := by
  have hplain : ∀ {word : List Char}, (∀ c ∈ word, isBlank c = false) → '\n' ∉ word :=
    fun hword hc => absurd (hword '\n' hc) (by decide)
  cases line with
  | skipped text hline _ => exact hline
  | entry timeline high low padded reason hline =>
    have hdigits := hplain (fun c hc => isBlank_toDigits (n := timeline.val) hc)
    have hlsn := hplain (lsnText_spec high low padded).2
    simp [HistoryLine.text, hdigits, hlsn, hline]

theorem parseLines_eq_ok_iff (lines : List HistoryLine)
    : parseLines (lines.map HistoryLine.text) = .ok (lines.filterMap HistoryLine.history)
        ↔
      ∀ line ∈ lines, line.Readable := by
  induction lines with
  | nil => simp [parseLines]
  | cons line lines ih =>
    have hhistory : (line :: lines).filterMap HistoryLine.history
        = line.history.toList ++ lines.filterMap HistoryLine.history := by
      rw [List.filterMap_cons]
      cases line.history <;> rfl
    rw [List.map_cons, parseLines, hhistory, List.forall_mem_cons, ← ih]
    obtain ⟨hparse, hreadable⟩ | ⟨hreadable, hparse⟩ := parseLine_cases line
    . simp only [hparse, Except.bind_ok, Except.bind_eq_ok_iff, Except.pure_eq_ok, Except.ok.injEq,
        List.append_cancel_left_eq, exists_eq_right, hreadable, true_and]
    . simp only [hreadable, false_and, iff_false]
      intro hok
      obtain ⟨entry, hentry, hok⟩ := Except.bind_eq_ok_iff.mp hok
      obtain ⟨entries, -, hok⟩ := Except.bind_eq_ok_iff.mp hok
      obtain ⟨hne, hsome⟩ := hparse entry hentry
      -- Both have an entry or none, so the lists differ at this line.
      apply hne
      have hlist := Except.ok.inj hok
      cases hhistory : line.history with
      | none =>
        rw [hhistory] at hsome
        exact Option.isSome_eq_false_iff.mp hsome |> Option.isNone_iff_eq_none.mp
      | some history =>
        rw [hhistory] at hsome hlist
        obtain ⟨read, rfl⟩ := Option.isSome_iff_exists.mp hsome
        exact congrArg some (List.cons.inj hlist).1

/--
A history file of the server is read with all its entries exactly if all its lines are readable.
-/
theorem parseTimelinesHistory_eq_ok_iff (lines : List HistoryLine)
    : parseTimelinesHistory (fileOf lines) = .ok (lines.filterMap HistoryLine.history)
        ↔
      ∀ line ∈ lines, line.Readable := by
  have hlines : ∀ text ∈ lines.map HistoryLine.text, '\n' ∉ text := by
    intro text htext
    obtain ⟨line, -, rfl⟩ := List.mem_map.mp htext
    exact newline_not_mem_text line
  rw [parseTimelinesHistory, fileOf, String.toList_ofList, parseLines_intercalate hlines,
    parseLines_eq_ok_iff]

def commentLine : HistoryLine :=
  have hhead : ("# promoted by hand".toList.dropWhile LibPQ.isSpace).head? = some '#' := by
    decide +kernel
  .skipped "# promoted by hand".toList (by decide +kernel)
    (fun _ hc => Option.some.inj (hc.symm.trans hhead))

/--
The comment is taken for an entry, and its first word is not a timeline.
-/
theorem comment_refused
    : (parseTimelinesHistory (fileOf [commentLine])).toOption = none
        ∧
      [commentLine].filterMap HistoryLine.history = [] := by
  decide +kernel

end Postgres
end Hysteron
