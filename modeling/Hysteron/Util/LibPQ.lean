import Mathlib

/-!
What libpq reads: connection strings of keywords and values, after `conninfo_parse`, and password
files, after `passwordFromFile`.
-/

namespace Hysteron
namespace LibPQ

/-! ## Connection strings -/

def isSpace (c : Char) : Bool := [' ', '\t', '\n', '\x0b', '\x0c', '\r'].contains c

/--
A value without quotes ends at a space, which is not part of what follows. A backslash takes the
next character as it is.
-/
def readUnquoted : List Char → List Char × List Char
  | [] => ([], [])
  | ['\\'] => ([], [])
  | '\\' :: c :: cs => (c :: (readUnquoted cs).1, (readUnquoted cs).2)
  | c :: cs => if isSpace c then ([], cs) else (c :: (readUnquoted cs).1, (readUnquoted cs).2)

def readQuoted : List Char → Option (List Char × List Char)
  | [] => none
  | ['\\'] => none
  | '\\' :: c :: cs => (readQuoted cs).map (fun (value, rest) => (c :: value, rest))
  | c :: cs =>
    if c = '\'' then
      some ([], cs)
    else
      (readQuoted cs).map (fun (value, rest) => (c :: value, rest))

def readValue : List Char → Option (List Char × List Char)
  | '\'' :: cs => readQuoted cs
  | cs => some (readUnquoted cs)

def isKeywordChar (c : Char) : Bool := c ≠ '=' && !isSpace c

/--
The keywords of a connection string with their values. `known` are the keywords that libpq has.
Every round takes at least one character, so the length of the text bounds their number.
-/
def readConnInfo (known : List Char → Bool)
    : Nat → List Char → Option (List (List Char × List Char))
  | 0, _ => none
  | rounds + 1, cs =>
    match cs.dropWhile isSpace with
    | [] => some []
    | c :: cs =>
      let keyword := (c :: cs).takeWhile isKeywordChar
      match ((c :: cs).dropWhile isKeywordChar).dropWhile isSpace with
      | '=' :: rest =>
        (readValue (rest.dropWhile isSpace)).bind fun (value, rest) =>
          if known keyword then
            (readConnInfo known rounds rest).map ((keyword, value) :: ·)
          else
            none
      | _ => none

def connInfo (known : List Char → Bool) (cs : List Char) : Option (List (List Char × List Char)) :=
  readConnInfo known (cs.length + 1) cs

def valueOf (entries : List (List Char × List Char)) (keyword : List Char) : Option (List Char) :=
  (entries.reverse.find? (fun entry => entry.1 = keyword)).map Prod.snd

section ConnInfo

variable {cs value rest keyword : List Char} {entries : List (List Char × List Char)}
  {known : List Char → Bool} {rounds : Nat}

def IsPlain (value : List Char) : Prop := ∀ c ∈ value, isSpace c = false ∧ c ≠ '\\'

theorem readUnquoted_cons {c : Char} (hspace : isSpace c = false) (hescape : c ≠ '\\')
    : readUnquoted (c :: cs) = (c :: (readUnquoted cs).1, (readUnquoted cs).2) := by
  rw [readUnquoted]
  . simp [hspace]
  . rintro rfl
    exact absurd rfl hescape
  . rintro d ds rfl
    exact absurd rfl hescape

theorem readUnquoted_plain (h : IsPlain value)
    : readUnquoted value = (value, []) := by
  induction value with
  | nil => rfl
  | cons c value ih =>
    obtain ⟨⟨hspace, hescape⟩, htail⟩ := List.forall_mem_cons.mp h
    rw [readUnquoted_cons hspace hescape, ih htail]

theorem readUnquoted_plain_append (h : IsPlain value) {c : Char} (hc : isSpace c = true)
    : readUnquoted (value ++ c :: rest) = (value, rest) := by
  induction value with
  | nil =>
    have hescape : c ≠ '\\' := by
      rintro rfl
      revert hc
      decide
    rw [List.nil_append, readUnquoted]
    . simp [hc]
    . rintro rfl
      exact absurd rfl hescape
    . rintro d ds rfl
      exact absurd rfl hescape
  | cons d value ih =>
    obtain ⟨⟨hspace, hescape⟩, htail⟩ := List.forall_mem_cons.mp h
    rw [List.cons_append, readUnquoted_cons hspace hescape, ih htail]

theorem readUnquoted_length (cs : List Char)
    : ((readUnquoted cs).2 = []
        ∧
      (readUnquoted cs).1.length ≤ cs.length
        ∧
      ((readUnquoted cs).1.length = cs.length →
        IsPlain (readUnquoted cs).1 ∧ cs = (readUnquoted cs).1))
        ∨
      ((readUnquoted cs).1.length + (readUnquoted cs).2.length + 1 ≤ cs.length
        ∧
      ((readUnquoted cs).1.length + (readUnquoted cs).2.length + 1 = cs.length →
        IsPlain (readUnquoted cs).1
          ∧
        ∃ (c : Char), cs = (readUnquoted cs).1 ++ c :: (readUnquoted cs).2)) := by
  fun_induction readUnquoted cs with
  | case1 => exact .inl ⟨rfl, le_rfl, fun _ => ⟨by simp [IsPlain], rfl⟩⟩
  | case2 => exact .inl ⟨rfl, by simp, by simp⟩
  | case3 c cs ih =>
    simp only [List.length_cons]
    obtain ⟨hrest, hle, -⟩ | ⟨hle, -⟩ := ih
    . exact .inl ⟨hrest, by omega, by omega⟩
    . exact .inr ⟨by omega, by omega⟩
  | case4 c cs hlast hescape hspace =>
    exact .inr ⟨by simp, fun _ => ⟨by simp [IsPlain], c, rfl⟩⟩
  | case5 c cs hlast hescape hspace ih =>
    have hc : isSpace c = false ∧ c ≠ '\\' := by
      refine ⟨by simpa using hspace, ?_⟩
      rintro rfl
      cases cs with
      | nil => exact hlast rfl rfl
      | cons d ds => exact hescape d ds rfl rfl
    simp only [List.length_cons]
    obtain ⟨hrest, hle, heq⟩ | ⟨hle, heq⟩ := ih
    . refine .inl ⟨hrest, by omega, fun h => ?_⟩
      obtain ⟨hplain, hcs⟩ := heq (by omega)
      exact ⟨List.forall_mem_cons.mpr ⟨hc, hplain⟩, congrArg (c :: ·) hcs⟩
    . refine .inr ⟨by omega, fun h => ?_⟩
      obtain ⟨hplain, d, hcs⟩ := heq (by omega)
      exact ⟨List.forall_mem_cons.mpr ⟨hc, hplain⟩, d, congrArg (c :: ·) hcs⟩

theorem readQuoted_length (h : readQuoted cs = some (value, rest))
    : value.length + rest.length + 1 ≤ cs.length := by
  fun_induction readQuoted cs generalizing value rest with
  | case1 => cases h
  | case2 => cases h
  | case3 c cs ih =>
    obtain ⟨⟨value', rest'⟩, hread, heq⟩ := Option.map_eq_some_iff.mp h
    cases heq
    have hle := ih hread
    simp only [List.length_cons]
    omega
  | case4 cs =>
    cases h
    simp
  | case5 c cs hlast hescape hquote ih =>
    obtain ⟨⟨value', rest'⟩, hread, heq⟩ := Option.map_eq_some_iff.mp h
    cases heq
    have hle := ih hread
    simp only [List.length_cons]
    omega

def IsPlainValue (value : List Char) : Prop := IsPlain value ∧ value.head? ≠ some '\''

/--
What entries take at least in a text: their keyword and their value, an equals sign between the two
and a space behind them.
-/
def cost (entries : List (List Char × List Char)) : Nat :=
  (entries.map (fun entry => entry.1.length + entry.2.length + 2)).sum

@[simp]
theorem cost_nil : cost [] = 0 := rfl

@[simp]
theorem cost_cons {entry : List Char × List Char}
    : cost (entry :: entries) = entry.1.length + entry.2.length + 2 + cost entries := by
  simp [cost]

theorem eq_nil_of_cost (h : cost entries = 0) : entries = [] := by
  cases entries with
  | nil => rfl
  | cons entry entries =>
    rw [cost_cons] at h
    omega

theorem head?_of_append {c : Char} (h : cs = value ++ c :: rest) (hcs : cs.head? ≠ some '\'')
    : value.head? ≠ some '\'' := by
  cases value with
  | nil => simp
  | cons d value => simpa [h] using hcs

theorem readValue_length (h : readValue cs = some (value, rest)) {n : Nat}
    (hn : n ≤ rest.length + 1) (hnil : rest = [] → n = 0)
    : value.length + n ≤ cs.length
        ∧
      (value.length + n = cs.length → IsPlainValue value ∧ (n = 0 ∨ n = rest.length + 1)) := by
  unfold readValue at h
  split at h
  . have hle := readQuoted_length h
    simp only [List.length_cons]
    exact ⟨by omega, by omega⟩
  . next hquote =>
    have hhead : cs.head? ≠ some '\'' := by
      cases cs with
      | nil => simp
      | cons c cs =>
        rintro ⟨⟩
        exact hquote cs rfl
    have hread : readUnquoted cs = (value, rest) := Option.some.inj h
    have hlength := readUnquoted_length cs
    simp only [hread] at hlength
    obtain ⟨hrest, hle, heq⟩ | ⟨hle, heq⟩ := hlength
    . have hzero := hnil hrest
      refine ⟨by omega, fun h => ?_⟩
      obtain ⟨hplain, hcs⟩ := heq (by omega)
      exact ⟨⟨hplain, hcs ▸ hhead⟩, .inl hzero⟩
    . refine ⟨by omega, fun h => ?_⟩
      obtain ⟨hplain, c, hcs⟩ := heq (by omega)
      exact ⟨⟨hplain, head?_of_append hcs hhead⟩, .inr (by omega)⟩

theorem readConnInfo_nil (h : readConnInfo known rounds [] = some entries) : entries = [] := by
  cases rounds with
  | zero => cases h
  | succ rounds => exact (Option.some.inj h).symm

theorem cost_le (h : readConnInfo known rounds cs = some entries)
    : cost entries ≤ cs.length + 1
        ∧
      (cost entries = cs.length + 1 → ∀ entry ∈ entries, IsPlainValue entry.2) := by
  induction rounds generalizing cs entries with
  | zero => cases h
  | succ rounds ih =>
    unfold readConnInfo at h
    have hskip : (cs.dropWhile isSpace).length ≤ cs.length := List.length_dropWhile_le ..
    split at h
    . cases h
      simp
    . next c cs' hcs =>
      rw [hcs] at hskip
      dsimp only at h
      split at h
      . next rest hrest =>
        obtain ⟨⟨value, later⟩, hvalue, h⟩ := Option.bind_eq_some_iff.mp h
        dsimp only at h
        split at h
        . obtain ⟨entries', hentries, rfl⟩ := Option.map_eq_some_iff.mp h
          obtain ⟨hle, heq⟩ := ih hentries
          have hlater : later = [] → cost entries' = 0 := by
            rintro rfl
            rw [readConnInfo_nil hentries, cost_nil]
          obtain ⟨hvalueLe, hvalueEq⟩ := readValue_length hvalue hle hlater
          have hkeyword : ((c :: cs').takeWhile isKeywordChar).length
              + ((c :: cs').dropWhile isKeywordChar).length = (c :: cs').length := by
            rw [← List.length_append, List.takeWhile_append_dropWhile]
          have hblank := List.length_dropWhile_le isSpace ((c :: cs').dropWhile isKeywordChar)
          have htext := List.length_dropWhile_le isSpace rest
          rw [hrest, List.length_cons] at hblank
          rw [cost_cons]
          dsimp only
          refine ⟨by omega, fun hcost => ?_⟩
          obtain ⟨hplain, hzero | hlength⟩ := hvalueEq (by omega)
          . rw [eq_nil_of_cost hzero]
            exact List.forall_mem_singleton.mpr hplain
          . exact List.forall_mem_cons.mpr ⟨hplain, heq hlength⟩
        . cases h
      . cases h

def render (entries : List (List Char × List Char)) : List Char :=
  [' '].intercalate (entries.map (fun entry => entry.1 ++ '=' :: entry.2))

@[simp]
theorem render_singleton {entry : List Char × List Char}
    : render [entry] = entry.1 ++ '=' :: entry.2 := by
  simp [render]

theorem render_cons_cons {entry entry' : List Char × List Char}
    : render (entry :: entry' :: entries)
        =
      entry.1 ++ '=' :: (entry.2 ++ ' ' :: render (entry' :: entries)) := by
  simp [render, List.intercalate_cons_cons]

theorem mem_render (h : c ∈ render entries)
    : c = '=' ∨ c = ' ' ∨ ∃ entry ∈ entries, c ∈ entry.1 ∨ c ∈ entry.2 := by
  induction entries with
  | nil => cases h
  | cons entry entries ih =>
    cases entries with
    | nil =>
      simp only [render_singleton, List.mem_append, List.mem_cons] at h
      obtain h | rfl | h := h
      . exact .inr (.inr ⟨entry, by simp, .inl h⟩)
      . exact .inl rfl
      . exact .inr (.inr ⟨entry, by simp, .inr h⟩)
    | cons entry' entries =>
      simp only [render_cons_cons, List.mem_append, List.mem_cons] at h
      obtain h | rfl | h | rfl | h := h
      . exact .inr (.inr ⟨entry, by simp, .inl h⟩)
      . exact .inl rfl
      . exact .inr (.inr ⟨entry, by simp, .inr h⟩)
      . exact .inr (.inl rfl)
      . refine (ih h).imp_right (Or.imp_right ?_)
        rintro ⟨found, hfound, h⟩
        exact ⟨found, List.mem_cons_of_mem entry hfound, h⟩

theorem cost_eq_length_render (h : entries ≠ []) : cost entries = (render entries).length + 1 := by
  induction entries with
  | nil => exact absurd rfl h
  | cons entry entries ih =>
    cases entries with
    | nil =>
      rw [render_singleton, cost_cons, cost_nil]
      simp only [List.length_append, List.length_cons]
      omega
    | cons entry' entries =>
      rw [render_cons_cons, cost_cons, ih (by simp)]
      simp only [List.length_append, List.length_cons]
      omega

theorem sum_map_le_of_subset {entries' : List (List Char × List Char)}
    (weight : List Char × List Char → Nat) (hnodup : entries.Nodup) (h : entries ⊆ entries')
    : (entries.map weight).sum ≤ (entries'.map weight).sum := by
  obtain ⟨l, hperm, hsublist⟩ := List.subperm_of_subset hnodup h
  rw [← (hperm.map weight).sum_eq]
  exact (hsublist.map weight).sum_le_sum (by simp)

structure IsKeyword (known : List Char → Bool) (keyword : List Char) : Prop where
  known : known keyword = true
  nonempty : keyword ≠ []
  chars : ∀ c ∈ keyword, isKeywordChar c = true

theorem readConnInfo_entry (hkeyword : IsKeyword known keyword)
    (hcs : ∀ c ∈ cs.head?, isSpace c = false)
    : readConnInfo known (rounds + 1) (keyword ++ '=' :: cs)
        =
      (readValue cs).bind (fun (value, rest) =>
        (readConnInfo known rounds rest).map ((keyword, value) :: ·)) := by
  obtain ⟨hknown, hne, hchars⟩ := hkeyword
  cases keyword with
  | nil => exact absurd rfl hne
  | cons c keyword =>
    have hc : isSpace c = false := by
      have hchar := hchars c List.mem_cons_self
      simp only [isKeywordChar, Bool.and_eq_true, Bool.not_eq_true'] at hchar
      exact hchar.2
    have hskip : (c :: keyword ++ '=' :: cs).dropWhile isSpace = c :: (keyword ++ '=' :: cs) := by
      simp [hc]
    have htake : (c :: (keyword ++ '=' :: cs)).takeWhile isKeywordChar = c :: keyword := by
      rw [← List.cons_append, List.takeWhile_append_of_pos hchars]
      simp [isKeywordChar]
    have hdrop : ((c :: (keyword ++ '=' :: cs)).dropWhile isKeywordChar).dropWhile isSpace
        = '=' :: cs := by
      rw [← List.cons_append, List.dropWhile_append_of_pos hchars]
      simp [isKeywordChar, isSpace]
    have htext : cs.dropWhile isSpace = cs := by
      cases cs with
      | nil => rfl
      | cons d cs => simp [hcs d rfl]
    rw [readConnInfo, hskip]
    simp only [htake, hdrop, htext, hknown, if_true]

theorem readValue_of_head {text : List Char} (h : text.head? ≠ some '\'')
    : readValue text = some (readUnquoted text) := by
  cases text with
  | nil => rfl
  | cons c text =>
    rw [readValue]
    rintro _ ⟨⟩
    exact h rfl

theorem head?_append_of_ne_nil (h : value ≠ []) : (value ++ rest).head? = value.head? := by
  cases value with
  | nil => exact absurd rfl h
  | cons c value => rfl

theorem readConnInfo_render (hrounds : entries.length < rounds)
    (hkeywords : ∀ entry ∈ entries, IsKeyword known entry.1)
    (hvalues : ∀ entry ∈ entries, entry.2 ≠ [] ∧ IsPlainValue entry.2)
    : readConnInfo known rounds (render entries) = some entries := by
  induction entries generalizing rounds with
  | nil =>
    cases rounds with
    | zero => cases hrounds
    | succ rounds => rfl
  | cons entry entries ih =>
    obtain ⟨hkeyword, hkeywords⟩ := List.forall_mem_cons.mp hkeywords
    obtain ⟨⟨hne, hplain, hquote⟩, hvalues⟩ := List.forall_mem_cons.mp hvalues
    have hspace : ∀ (rest : List Char), ∀ c ∈ (entry.2 ++ rest).head?, isSpace c = false := by
      intro rest c hc
      rw [head?_append_of_ne_nil hne] at hc
      exact (hplain c (List.mem_of_mem_head? hc)).1
    cases rounds with
    | zero => cases hrounds
    | succ rounds =>
      have hrounds : entries.length < rounds := by simpa using hrounds
      have ih := ih hrounds hkeywords hvalues
      cases entries with
      | nil =>
        rw [render_singleton, readConnInfo_entry hkeyword (by simpa using hspace []),
          readValue_of_head hquote, readUnquoted_plain hplain]
        rw [show render [] = [] from rfl] at ih
        simp [ih]
      | cons entry' entries =>
        have hhead : (entry.2 ++ ' ' :: render (entry' :: entries)).head? ≠ some '\'' := by
          rw [head?_append_of_ne_nil hne]
          exact hquote
        rw [render_cons_cons, readConnInfo_entry hkeyword (hspace _), readValue_of_head hhead,
          readUnquoted_plain_append hplain (by decide)]
        simp [ih]

theorem mem_of_valueOf_eq_some (h : valueOf entries keyword = some value)
    : (keyword, value) ∈ entries := by
  obtain ⟨entry, hfind, rfl⟩ := Option.map_eq_some_iff.mp h
  have hmem := List.mem_of_find?_eq_some hfind
  have hkeyword := List.find?_some hfind
  simp only [decide_eq_true_eq] at hkeyword
  rw [← hkeyword]
  simpa using hmem

theorem valueOf_eq_some_iff (hnodup : (entries.map Prod.fst).Nodup)
    : valueOf entries keyword = some value ↔ (keyword, value) ∈ entries := by
  constructor
  . exact mem_of_valueOf_eq_some
  . intro h
    have hsome : (entries.reverse.find? (fun entry => entry.1 = keyword)).isSome = true := by
      rw [List.find?_isSome]
      exact ⟨(keyword, value), by simpa using h, by simp⟩
    obtain ⟨entry, hfind⟩ := Option.isSome_iff_exists.mp hsome
    have hvalue : valueOf entries keyword = some entry.2 := by rw [valueOf, hfind, Option.map_some]
    have hmem := mem_of_valueOf_eq_some hvalue
    have heq := List.inj_on_of_nodup_map hnodup hmem h rfl
    rw [hvalue, (Prod.mk.inj heq).2]

theorem length_le_cost (entries : List (List Char × List Char))
    : 2 * entries.length ≤ cost entries := by
  induction entries with
  | nil => simp
  | cons entry entries ih =>
    simp only [List.length_cons, cost_cons]
    omega

theorem connInfo_render_iff (hnodup : (entries.map Prod.fst).Nodup)
    (hkeywords : ∀ entry ∈ entries, IsKeyword known entry.1)
    (hvalues : ∀ entry ∈ entries, entry.2 ≠ [])
    : (∃ (found : List (List Char × List Char)),
        connInfo known (render entries) = some found
          ∧
        ∀ (keyword value : List Char),
          valueOf found keyword = some value ↔ (keyword, value) ∈ entries)
        ↔
      ∀ entry ∈ entries, IsPlainValue entry.2 := by
  constructor
  . rintro ⟨found, hread, hfound⟩ entry hentry
    have hsubset : entries ⊆ found := fun entry' hentry' =>
      mem_of_valueOf_eq_some ((hfound entry'.1 entry'.2).mpr hentry')
    -- What has been found takes the whole text, so it has no escapes.
    have hlower : cost entries ≤ cost found := sum_map_le_of_subset _ hnodup.of_map hsubset
    obtain ⟨hupper, hplain⟩ := cost_le hread
    rw [cost_eq_length_render (List.ne_nil_of_mem hentry)] at hlower
    exact hplain (by omega) entry (hsubset hentry)
  . intro hplain
    have hrounds : entries.length < (render entries).length + 1 := by
      cases entries with
      | nil => exact Nat.succ_pos _
      | cons entry entries =>
        rw [← cost_eq_length_render (by simp)]
        have hle := length_le_cost (entry :: entries)
        simp only [List.length_cons] at hle ⊢
        omega
    refine ⟨entries, ?_, fun keyword value => valueOf_eq_some_iff hnodup⟩
    exact readConnInfo_render hrounds hkeywords
      (fun entry hentry => ⟨hvalues entry hentry, hplain entry hentry⟩)

end ConnInfo

/-! ## Password files -/

/--
Compare the field at the start of a line with a token. It ends at the first colon behind the token,
and a backslash takes the next character as it is.
-/
def matchToken : List Char → List Char → Option (List Char)
  | ':' :: rest, [] => some rest
  | '\\' :: c :: rest, d :: token => if c = d then matchToken rest token else none
  | ['\\'], _ => none
  | c :: rest, d :: token => if c = d then matchToken rest token else none
  | _, _ => none

def matchField : List Char → List Char → Option (List Char)
  | '*' :: ':' :: rest, _ => some rest
  | line, token => matchToken line token

def deescape : List Char → List Char
  | [] => []
  | ':' :: _ => []
  | '\\' :: c :: cs => c :: deescape cs
  | c :: cs => c :: deescape cs

def passwordFromLine (host port dbname user line : List Char) : Option (List Char) :=
  if line.head? = some '#' then
    none
  else do
    let rest ← matchField (line.rdropWhile (· = '\r')) host
    let rest ← matchField rest port
    let rest ← matchField rest dbname
    let rest ← matchField rest user
    return deescape rest

def passwordFromFile (host port dbname user file : List Char) : Option (List Char) :=
  (file.splitOn '\n').findSome? (passwordFromLine host port dbname user)

section PasswordFile

variable {field token rest line w password : List Char}

theorem matchToken_cons {c d : Char} (hescape : c ≠ '\\')
    : matchToken (c :: rest) (d :: token) = if c = d then matchToken rest token else none := by
  rw [matchToken]
  . rintro e line rfl
    exact absurd rfl hescape
  . rintro rfl
    exact absurd rfl hescape

theorem matchToken_escape {c d : Char}
    : matchToken ('\\' :: c :: rest) (d :: token)
        =
      if c = d then matchToken rest token else none := rfl

theorem matchToken_self (h : '\\' ∉ field)
    : matchToken (field ++ ':' :: rest) field = some rest := by
  induction field with
  | nil => rfl
  | cons c field ih =>
    obtain ⟨hc, hfield⟩ := List.ne_and_not_mem_of_not_mem_cons h
    rw [List.cons_append, matchToken_cons hc.symm, if_pos rfl, ih hfield]

theorem matchToken_behind (n : Nat) (w : List Char)
    : matchToken (w ++ ':' :: rest) ('\\' :: (List.replicate n '\\' ++ w)) = none := by
  match w with
  | [] => rfl
  | c :: w =>
    by_cases hc : c = '\\'
    . subst hc
      match w with
      | [] => rfl
      | d :: w =>
        rw [List.cons_append, List.cons_append, matchToken_escape]
        split
        . next hd =>
          subst hd
          have htoken : List.replicate n '\\' ++ '\\' :: '\\' :: w
              = '\\' :: (List.replicate (n + 1) '\\' ++ w) := by
            rw [← List.cons_append, ← List.replicate_succ, List.replicate_succ',
              List.replicate_succ']
            simp
          rw [htoken]
          exact matchToken_behind (n + 1) w
        . rfl
    . rw [List.cons_append, matchToken_cons hc, if_neg hc]

theorem matchToken_self_eq_none (h : '\\' ∈ field)
    : matchToken (field ++ ':' :: rest) field = none := by
  obtain ⟨first, later, rfl, hfirst⟩ := List.eq_append_cons_of_mem h
  clear h
  induction first with
  | nil =>
    rw [List.nil_append]
    cases later with
    | nil => rfl
    | cons c later =>
      rw [List.cons_append, List.cons_append, matchToken_escape]
      split
      . next hc =>
        subst hc
        exact matchToken_behind 0 later
      . rfl
  | cons c first ih =>
    obtain ⟨hc, hfirst⟩ := List.ne_and_not_mem_of_not_mem_cons hfirst
    rw [List.cons_append, List.cons_append, matchToken_cons hc.symm, if_pos rfl, ih hfirst]

def IsToken (field : List Char) : Prop := ¬['*', ':'] <+: field

theorem matchField_self (htoken : IsToken field)
    : matchField (field ++ ':' :: rest) field = if '\\' ∈ field then none else some rest := by
  have hself : matchToken (field ++ ':' :: rest) field
      = if '\\' ∈ field then none else some rest := by
    split
    . next h => exact matchToken_self_eq_none h
    . next h => exact matchToken_self h
  by_cases hstar : field = ['*']
  . subst hstar
    rfl
  . rw [← hself, matchField]
    intro line heq
    cases field with
    | nil => cases heq
    | cons c field =>
      cases field with
      | nil =>
        cases heq
        exact hstar rfl
      | cons d field =>
        cases heq
        exact htoken (by simp)

theorem length_deescape_le : (deescape w).length ≤ w.length := by
  fun_induction deescape w with
  | case1 | case2 => simp
  | case3 c cs ih | case4 c cs _ _ ih =>
    simp only [List.length_cons]
    omega

theorem deescape_eq_self_iff : deescape w = w ↔ ':' ∉ w ∧ '\\' ∉ w.dropLast := by
  fun_induction deescape w with
  | case1 => simp
  | case2 => simp
  | case3 c cs ih =>
    have hle := length_deescape_le (w := cs)
    constructor
    . intro h
      have hlength := congrArg List.length h
      simp only [List.length_cons] at hlength
      omega
    . rintro ⟨-, h⟩
      simp at h
  | case4 c cs hcolon hescape ih =>
    rw [List.cons.injEq, ih]
    cases cs with
    | nil => simp [Ne.symm hcolon]
    | cons d cs =>
      have hne : c ≠ '\\' := by
        rintro rfl
        exact hescape _ _ rfl rfl
      simp [Ne.symm hcolon, hne.symm]

theorem rdropWhile_append_cons {p : Char → Bool} {c : Char} (hc : p c = false)
    : (line ++ c :: w).rdropWhile p = line ++ c :: w.rdropWhile p := by
  induction w using List.reverseRecOn with
  | nil =>
    rw [List.rdropWhile_concat_neg _ _ _ (by simp [hc])]
    simp
  | append_singleton w d ih =>
    rw [← List.cons_append, ← List.append_assoc]
    by_cases hd : p d = true
    . rw [List.rdropWhile_concat_pos _ _ _ hd, List.rdropWhile_concat_pos _ _ _ hd, ih]
    . rw [List.rdropWhile_concat_neg _ _ _ hd, List.rdropWhile_concat_neg _ _ _ hd]
      simp

theorem passwordFromFile_line {host port dbname user : List Char} (h : '\n' ∉ line)
    : passwordFromFile host port dbname user (line ++ ['\n'])
        =
      passwordFromLine host port dbname user line := by
  have hempty : passwordFromLine host port dbname user [] = none := rfl
  have hsplit : (line ++ ['\n']).splitOn '\n' = [line, []] := by
    rw [List.splitOn_append_cons_self_of_not_mem h]
    rfl
  rw [passwordFromFile, hsplit]
  simp only [List.findSome?_cons, hempty, List.findSome?_nil]
  cases passwordFromLine host port dbname user line <;> rfl

section Line

variable {host port user : List Char}

def passwordLine (host port user password : List Char) : List Char :=
  host ++ ':' :: (port ++ ':' :: '*' :: ':' :: (user ++ ':' :: password))

theorem passwordFromLine_passwordLine (hhost : IsToken host) (hport : IsToken port)
    (huser : IsToken user) (dbname : List Char)
    : passwordFromLine host port dbname user (passwordLine host port user password)
        =
      if host.head? = some '#' ∨ '\\' ∈ host ∨ '\\' ∈ port ∨ '\\' ∈ user then none else
        some (deescape (password.rdropWhile (· = '\r'))) := by
  have hhead : (passwordLine host port user password).head? = some '#' ↔ host.head? = some '#' := by
    cases host <;> simp [passwordLine]
  have hstrip : (passwordLine host port user password).rdropWhile (· = '\r')
      = passwordLine host port user (password.rdropWhile (· = '\r')) := by
    have hassoc (w : List Char) : passwordLine host port user w
        = (host ++ ':' :: (port ++ ':' :: '*' :: ':' :: user)) ++ ':' :: w := by
      simp [passwordLine]
    rw [hassoc, hassoc, rdropWhile_append_cons (by decide)]
  have hdbname (rest : List Char) : matchField ('*' :: ':' :: rest) dbname = some rest := rfl
  unfold passwordFromLine
  rw [hstrip]
  simp only [hhead]
  by_cases hcomment : host.head? = some '#'
  . simp [hcomment]
  by_cases hbackslash : '\\' ∈ host
  . simp [passwordLine, matchField_self hhost, hbackslash]
  by_cases hbackslash' : '\\' ∈ port
  . simp [passwordLine, matchField_self hhost, matchField_self hport, hbackslash, hbackslash']
  by_cases hbackslash'' : '\\' ∈ user
  all_goals
    simp [passwordLine, matchField_self hhost, matchField_self hport, hdbname,
      matchField_self huser, hcomment, hbackslash, hbackslash', hbackslash'']

theorem passwordFromLine_eq_some_iff (hhost : IsToken host) (hport : IsToken port)
    (huser : IsToken user) (dbname : List Char)
    : passwordFromLine host port dbname user (passwordLine host port user password) = some password
        ↔
      host.head? ≠ some '#'
        ∧
      ('\\' ∉ host ∧ '\\' ∉ port ∧ '\\' ∉ user)
        ∧
      ':' ∉ password ∧ '\\' ∉ password.dropLast ∧ password.getLast? ≠ some '\r' := by
  have hpassword : deescape (password.rdropWhile (· = '\r')) = password
      ↔ ':' ∉ password ∧ '\\' ∉ password.dropLast ∧ password.getLast? ≠ some '\r' := by
    rw [← and_assoc, ← deescape_eq_self_iff]
    constructor
    . intro h
      have hle := length_deescape_le (w := password.rdropWhile (· = '\r'))
      have hself : password.rdropWhile (· = '\r') = password := by
        refine (List.rdropWhile_prefix _ _).eq_of_length_le ?_
        rw [h] at hle
        exact hle
      rw [hself] at h
      refine ⟨h, fun hlast => ?_⟩
      obtain ⟨w, rfl⟩ := List.getLast?_eq_some_iff.mp hlast
      exact List.rdropWhile_eq_self_iff.mp hself (by simp) (by simp)
    . rintro ⟨h, hlast⟩
      have hself : password.rdropWhile (· = '\r') = password := by
        rw [List.rdropWhile_eq_self_iff]
        intro hne
        rw [List.getLast?_eq_some_getLast hne] at hlast
        simpa using hlast
      rw [hself, h]
  rw [passwordFromLine_passwordLine hhost hport huser]
  split
  . next h =>
    refine iff_of_false nofun ?_
    rintro ⟨hcomment, ⟨hhost, hport, huser⟩, -⟩
    obtain h | h | h | h := h <;> contradiction
  . next h =>
    simp only [not_or] at h
    rw [Option.some.injEq, hpassword]
    exact ⟨fun hvalue => ⟨h.1, h.2, hvalue⟩, fun hall => hall.2.2⟩

end Line

end PasswordFile

end LibPQ
end Hysteron
