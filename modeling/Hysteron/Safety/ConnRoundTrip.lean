import Hysteron.Postgres.LogSummary
import Hysteron.Safety.PrimaryConninfo

/-!
Connection strings are printed and parsed by the same package. The parser ends a value at any white
space, while the printer escapes blanks only.
-/

namespace Hysteron
namespace Postgres

open ClusterSpec (isSpace)
open Keeper (connString)

section Parse

variable {key value rest : List Char} {entries : List (List Char × List Char)}

def OnlyBlanks (value : List Char) : Prop := ∀ c ∈ value, isSpace c = true → c = ' '

theorem scanUnquoted_plain {c : Char} {cs : List Char} (hescape : c ≠ '\\')
    : scanUnquoted (c :: cs)
        =
      if isSpace c then .ok ([], cs) else
        (scanUnquoted cs).map fun (value, rest) => (c :: value, rest) := by
  rw [scanUnquoted]
  . rintro rfl
    exact absurd rfl hescape
  . rintro d ds rfl
    exact absurd rfl hescape

theorem scanUnquoted_cons {c : Char} {cs : List Char} (hspace : isSpace c = false)
    (hescape : c ≠ '\\')
    : scanUnquoted (c :: cs)
        =
      (scanUnquoted cs).map fun (value, rest) => (c :: value, rest) := by
  simp [scanUnquoted_plain hescape, hspace]

theorem scanQuoted_plain {c : Char} {cs : List Char} (hescape : c ≠ '\\')
    : scanQuoted (c :: cs)
        =
      if c = '\'' then .ok ([], cs) else
        (scanQuoted cs).map fun (value, rest) => (c :: value, rest) := by
  rw [scanQuoted]
  . rintro rfl
    exact absurd rfl hescape
  . rintro d ds rfl
    exact absurd rfl hescape

theorem scanUnquoted_escapeChars (h : OnlyBlanks value) (hrest : rest = [] ∨ rest.head? = some ' ')
    : scanUnquoted (escapeChars value ++ rest) = .ok (value, rest.tail) := by
  induction value with
  | nil =>
    cases rest with
    | nil => rfl
    | cons c rest =>
      obtain rfl : c = ' ' := by simpa using hrest
      rfl
  | cons c value ih =>
    obtain ⟨hc, hvalue⟩ := List.forall_mem_cons.mp h
    rw [escapeChars, List.flatMap_cons, ← escapeChars]
    split
    . rw [List.append_assoc]
      have hstep : scanUnquoted (['\\', c] ++ (escapeChars value ++ rest))
          = (scanUnquoted (escapeChars value ++ rest)).map fun (value, rest) => (c :: value, rest) := by
        rfl
      rw [hstep, ih hvalue]
      rfl
    . next hescaped =>
      simp only [isEscaped, Bool.or_eq_true, beq_iff_eq, not_or] at hescaped
      have hspace : isSpace c = false := by
        by_contra hspace
        exact hescaped.1.1 (hc (by simpa using hspace))
      rw [List.append_assoc, List.singleton_append, scanUnquoted_cons hspace hescaped.2, ih hvalue]
      rfl

theorem escapeChars_cons (hne : value ≠ []) (h : OnlyBlanks value)
    : ∃ (c : Char) (cs : List Char),
        escapeChars value = c :: cs ∧ isSpace c = false ∧ c ≠ '\'' := by
  obtain ⟨c, value, rfl⟩ := List.exists_cons_of_ne_nil hne
  have hc := h c List.mem_cons_self
  rw [escapeChars, List.flatMap_cons]
  split
  . exact ⟨'\\', _, rfl, by decide, by decide⟩
  . next hescaped =>
    simp only [isEscaped, Bool.or_eq_true, beq_iff_eq, not_or] at hescaped
    refine ⟨c, _, rfl, ?_, hescaped.1.2⟩
    by_contra hspace
    exact hescaped.1.1 (hc (by simpa using hspace))

theorem scanValue_escapeChars (hne : value ≠ []) (h : OnlyBlanks value)
    (hrest : rest = [] ∨ rest.head? = some ' ')
    : (escapeChars value ++ rest).dropWhile isSpace = escapeChars value ++ rest
        ∧
      scanValue (escapeChars value ++ rest) = .ok (value, rest.tail) := by
  obtain ⟨c, cs, hcons, hspace, hquote⟩ := escapeChars_cons hne h
  have hunquoted : scanValue (escapeChars value ++ rest)
      = scanUnquoted (escapeChars value ++ rest) := by
    rw [hcons, List.cons_append, scanValue]
    rintro ds heq
    exact hquote (List.cons.inj heq).1
  rw [hunquoted, scanUnquoted_escapeChars h hrest]
  exact ⟨by simp [hcons, hspace], rfl⟩

theorem span_key (hkey : ∀ c ∈ key, isKeyChar c = true) (rest : List Char)
    : (key ++ '=' :: rest).dropWhile isSpace = key ++ '=' :: rest
        ∧
      (key ++ '=' :: rest).takeWhile isKeyChar = key
        ∧
      (key ++ '=' :: rest).dropWhile isKeyChar = '=' :: rest := by
  have hequals : isKeyChar '=' = false := by decide
  refine ⟨?_, ?_, ?_⟩
  . cases key with
    | nil => rfl
    | cons c key =>
      have hc := hkey c List.mem_cons_self
      simp only [isKeyChar, Bool.and_eq_true, Bool.not_eq_true'] at hc
      simp [hc.1]
  . rw [List.takeWhile_append_of_pos hkey]
    simp [hequals]
  . rw [List.dropWhile_append_of_pos hkey]
    simp [hequals]

theorem scanConnString_entry (hkey : ∀ c ∈ key, isKeyChar c = true) (hne : value ≠ [])
    (h : OnlyBlanks value) (hrest : rest = [] ∨ rest.head? = some ' ') (rounds : Nat)
    : scanConnString (rounds + 1) (key ++ '=' :: (escapeChars value ++ rest))
        =
      (scanConnString rounds rest.tail).map ((key, value) :: ·) := by
  obtain ⟨hspaces, htake, hdrop⟩ := span_key hkey (escapeChars value ++ rest)
  obtain ⟨hvalueSpaces, hvalue⟩ := scanValue_escapeChars hne h hrest
  obtain ⟨c, cs, hcons, -, -⟩ := escapeChars_cons hne h
  have hequals : ('=' :: (escapeChars value ++ rest)).dropWhile isSpace
      = '=' :: (escapeChars value ++ rest) := rfl
  obtain ⟨d, ds, htext⟩ : ∃ (d : Char) (ds : List Char),
      key ++ '=' :: (escapeChars value ++ rest) = d :: ds :=
    List.exists_cons_of_ne_nil (by simp)
  rw [scanConnString, hspaces]
  rw [htext] at htake hdrop ⊢
  simp only [htake, hdrop, hequals, hvalueSpaces]
  rw [hcons, List.cons_append] at hvalue ⊢
  simp only [hvalue, Except.bind_ok]
  cases scanConnString rounds rest.tail <;> rfl

def connText (entries : List (List Char × List Char)) : List Char :=
  [' '].intercalate (entries.map (fun entry => entry.1 ++ '=' :: escapeChars entry.2))

def connRest : List (List Char × List Char) → List Char
  | [] => []
  | entry :: entries => ' ' :: connText (entry :: entries)

theorem toList_connString_eq (params : List (String × String))
    : (connString params).toList = connText (connEntries params) := by
  rw [toList_connString, escapedText_connChunks, connText]

theorem connText_cons (entry : List Char × List Char) (entries : List (List Char × List Char))
    : connText (entry :: entries) = entry.1 ++ '=' :: (escapeChars entry.2 ++ connRest entries) := by
  cases entries with
  | nil => simp [connText, connRest]
  | cons entry' entries =>
    rw [connRest, connText, connText, List.map_cons, List.map_cons, List.intercalate_cons_cons]
    simp

theorem connRest_blank (entries : List (List Char × List Char))
    : connRest entries = [] ∨ (connRest entries).head? = some ' ' := by
  cases entries with
  | nil => exact .inl rfl
  | cons entry entries => exact .inr rfl

theorem tail_connRest (entries : List (List Char × List Char))
    : (connRest entries).tail = connText entries := by
  cases entries <;> rfl

theorem scanConnString_connText (hkeys : ∀ entry ∈ entries, ∀ c ∈ entry.1, isKeyChar c = true)
    (hvalues : ∀ entry ∈ entries, entry.2 ≠ [] ∧ OnlyBlanks entry.2) {rounds : Nat}
    (hrounds : entries.length < rounds)
    : scanConnString rounds (connText entries) = .ok entries := by
  induction entries generalizing rounds with
  | nil =>
    obtain ⟨rounds, rfl⟩ := Nat.exists_eq_succ_of_ne_zero (Nat.ne_zero_of_lt hrounds)
    rfl
  | cons entry entries ih =>
    obtain ⟨rounds, rfl⟩ := Nat.exists_eq_succ_of_ne_zero (Nat.ne_zero_of_lt hrounds)
    obtain ⟨hkey, hkeys⟩ := List.forall_mem_cons.mp hkeys
    obtain ⟨⟨hne, hvalue⟩, hvalues⟩ := List.forall_mem_cons.mp hvalues
    rw [connText_cons, scanConnString_entry hkey hne hvalue (connRest_blank entries), tail_connRest,
      ih hkeys hvalues (Nat.lt_of_succ_lt_succ hrounds)]
    rfl

theorem length_le_length_connText (entries : List (List Char × List Char))
    : entries.length ≤ (connText entries).length := by
  induction entries with
  | nil => exact Nat.zero_le _
  | cons entry entries ih =>
    have hrest : (connText entries).length ≤ (connRest entries).length := by
      rw [← tail_connRest, List.length_tail]
      omega
    rw [connText_cons]
    simp only [List.length_append, List.length_cons]
    omega

theorem parseConnString_connString {params : List (String × String)}
    (hkeys : ∀ kv ∈ params, ∀ c ∈ kv.1.toList, isKeyChar c = true)
    (hvalues : ∀ kv ∈ params, OnlyBlanks kv.2.toList)
    : parseConnString (connString params).toList = .ok (connEntries params) := by
  rw [parseConnString, toList_connString_eq]
  refine scanConnString_connText (fun entry hentry => ?_) (fun entry hentry => ?_) ?_
  . obtain ⟨kv, hkv, -, rfl⟩ := mem_connEntries.mp hentry
    exact hkeys kv hkv
  . obtain ⟨kv, hkv, hne, rfl⟩ := mem_connEntries.mp hentry
    exact ⟨by simpa using hne, hvalues kv hkv⟩
  . exact Nat.lt_succ_of_le (length_le_length_connText _)

end Parse

section Exact

variable {cs key value rest : List Char} {c : Char} {entries : List (List Char × List Char)}

/--
Texts in which a backslash escapes no other white space than a blank, if they are read in pairs from
the left. So a value without quotes has no other white space.
-/
inductive BlanksEscaped : List Char → Prop where
  | nil : BlanksEscaped []
  | plain {c : Char} {cs : List Char} (hc : c ≠ '\\') (h : BlanksEscaped cs) : BlanksEscaped (c :: cs)
  | pair {c : Char} {cs : List Char} (hc : isSpace c = true → c = ' ') (h : BlanksEscaped cs)
      : BlanksEscaped ('\\' :: c :: cs)
  | last : BlanksEscaped ['\\']

theorem BlanksEscaped.tail (h : BlanksEscaped (c :: cs)) (hc : c ≠ '\\') : BlanksEscaped cs := by
  cases h with
  | plain _ h => exact h
  | pair _ _ => exact absurd rfl hc
  | last => exact absurd rfl hc

theorem BlanksEscaped.of_append (h : BlanksEscaped (key ++ rest)) (hrest : rest.head? ≠ some '\\')
    : BlanksEscaped rest := by
  generalize htext : key ++ rest = text at h
  induction h generalizing key with
  | nil =>
    obtain ⟨-, rfl⟩ := List.append_eq_nil_iff.mp htext
    exact .nil
  | @plain c cs hc h ih =>
    cases key with
    | nil =>
      rw [List.nil_append] at htext
      exact htext ▸ .plain hc h
    | cons d key => exact ih (List.cons.inj htext).2
  | @pair c cs hc h ih =>
    match key with
    | [] =>
      rw [List.nil_append] at htext
      exact htext ▸ .pair hc h
    | [d] =>
      obtain rfl : rest = c :: cs := (List.cons.inj htext).2
      exact .plain (by simpa using hrest) h
    | d :: e :: key => exact ih (List.cons.inj (List.cons.inj htext).2).2
  | last =>
    match key with
    | [] =>
      rw [List.nil_append] at htext
      exact absurd (by rw [htext]; rfl) hrest
    | d :: key =>
      obtain ⟨-, rfl⟩ := List.append_eq_nil_iff.mp (List.cons.inj htext).2
      exact .nil

theorem BlanksEscaped.dropWhile_isSpace (h : BlanksEscaped cs)
    : BlanksEscaped (cs.dropWhile isSpace) := by
  induction cs with
  | nil => exact h
  | cons c cs ih =>
    rw [List.dropWhile_cons]
    split
    . next hspace =>
      refine ih (h.tail ?_)
      rintro rfl
      exact absurd hspace (by decide)
    . exact h

theorem BlanksEscaped.dropWhile_isKeyChar (h : BlanksEscaped cs)
    : BlanksEscaped (cs.dropWhile isKeyChar) := by
  have hsplit : BlanksEscaped (cs.takeWhile isKeyChar ++ cs.dropWhile isKeyChar) := by
    rwa [List.takeWhile_append_dropWhile]
  refine hsplit.of_append ?_
  intro hhead
  have hkey := List.head?_dropWhile_not isKeyChar cs
  rw [hhead] at hkey
  exact absurd hkey (by decide)

theorem BlanksEscaped.scanUnquoted (h : BlanksEscaped cs) (hscan : scanUnquoted cs = .ok (value, rest))
    : OnlyBlanks value ∧ BlanksEscaped rest := by
  induction h generalizing value with
  | nil =>
    cases hscan
    exact ⟨by simp [OnlyBlanks], .nil⟩
  | @plain c cs hc h ih =>
    rw [scanUnquoted_plain hc] at hscan
    split at hscan
    . cases hscan
      exact ⟨by simp [OnlyBlanks], h⟩
    . next hspace =>
      obtain ⟨⟨value', rest'⟩, hscan, heq⟩ := Except.map_eq_ok_iff.mp hscan
      cases heq
      obtain ⟨hvalue, hrest⟩ := ih hscan
      exact ⟨List.forall_mem_cons.mpr ⟨fun h => absurd h hspace, hvalue⟩, hrest⟩
  | @pair c cs hc h ih =>
    rw [Postgres.scanUnquoted] at hscan
    obtain ⟨⟨value', rest'⟩, hscan, heq⟩ := Except.map_eq_ok_iff.mp hscan
    cases heq
    obtain ⟨hvalue, hrest⟩ := ih hscan
    exact ⟨List.forall_mem_cons.mpr ⟨hc, hvalue⟩, hrest⟩
  | last => cases hscan

def quotes (entry : List Char × List Char) : Nat := entry.1.count '\'' + entry.2.count '\''

theorem quotes_scanUnquoted (hscan : scanUnquoted cs = .ok (value, rest))
    : value.count '\'' + rest.count '\'' ≤ cs.count '\'' := by
  fun_induction Postgres.scanUnquoted cs generalizing value with
  | case1 =>
    cases hscan
    simp
  | case2 => cases hscan
  | case3 c cs ih =>
    obtain ⟨⟨value', rest'⟩, hscan, heq⟩ := Except.map_eq_ok_iff.mp hscan
    cases heq
    have := ih hscan
    simp only [List.count_cons] at this ⊢
    omega
  | case4 c cs _ _ hspace =>
    cases hscan
    simp [List.count_cons]
  | case5 c cs _ _ hspace ih =>
    obtain ⟨⟨value', rest'⟩, hscan, heq⟩ := Except.map_eq_ok_iff.mp hscan
    cases heq
    have := ih hscan
    simp only [List.count_cons] at this ⊢
    omega

theorem quotes_scanQuoted (hscan : scanQuoted cs = .ok (value, rest))
    : value.count '\'' + rest.count '\'' + 1 ≤ cs.count '\'' := by
  fun_induction Postgres.scanQuoted cs generalizing value with
  | case1 => cases hscan
  | case2 => cases hscan
  | case3 c cs ih =>
    obtain ⟨⟨value', rest'⟩, hscan, heq⟩ := Except.map_eq_ok_iff.mp hscan
    cases heq
    have := ih hscan
    simp only [List.count_cons] at this ⊢
    omega
  | case4 cs _ _ =>
    cases hscan
    simp
  | case5 c cs _ _ hquote ih =>
    obtain ⟨⟨value', rest'⟩, hscan, heq⟩ := Except.map_eq_ok_iff.mp hscan
    cases heq
    have := ih hscan
    simp only [List.count_cons] at this ⊢
    omega

theorem BlanksEscaped.scanQuoted (h : BlanksEscaped cs) (hscan : scanQuoted cs = .ok (value, rest))
    : BlanksEscaped rest := by
  induction h generalizing value with
  | nil => cases hscan
  | @plain c cs hc h ih =>
    rw [scanQuoted_plain hc] at hscan
    split at hscan
    . cases hscan
      exact h
    . obtain ⟨⟨value', rest'⟩, hscan, heq⟩ := Except.map_eq_ok_iff.mp hscan
      cases heq
      exact ih hscan
  | @pair c cs hc h ih =>
    rw [Postgres.scanQuoted] at hscan
    obtain ⟨⟨value', rest'⟩, hscan, heq⟩ := Except.map_eq_ok_iff.mp hscan
    cases heq
    exact ih hscan
  | last => cases hscan

theorem BlanksEscaped.scanValue (h : BlanksEscaped cs) (hscan : scanValue cs = .ok (value, rest))
    : BlanksEscaped rest
        ∧
      (OnlyBlanks value ∧ value.count '\'' + rest.count '\'' ≤ cs.count '\''
        ∨
      value.count '\'' + rest.count '\'' + 2 ≤ cs.count '\'') := by
  unfold Postgres.scanValue at hscan
  split at hscan
  . next cs =>
    have hquotes := quotes_scanQuoted hscan
    refine ⟨(h.tail (by decide)).scanQuoted hscan, .inr ?_⟩
    rw [List.count_cons_self]
    omega
  . obtain ⟨hvalue, hrest⟩ := h.scanUnquoted hscan
    exact ⟨hrest, .inl ⟨hvalue, quotes_scanUnquoted hscan⟩⟩

theorem scanConnString_succ {rounds : Nat} {found : List (List Char × List Char)}
    (hscan : scanConnString (rounds + 1) cs = .ok found)
    : found = []
        ∨
      ∃ (key rest : List Char),
        key = (cs.dropWhile isSpace).takeWhile isKeyChar
          ∧
        ((cs.dropWhile isSpace).dropWhile isKeyChar).dropWhile isSpace = '=' :: rest
          ∧
        (found = [(key, [])]
          ∨
        ∃ (value rest' : List Char) (params : List (List Char × List Char)),
          scanValue (rest.dropWhile isSpace) = .ok (value, rest')
            ∧
          scanConnString rounds rest' = .ok params
            ∧
          found = (key, value) :: params) := by
  unfold scanConnString at hscan
  split at hscan
  . cases hscan
    exact .inl rfl
  . next c cs' htext =>
    rw [htext]
    dsimp only at hscan
    split at hscan
    . next rest hrest =>
      refine .inr ⟨_, rest, rfl, hrest, ?_⟩
      split at hscan
      . cases hscan
        exact .inl rfl
      . obtain ⟨⟨value, rest'⟩, hvalue, hscan⟩ := Except.bind_eq_ok_iff.mp hscan
        obtain ⟨params, hparams, hscan⟩ := Except.bind_eq_ok_iff.mp hscan
        cases hscan
        exact .inr ⟨value, rest', params, hvalue, hparams, rfl⟩
    . cases hscan

theorem BlanksEscaped.scanConnString (h : BlanksEscaped cs) {rounds : Nat}
    (hscan : scanConnString rounds cs = .ok entries)
    : (entries.map quotes).sum ≤ cs.count '\''
        ∧
      ((∀ entry ∈ entries, OnlyBlanks entry.2)
        ∨
      (entries.map quotes).sum + 2 ≤ cs.count '\'') := by
  induction rounds generalizing cs entries with
  | zero =>
    cases hscan
    simp
  | succ rounds ih =>
    obtain rfl | ⟨key, rest, rfl, hrest, hfound⟩ := scanConnString_succ hscan
    . simp
    have htext := (h.dropWhile_isSpace.dropWhile_isKeyChar.dropWhile_isSpace)
    rw [hrest] at htext
    have hafter := (htext.tail (by decide)).dropWhile_isSpace
    -- What is skipped only takes quotes away.
    have hquotes : ((cs.dropWhile isSpace).takeWhile isKeyChar).count '\''
        + (rest.dropWhile isSpace).count '\'' ≤ cs.count '\'' := by
      have hskip (text : List Char) : (text.dropWhile isSpace).count '\'' ≤ text.count '\'' :=
        (List.dropWhile_sublist _).count_le _
      have hkey := congrArg (List.count '\'')
        (List.takeWhile_append_dropWhile (p := isKeyChar) (l := cs.dropWhile isSpace))
      have hequals := hskip ((cs.dropWhile isSpace).dropWhile isKeyChar)
      have hfirst := hskip cs
      have hlast := hskip rest
      rw [List.count_append] at hkey
      rw [hrest, List.count_cons] at hequals
      omega
    obtain rfl | ⟨value, rest', params, hvalue, hparams, rfl⟩ := hfound
    . refine ⟨?_, .inl ?_⟩
      . simp only [List.map_cons, List.map_nil, List.sum_cons, List.sum_nil, quotes, List.count_nil]
        omega
      . simp [OnlyBlanks]
    . obtain ⟨hescaped, hcount⟩ := hafter.scanValue hvalue
      obtain ⟨hle, hothers⟩ := ih hescaped hparams
      simp only [List.map_cons, List.sum_cons, quotes, List.forall_mem_cons]
      rcases hcount with ⟨hblanks, hcount⟩ | hcount
      . refine ⟨by omega, ?_⟩
        rcases hothers with hothers | hothers
        . exact .inl ⟨hblanks, hothers⟩
        . exact .inr (by omega)
      . exact ⟨by omega, .inr (by omega)⟩

theorem blanksEscaped_key (h : BlanksEscaped rest)
    : ∀ (key : List Char), (∀ c ∈ key, isKeyChar c = true) → BlanksEscaped (key ++ '=' :: rest)
  | [], _ => .plain (by decide) h
  | [c], _ => by
    by_cases hc : c = '\\'
    . subst hc
      exact .pair (by decide) h
    . exact .plain hc (.plain (by decide) h)
  | c :: d :: key, hkey => by
    obtain ⟨-, hkey'⟩ := List.forall_mem_cons.mp hkey
    by_cases hc : c = '\\'
    . subst hc
      obtain ⟨hd, hkey''⟩ := List.forall_mem_cons.mp hkey'
      refine .pair (fun hspace => ?_) (blanksEscaped_key h key hkey'')
      simp [isKeyChar, hspace] at hd
    . exact .plain hc (blanksEscaped_key h (d :: key) hkey')

theorem blanksEscaped_escapeChars (h : BlanksEscaped rest)
    : BlanksEscaped (escapeChars value ++ rest) := by
  induction value with
  | nil => exact h
  | cons c value ih =>
    rw [escapeChars, List.flatMap_cons, ← escapeChars]
    split
    . next hescaped =>
      simp only [isEscaped, Bool.or_eq_true, beq_iff_eq] at hescaped
      refine .pair (fun hspace => ?_) ih
      rcases hescaped with (rfl | rfl) | rfl
      . rfl
      . exact absurd hspace (by decide)
      . exact absurd hspace (by decide)
    . next hescaped =>
      simp only [isEscaped, Bool.or_eq_true, beq_iff_eq, not_or] at hescaped
      exact .plain hescaped.2 ih

theorem blanksEscaped_connText (hkeys : ∀ entry ∈ entries, ∀ c ∈ entry.1, isKeyChar c = true)
    : BlanksEscaped (connText entries) := by
  induction entries with
  | nil => exact .nil
  | cons entry entries ih =>
    obtain ⟨hkey, hkeys⟩ := List.forall_mem_cons.mp hkeys
    rw [connText_cons]
    refine blanksEscaped_key (blanksEscaped_escapeChars ?_) entry.1 hkey
    cases entries with
    | nil => exact .nil
    | cons entry' entries => exact .plain (by decide) (ih hkeys)

theorem count_escapeChars (value : List Char) : (escapeChars value).count '\'' = value.count '\'' := by
  induction value with
  | nil => rfl
  | cons c value ih =>
    rw [escapeChars, List.flatMap_cons, ← escapeChars, List.count_append, ih]
    split <;> simp [List.count_cons, add_comm]

theorem count_connText (entries : List (List Char × List Char))
    : (connText entries).count '\'' = (entries.map quotes).sum := by
  induction entries with
  | nil => rfl
  | cons entry entries ih =>
    have hrest : (connRest entries).count '\'' = (connText entries).count '\'' := by
      cases entries with
      | nil => rfl
      | cons entry' entries => simp [connRest]
    rw [connText_cons, List.count_append, List.count_cons_of_ne (by decide), List.count_append, hrest,
      ih, count_escapeChars, List.map_cons, List.sum_cons, quotes]
    omega

end Exact

section Injective

variable {key value value' rest rest' : List Char} {entries entries' : List (List Char × List Char)}

theorem escapeChars_cons_append (c : Char) (value rest : List Char)
    : escapeChars (c :: value) ++ rest
        =
      if isEscaped c then '\\' :: c :: (escapeChars value ++ rest) else
        c :: (escapeChars value ++ rest) := by
  rw [escapeChars, List.flatMap_cons, ← escapeChars]
  split <;> simp

theorem ne_escapeChars_cons {c : Char} (hrest : rest = [] ∨ rest.head? = some ' ')
    : rest ≠ escapeChars (c :: value) ++ rest' := by
  rw [escapeChars_cons_append]
  rintro rfl
  split at hrest
  . simp at hrest
  . next hescaped =>
    obtain rfl : c = ' ' := by simpa using hrest
    exact hescaped (by decide)

theorem escapeChars_append_inj (hrest : rest = [] ∨ rest.head? = some ' ')
    (hrest' : rest' = [] ∨ rest'.head? = some ' ')
    (h : escapeChars value ++ rest = escapeChars value' ++ rest')
    : value = value' ∧ rest = rest' := by
  have hbackslash : isEscaped '\\' = true := by decide
  induction value generalizing value' with
  | nil =>
    cases value' with
    | nil => exact ⟨rfl, h⟩
    | cons c' value' => exact absurd h (ne_escapeChars_cons hrest)
  | cons c value ih =>
    cases value' with
    | nil => exact absurd h.symm (ne_escapeChars_cons hrest')
    | cons c' value' =>
      rw [escapeChars_cons_append, escapeChars_cons_append] at h
      split at h
      . split at h
        . obtain ⟨rfl, htail⟩ := List.cons.inj (List.cons.inj h).2
          obtain ⟨rfl, hsame⟩ := ih htail
          exact ⟨rfl, hsame⟩
        . next hescaped' =>
          rw [← (List.cons.inj h).1] at hescaped'
          exact absurd hbackslash hescaped'
      . next hescaped =>
        split at h
        . rw [(List.cons.inj h).1] at hescaped
          exact absurd hbackslash hescaped
        . obtain ⟨rfl, htail⟩ := List.cons.inj h
          obtain ⟨rfl, hsame⟩ := ih htail
          exact ⟨rfl, hsame⟩

theorem connText_inj (hkeys : ∀ entry ∈ entries, ∀ c ∈ entry.1, isKeyChar c = true)
    (hkeys' : ∀ entry ∈ entries', ∀ c ∈ entry.1, isKeyChar c = true)
    (h : connText entries = connText entries') : entries = entries' := by
  induction entries generalizing entries' with
  | nil =>
    cases entries' with
    | nil => rfl
    | cons entry' entries' =>
      rw [connText_cons] at h
      simp [connText] at h
  | cons entry entries ih =>
    cases entries' with
    | nil =>
      rw [connText_cons] at h
      simp [connText] at h
    | cons entry' entries' =>
      obtain ⟨hkey, hkeys⟩ := List.forall_mem_cons.mp hkeys
      obtain ⟨hkey', hkeys'⟩ := List.forall_mem_cons.mp hkeys'
      rw [connText_cons, connText_cons] at h
      have hfirst := congrArg (List.takeWhile isKeyChar) h
      have hafter := congrArg (List.dropWhile isKeyChar) h
      rw [(span_key hkey _).2.1, (span_key hkey' _).2.1] at hfirst
      rw [(span_key hkey _).2.2, (span_key hkey' _).2.2] at hafter
      obtain ⟨hvalue, hrest⟩ := escapeChars_append_inj (connRest_blank entries)
        (connRest_blank entries') (List.cons.inj hafter).2
      have htail := congrArg List.tail hrest
      rw [tail_connRest, tail_connRest] at htail
      rw [ih hkeys hkeys' htail, Prod.ext hfirst hvalue]

end Injective

section RoundTrip

variable {params params' : List (String × String)}

def RoundTrips (params : List (String × String)) : Prop :=
  ∃ (found : List (List Char × List Char)),
    parseConnString (connString params).toList = .ok found
      ∧
    ∀ (key value : List Char),
      getConnParam found key = some value ↔ (key, value) ∈ nonEmptyParams params

structure ConnParams (params : List (String × String)) : Prop where
  nodup : (params.map Prod.fst).Nodup
  keys : ∀ kv ∈ params, kv.1 ≠ "" ∧ ∀ c ∈ kv.1.toList, isKeyChar c = true

theorem isKeyChar_connEntries (h : ConnParams params)
    : ∀ entry ∈ connEntries params, ∀ c ∈ entry.1, isKeyChar c = true := by
  intro entry hentry
  obtain ⟨kv, hkv, -, rfl⟩ := mem_connEntries.mp hentry
  exact (h.keys kv hkv).2

theorem roundTrips_of_onlyBlanks (h : ConnParams params)
    (hvalues : ∀ kv ∈ params, OnlyBlanks kv.2.toList) : RoundTrips params := by
  refine ⟨_, parseConnString_connString (fun kv hkv => (h.keys kv hkv).2) hvalues, ?_⟩
  intro key value
  rw [← perm_connEntries.mem_iff]
  exact LibPQ.valueOf_eq_some_iff (nodup_connEntries h.nodup)

/--
All parameters are found, with their quotes. So none is left for a value in quotes, and only such a
value can have other white space than blanks.
-/
theorem onlyBlanks_of_roundTrips (h : ConnParams params) (htrip : RoundTrips params)
    : ∀ kv ∈ params, OnlyBlanks kv.2.toList := by
  obtain ⟨found, hparse, hfound⟩ := htrip
  rw [parseConnString, toList_connString_eq] at hparse
  obtain ⟨-, hblanks⟩ := (blanksEscaped_connText (isKeyChar_connEntries h)).scanConnString hparse
  have hsubset : connEntries params ⊆ found := fun entry hentry =>
    LibPQ.mem_of_valueOf_eq_some ((hfound entry.1 entry.2).mpr (perm_connEntries.mem_iff.mp hentry))
  have hquotes : ((connEntries params).map quotes).sum ≤ (found.map quotes).sum :=
    LibPQ.sum_map_le_of_subset quotes (nodup_connEntries h.nodup).of_map hsubset
  rw [count_connText] at hblanks
  have hblanks := hblanks.resolve_right (by omega)
  intro kv hkv
  by_cases hempty : kv.2 = ""
  . simp [hempty, OnlyBlanks]
  . exact hblanks _ (hsubset (mem_connEntries.mpr ⟨kv, hkv, hempty, rfl⟩))

theorem perm_of_connString_eq (h : ConnParams params) (h' : ConnParams params')
    (hne : ∀ kv ∈ params, kv.2 ≠ "") (hne' : ∀ kv ∈ params', kv.2 ≠ "")
    (heq : connString params = connString params') : params.Perm params' := by
  have htext := congrArg String.toList heq
  rw [toList_connString_eq, toList_connString_eq] at htext
  have hentries := connText_inj (isKeyChar_connEntries h) (isKeyChar_connEntries h') htext
  have hperm : (nonEmptyParams params).Perm (nonEmptyParams params') :=
    perm_connEntries.symm.trans (hentries ▸ perm_connEntries)
  rw [nonEmptyParams, nonEmptyParams, List.filter_eq_self.mpr (by simpa using hne),
    List.filter_eq_self.mpr (by simpa using hne')] at hperm
  refine (List.map_perm_map_iff ?_).mp hperm
  rintro ⟨key, value⟩ ⟨key', value'⟩ heq
  simpa [String.toList_inj] using heq

/--
Parameters are parsed from their connection string exactly if their values have no other white space
than blanks: the parser ends a value at a tab or a newline. Other parameters still have another
connection string.
-/
theorem roundTrips_iff_onlyBlanks (params : List (String × String)) (h : ConnParams params)
    : (RoundTrips params ↔ ∀ kv ∈ params, OnlyBlanks kv.2.toList)
        ∧
      ∀ (params' : List (String × String)), ConnParams params' →
        (∀ kv ∈ params, kv.2 ≠ "") → (∀ kv ∈ params', kv.2 ≠ "") →
        connString params = connString params' → params.Perm params' :=
  ⟨⟨onlyBlanks_of_roundTrips h, roundTrips_of_onlyBlanks h⟩,
    fun _ h' hne hne' => perm_of_connString_eq h h' hne hne'⟩

theorem roundTrips_iff_onlyBlanks_sample : RoundTrips [("user", "it's a \\ user"), ("port", "")] := by
  have hparams : ConnParams [("user", "it's a \\ user"), ("port", "")] := by
    refine ⟨by decide, ?_⟩
    have hall : [("user", "it's a \\ user"), ("port", "")].all (fun kv =>
        kv.1 != "" && kv.1.toList.all isKeyChar) = true := by
      decide +kernel
    intro kv hkv
    simpa using List.all_eq_true.mp hall kv hkv
  refine (roundTrips_iff_onlyBlanks _ hparams).1.mpr ?_
  have hall : [("user", "it's a \\ user"), ("port", "")].all (fun kv =>
      kv.2.toList.all (fun c => !isSpace c || c == ' ')) = true := by
    decide +kernel
  intro kv hkv c hc hspace
  have hc := List.all_eq_true.mp (List.all_eq_true.mp hall kv hkv) c hc
  simpa [hspace] using hc

/--
The text behind a tab is taken for a key without an equals sign.
-/
theorem value_with_tab_not_parsed
    : parseConnString (connString [("user", "a\tb")]).toList = .error (.missingEquals ['b']) := by
  decide +kernel

end RoundTrip

end Postgres
end Hysteron
