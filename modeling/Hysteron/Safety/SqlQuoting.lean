import Hysteron.Postgres.Commands
import Hysteron.Util.PgLexer

/-!
Quoted values in SQL. The lexer of the server reads a quoted literal or identifier as one token with
the value that was quoted, whatever is in it.
-/

namespace Hysteron
namespace Postgres

open PgLexer

variable {standardConforming : Bool} {kind : Kind} {value text rest : List Char}

@[simp]
theorem doubled_nil (c : Char) : doubled c [] = [] := rfl

theorem doubled_cons (c d : Char) (cs : List Char)
    : doubled c (d :: cs) = (if d = c then [c, c] else [d]) ++ doubled c cs := rfl

theorem mem_doubled {c d : Char} : d ∈ doubled c text ↔ d ∈ text := by
  induction text with
  | nil => simp
  | cons e cs ih =>
    rw [doubled_cons, List.mem_append, ih, List.mem_cons]
    split
    next h => simp [h]
    next => simp

/-! ## The body of a literal -/

theorem feed_doubled (hkind : kind ≠ .bits) (hescape : kind = .escape → '\\' ∉ text)
    : feed standardConforming (.literal kind value false) (doubled '\'' text)
        =
      (.literal kind (value ++ text) false, []) := by
  induction text generalizing value with
  | nil => simp [feed]
  | cons c cs ih =>
    have hrest : kind = .escape → '\\' ∉ cs := fun h => fun hc => hescape h (.tail c hc)
    rw [doubled_cons]
    split
    next h =>
      subst h
      rw [List.cons_append, List.singleton_append, feed_quotes hkind, ih hrest]
      simp
    next h =>
      have hplain : kind = .escape → c ≠ '\\' := by
        rintro hkind rfl
        exact hescape hkind (.head cs)
      rw [List.singleton_append, feed_character h hplain, ih hrest]
      simp

theorem feed_doubled_escape
    : feed standardConforming (.literal .escape value false) (doubled '\\' (doubled '\'' text))
        =
      (.literal .escape (value ++ doubled '\\' text) false, []) := by
  induction text generalizing value with
  | nil => simp [feed]
  | cons c cs ih =>
    rw [doubled_cons, doubled_cons]
    by_cases hquote : c = '\''
    . subst hquote
      simp [doubled_cons, feed_quotes, ih]
    . by_cases hescape : c = '\\'
      . subst hescape
        simp [doubled_cons, feed_backslashes, ih]
      . simp [doubled_cons, hquote, hescape, feed_character hquote (fun _ => hescape), ih]

theorem doubled_eq_self {c : Char} (h : c ∉ text) : doubled c text = text := by
  induction text with
  | nil => rfl
  | cons d cs ih =>
    have hd : d ≠ c := fun heq => h (heq ▸ .head cs)
    rw [doubled_cons, if_neg hd, ih (fun hc => h (.tail d hc)), List.singleton_append]

theorem length_le_doubled (c : Char) : text.length ≤ (doubled c text).length := by
  induction text with
  | nil => simp
  | cons d cs ih =>
    rw [doubled_cons, List.length_append, List.length_cons]
    split <;> simp <;> omega

theorem readEscape_backslash : readEscape ('\\' :: rest) = some ('\\', 1) := by
  have hoctal : List.takeWhile isOctal ('\\' :: rest) = [] := List.takeWhile_cons_of_neg (by decide)
  simp [readEscape, hoctal, simpleEscape]

theorem unescapeWith_doubled (fuel : Nat) (h : text.length ≤ fuel)
    : unescapeWith fuel (doubled '\\' text) = some text := by
  induction text generalizing fuel with
  | nil => simp [unescapeWith]
  | cons c cs ih =>
    obtain ⟨fuel, rfl⟩ : ∃ n, fuel = n + 1 := ⟨fuel - 1, by simp at h; omega⟩
    have hread := ih fuel (by simpa using h)
    rw [doubled_cons]
    split
    next hc => simp [unescapeWith, readEscape_backslash, hread, hc]
    next => simp [unescapeWith, hread]

theorem literalToken_doubled : literalToken .escape (doubled '\\' text) = .string text := by
  rw [literalToken, unescape, unescapeWith_doubled _ (length_le_doubled _)]

theorem literalToken_bareKind (h : '\\' ∉ text)
    : literalToken (bareKind standardConforming) text = .string text := by
  cases standardConforming with
  | true => rfl
  | false =>
    calc literalToken .escape text
    _ = literalToken .escape (doubled '\\' text) := by rw [doubled_eq_self h]
    _ = .string text := literalToken_doubled

/-! ## Quoted values alone -/

theorem run_quote
    : run standardConforming .start ('\'' :: rest)
        =
      run standardConforming (.literal (bareKind standardConforming) [] false) rest := rfl

theorem run_escapeQuote
    : run standardConforming .start (' ' :: 'E' :: '\'' :: rest)
        =
      run standardConforming (.literal .escape [] false) rest := rfl

theorem run_doubleQuote
    : run standardConforming .start ('"' :: rest)
        =
      run standardConforming (.identifier false []) rest := rfl

theorem run_literal (hfeed : feed standardConforming (.literal kind [] false) text
      = (.literal kind value false, []))
    (hhead : rest.head? ≠ some '\'') (hrest : continues .space false rest = false)
    : run standardConforming (.literal kind [] false) (text ++ '\'' :: rest)
        =
      literalToken kind value :: run standardConforming .start rest := by
  rw [run_append, hfeed, run_cons]
  exact run_closed hhead hrest

theorem run_quoteLiteral (s : String) (hhead : rest.head? ≠ some '\'')
    (hrest : continues .space false rest = false)
    : run standardConforming .start ((quoteLiteral s).toList ++ rest)
        =
      .string s.toList :: run standardConforming .start rest := by
  unfold quoteLiteral
  dsimp only
  split
  next =>
    simp only [String.toList_ofList, List.cons_append, List.append_assoc, List.nil_append]
    rw [run_escapeQuote, run_literal feed_doubled_escape hhead hrest, List.nil_append,
      literalToken_doubled]
  next h =>
    have hplain : '\\' ∉ s.toList := fun hescape => h (mem_doubled.mpr hescape)
    simp only [String.toList_ofList, List.cons_append, List.append_assoc, List.nil_append]
    have hkind : bareKind standardConforming ≠ .bits := by cases standardConforming <;> decide
    rw [run_quote, run_literal (feed_doubled hkind (fun _ => hplain)) hhead hrest, List.nil_append,
      literalToken_bareKind hplain]

theorem feed_doubled_identifier
    : feed standardConforming (.identifier false value) (doubled '"' text)
        =
      (.identifier false (value ++ text), []) := by
  induction text generalizing value with
  | nil => simp [feed]
  | cons c cs ih =>
    rw [doubled_cons]
    by_cases h : c = '"'
    all_goals simp [h, feed, step, ih]

theorem run_quoteIdentifier (s : String) (hs : s ≠ "") (hhead : rest.head? ≠ some '"')
    : run standardConforming .start ((quoteIdentifier s).toList ++ rest)
        =
      .identifier s.toList :: run standardConforming .start rest := by
  have hne : s.toList ≠ [] := by simpa using hs
  have htoken : identifierToken false s.toList = .identifier s.toList := by
    simp [identifierToken, hne]
  simp only [quoteIdentifier, String.toList_ofList, List.cons_append, List.append_assoc,
    List.nil_append]
  rw [run_doubleQuote, run_append, feed_doubled_identifier, List.nil_append, run_cons, ← htoken]
  exact run_identifierClosed hhead

/-! ## Quoted values in a statement -/

theorem nul_not_mem_quoteLiteral {s : String} (h : '\x00' ∉ s.toList)
    : '\x00' ∉ (quoteLiteral s).toList := by
  unfold quoteLiteral
  dsimp only
  split
  all_goals simp [mem_doubled, h]

theorem nul_not_mem_quoteIdentifier {s : String} (h : '\x00' ∉ s.toList)
    : '\x00' ∉ (quoteIdentifier s).toList := by
  simp [quoteIdentifier, mem_doubled, h]

/--
A complete text that a quoted value may follow: it ends in a blank, a comma or an opening parenthesis
outside of quoted texts and comments.
-/
structure Preceding (standardConforming : Bool) (text : List Char) : Prop where
  nul : '\x00' ∉ text
  separated : ∃ c ∈ [' ', ',', '('], text.getLast? = some c
  complete : inside (feed standardConforming .start text).1 = false

instance : Decidable (Preceding standardConforming text) :=
  decidable_of_iff ('\x00' ∉ text ∧ [' ', ',', '('].any (fun c => text.getLast? = some c) = true
      ∧ inside (feed standardConforming .start text).1 = false)
    ⟨fun h => ⟨h.1, by simpa using h.2.1, h.2.2⟩,
      fun h => ⟨h.nul, by simpa using h.separated, h.complete⟩⟩

theorem Preceding.tokens_eq (h : Preceding standardConforming text) {quoted after : List Char}
    {token : Token} (hnul : '\x00' ∉ quoted)
    (hcontinues : continues .space (continuable (feed standardConforming .start text).1)
      (quoted ++ after.takeWhile (· ≠ '\x00')) = false)
    (hrun : run standardConforming .start (quoted ++ after.takeWhile (· ≠ '\x00'))
      = token :: tokens standardConforming after)
    : tokens standardConforming (text ++ quoted ++ after)
        =
      tokens standardConforming text ++ token :: tokens standardConforming after := by
  have hnul' : '\x00' ∉ text ++ quoted := by simp [h.nul, hnul]
  rw [tokens_append hnul', List.append_assoc,
    run_append_of_boundary h.separated h.complete hcontinues, hrun, tokens_eq_run h.nul]

theorem head?_takeWhile_ne {c : Char} (p : Char → Bool) (h : text.head? ≠ some c)
    : (text.takeWhile p).head? ≠ some c := by
  cases text with
  | nil => simp
  | cons d cs =>
    rw [List.takeWhile_cons]
    split
    next => simpa using h
    next => simp

theorem continues_quoteLiteral (s : String)
    : continues .space false ((quoteLiteral s).toList ++ rest) = false := by
  unfold quoteLiteral
  dsimp only
  split
  all_goals
    simp only [String.toList_ofList, List.cons_append]
    rfl

section Quoted

variable {before after s : String}

theorem tokens_quoteLiteral (hbefore : Preceding standardConforming before.toList)
    (hnul : '\x00' ∉ s.toList)
    (hcontinuable : continuable (feed standardConforming .start before.toList).1 = false)
    (hhead : after.toList.head? ≠ some '\'') (hafter : continues .space false after.toList = false)
    : tokens standardConforming (before ++ quoteLiteral s ++ after).toList
        =
      tokens standardConforming before.toList
        ++ .string s.toList :: tokens standardConforming after.toList := by
  simp only [String.toList_append]
  apply hbefore.tokens_eq (nul_not_mem_quoteLiteral hnul)
  . rw [hcontinuable]
    exact continues_quoteLiteral s
  . exact run_quoteLiteral s (head?_takeWhile_ne _ hhead) (continues_takeWhile _ hafter)

theorem tokens_quoteIdentifier (hbefore : Preceding standardConforming before.toList)
    (hnul : '\x00' ∉ s.toList) (hs : s ≠ "") (hhead : after.toList.head? ≠ some '"')
    : tokens standardConforming (before ++ quoteIdentifier s ++ after).toList
        =
      tokens standardConforming before.toList
        ++ .identifier s.toList :: tokens standardConforming after.toList := by
  simp only [String.toList_append]
  apply hbefore.tokens_eq (nul_not_mem_quoteIdentifier hnul)
  . simp only [quoteIdentifier, String.toList_ofList, List.cons_append]
    simp [continues, isSpace, isNewline]
  . exact run_quoteIdentifier s hs (head?_takeWhile_ne _ hhead)

end Quoted

/--
A quoted value is one token of the statement around it, with the value that was quoted. A literal must
not be continued: neither may the text before it end in a literal and a line break, nor may the text
behind it go on with a line break and a quote.
-/
theorem tokens_quoted (standardConforming : Bool) (before after s : String)
    (hbefore : Preceding standardConforming before.toList) (hnul : '\x00' ∉ s.toList)
    : (continuable (feed standardConforming .start before.toList).1 = false →
        after.toList.head? ≠ some '\'' →
        continues .space false after.toList = false →
        tokens standardConforming (before ++ quoteLiteral s ++ after).toList
            =
          tokens standardConforming before.toList
            ++ .string s.toList :: tokens standardConforming after.toList)
        ∧
      (s ≠ "" →
        after.toList.head? ≠ some '"' →
        tokens standardConforming (before ++ quoteIdentifier s ++ after).toList
            =
          tokens standardConforming before.toList
            ++ .identifier s.toList :: tokens standardConforming after.toList) :=
  ⟨tokens_quoteLiteral hbefore hnul, tokens_quoteIdentifier hbefore hnul⟩

theorem tokens_quoted_sample
    : tokens false ("select pg_drop_replication_slot(" ++ quoteLiteral "a'\\" ++ ")").toList
        =
      tokens false "select pg_drop_replication_slot(".toList
        ++ .string "a'\\".toList :: tokens false ")".toList :=
  (tokens_quoted false "select pg_drop_replication_slot(" ")" "a'\\"
    (by decide +kernel) (by decide +kernel)).1 (by decide +kernel) (by decide +kernel)
    (by decide +kernel)

/--
The server joins a literal with the one on the next line, so a text that does not start with a quote
can change the value.
-/
theorem literal_continued
    : Preceding true "select ".toList
        ∧
      continuable (feed true .start "select ".toList).1 = false
        ∧
      "\n'b'".toList.head? ≠ some '\''
        ∧
      tokens true ("select " ++ quoteLiteral "a" ++ "\n'b'").toList
        =
      [.word "select".toList, .string "ab".toList] := by
  decide +kernel

/-! ## Statements about roles -/

section Roles

variable {keywords options username password : String}

theorem tokens_roleQuery (hkeywords : Preceding standardConforming keywords.toList)
    (hoptions : Preceding standardConforming options.toList)
    (hcontinuable : continuable (feed standardConforming .start options.toList).1 = false)
    (hhead : options.toList.head? = some ' ') (husername : '\x00' ∉ username.toList)
    (hne : username ≠ "") (hpassword : '\x00' ∉ password.toList)
    : tokens standardConforming (roleQuery keywords options username password).toList
        =
      tokens standardConforming keywords.toList
        ++ .identifier username.toList
        :: (tokens standardConforming options.toList ++ [.string password.toList]) := by
  have hend : "".toList.head? ≠ some '\'' := by simp
  have hquoted := tokens_quoteLiteral hoptions hpassword hcontinuable hend rfl
  have hbehind : (options ++ quoteLiteral password).toList.head? ≠ some '"' := by
    simp [List.head?_append, hhead]
  rw [String.append_empty] at hquoted
  rw [roleQuery, String.append_assoc, tokens_quoteIdentifier hkeywords husername hne hbehind, hquoted]
  rfl

def roleTokens (verb : String) (options : List String) (username password : String) : List Token :=
  .word verb.toList :: .word "role".toList :: .identifier username.toList
    :: (options.map (fun option => .word option.toList) ++ [.string password.toList])

/--
Neither the name nor the password of a role changes what the statements about it do.
-/
theorem tokens_role_statements (husername : '\x00' ∉ username.toList) (hne : username ≠ "")
    (hpassword : '\x00' ∉ password.toList)
    : tokens standardConforming (setPasswordQuery username password).toList
          = roleTokens "alter" ["with", "encrypted", "password"] username password
        ∧
      tokens standardConforming (createRoleQuery username password).toList
          = roleTokens "create" ["with", "login", "replication", "encrypted", "password"] username
              password
        ∧
      tokens standardConforming (alterRoleQuery username password).toList
          = roleTokens "alter" ["with", "login", "replication", "encrypted", "password"] username
              password := by
  have hparts : ∀ text ∈ ["alter role ", "create role ", " with encrypted password ",
      " with login replication encrypted password "],
      Preceding standardConforming text.toList
        ∧ continuable (feed standardConforming .start text.toList).1 = false := by
    cases standardConforming <;> decide +kernel
  have hwords : tokens standardConforming "alter role ".toList
          = [.word "alter".toList, .word "role".toList]
        ∧ tokens standardConforming "create role ".toList
          = [.word "create".toList, .word "role".toList]
        ∧ tokens standardConforming " with encrypted password ".toList
          = ["with", "encrypted", "password"].map (fun option => .word option.toList)
        ∧ tokens standardConforming " with login replication encrypted password ".toList
          = ["with", "login", "replication", "encrypted", "password"].map
              (fun option => .word option.toList) := by
    cases standardConforming <;> decide +kernel
  simp only [List.forall_mem_cons, List.not_mem_nil, IsEmpty.forall_iff, implies_true, and_true]
    at hparts
  obtain ⟨⟨halter, -⟩, ⟨hcreate, -⟩, ⟨hset, hset'⟩, ⟨hlogin, hlogin'⟩⟩ := hparts
  obtain ⟨walter, wcreate, wset, wlogin⟩ := hwords
  refine ⟨?_, ?_, ?_⟩
  . rw [setPasswordQuery, tokens_roleQuery halter hset hset' rfl husername hne hpassword, walter, wset]
    rfl
  . rw [createRoleQuery, tokens_roleQuery hcreate hlogin hlogin' rfl husername hne hpassword, wcreate,
      wlogin]
    rfl
  . rw [alterRoleQuery, tokens_roleQuery halter hlogin hlogin' rfl husername hne hpassword, walter,
      wlogin]
    rfl

theorem tokens_role_statements_sample
    : tokens true (setPasswordQuery "re\"pl" "a'; drop role b\\").toList
        =
      roleTokens "alter" ["with", "encrypted", "password"] "re\"pl" "a'; drop role b\\" :=
  (tokens_role_statements (by decide) (by decide) (by decide)).1

end Roles

end Postgres
end Hysteron
