import Mathlib

/-!
How PostgreSQL reads a line of `pg_hba.conf`: fields of tokens, and the record that they make.
-/

namespace Hysteron
namespace PgHba

structure Token where
  string : List Char
  quoted : Bool := false
  deriving DecidableEq

def isBlank (c : Char) : Bool := c == ' ' || c == '\t' || c == '\r'

structure Scan where
  buf : List Char := []
  initialQuote : Bool := false
  sawQuote : Bool := false
  terminatingComma : Bool := false
  rest : List Char := []

def scanToken (inQuote wasQuote : Bool) (scan : Scan) : List Char → Scan
  | [] => scan
  | c :: cs =>
    if isBlank c && !inQuote then
      { scan with rest := c :: cs }
    else if c == '#' && !inQuote then
      scan
    else if c == ',' && !inQuote then
      { scan with terminatingComma := true, rest := c :: cs }
    else
      let buf := if c != '"' || wasQuote then scan.buf ++ [c] else scan.buf
      let wasQuote := inQuote && c == '"' && !wasQuote
      if c == '"' then
        scanToken (!inQuote) wasQuote
          { scan with buf, sawQuote := true, initialQuote := scan.initialQuote || buf.isEmpty } cs
      else
        scanToken inQuote wasQuote { scan with buf } cs

def nextToken (cs : List Char) : Scan :=
  scanToken false false {} (cs.dropWhile (fun c => isBlank c || c == ','))

/--
The tokens of a field, which are separated by commas, and what follows it. `none` is the name of a
file to be included. Every token takes at least one character.
-/
def nextField : Nat → List Char → Option (List Token × List Char)
  | 0, cs => some ([], cs)
  | rounds + 1, cs =>
    let scan := nextToken cs
    if !scan.sawQuote && scan.buf.isEmpty then
      some ([], scan.rest)
    else if !scan.initialQuote && scan.buf.length > 1 && scan.buf.head? == some '@' then
      none
    else
      let token := { string := scan.buf, quoted := scan.initialQuote }
      if scan.terminatingComma then
        (nextField rounds scan.rest).map fun (tokens, rest) => (token :: tokens, rest)
      else
        some ([token], scan.rest)

def readFields : Nat → List Char → Option (List (List Token))
  | 0, _ => some []
  | rounds + 1, cs =>
    match cs with
    | [] => some []
    | cs =>
      match nextField (cs.length + 1) cs with
      | none => none
      | some (field, rest) =>
        (readFields rounds rest).map fun fields => if field.isEmpty then fields else field :: fields

def tokenizeLine (cs : List Char) : Option (List (List Token)) := readFields (cs.length + 1) cs

inductive IP where
  | v4 (bits : BitVec 32)
  | v6 (bits : BitVec 128)
  deriving DecidableEq

structure Network where
  ip : IP
  length : Nat
  deriving DecidableEq

def Network.contains (network : Network) : IP → Prop
  | .v4 bits =>
    match network.ip with
    | .v4 own => bits >>> (32 - network.length) = own >>> (32 - network.length)
    | .v6 _ => False
  | .v6 bits =>
    match network.ip with
    | .v4 _ => False
    | .v6 own => bits >>> (128 - network.length) = own >>> (128 - network.length)

inductive Address where
  | all
  | samehost
  | samenet
  | network (network : Network)
  | hostname (name : List Char)
  deriving DecidableEq

inductive ConnType where
  | localSocket
  | host
  deriving DecidableEq

structure Record where
  connType : ConnType
  databases : List Token
  users : List Token
  address : Option Address
  method : String
  deriving DecidableEq

def readLength (limit : Nat) (cs : List Char) : Option Nat :=
  if cs = [] ∨ ¬cs.all Char.isDigit then
    none
  else
    let n := cs.foldl (fun n c => n * 10 + (c.toNat - '0'.toNat)) 0
    if n > limit then none else some n

def readAddress (numericHost : List Char → Option IP) (token : Token) : Option Address :=
  if !token.quoted && token.string == "all".toList then
    some .all
  else if !token.quoted && token.string == "samehost".toList then
    some .samehost
  else if !token.quoted && token.string == "samenet".toList then
    some .samenet
  else
    let host := token.string.takeWhile (· ≠ '/')
    match numericHost host, token.string.dropWhile (· ≠ '/') with
    | some (.v4 bits), '/' :: mask =>
      (readLength 32 mask).map fun length => .network { ip := .v4 bits, length }
    | some (.v6 bits), '/' :: mask =>
      (readLength 128 mask).map fun length => .network { ip := .v6 bits, length }
    -- A mask in a field of its own is not used here.
    | some _, _ => none
    | none, [] => some (.hostname host)
    | none, _ => none

/--
The methods that need no options and are there on every platform.
-/
def methods : List String := ["trust", "reject", "md5", "password", "scram-sha-256"]

def readMethod (token : Token) : Option String :=
  methods.find? (fun method => method.toList == token.string)

def readRecord (numericHost : List Char → Option IP) : List (List Token) → Option Record
  | [[connType], databases, users, [method]] =>
    if connType.string = "local".toList then
      (readMethod method).map fun method =>
        { connType := .localSocket, databases, users, address := none, method }
    else
      none
  | [[connType], databases, users, [address], [method]] =>
    if connType.string = "host".toList then
      (readAddress numericHost address).bind fun address =>
        (readMethod method).map fun method =>
          { connType := .host, databases, users, address := some address, method }
    else
      none
  | _ => none

def readLine (numericHost : List Char → Option IP) (cs : List Char) : Option Record :=
  (tokenizeLine cs).bind (readRecord numericHost)

section Words

variable {word rest : List Char} {words : List (List Char)}

def isWordChar (c : Char) : Bool := !isBlank c && c != ',' && c != '#' && c != '"'

structure IsWord (word : List Char) : Prop where
  nonempty : word ≠ []
  chars : ∀ c ∈ word, isWordChar c = true
  file : word.head? ≠ some '@'

def joinWords (words : List (List Char)) : List Char := words.flatMap (fun word => ' ' :: word)

theorem scanToken_word (scan : Scan) (h : ∀ c ∈ word, isWordChar c = true)
    : scanToken false false scan (word ++ rest)
        =
      scanToken false false { scan with buf := scan.buf ++ word } rest := by
  induction word generalizing scan with
  | nil => simp
  | cons c word ih =>
    obtain ⟨hc, hword⟩ := List.forall_mem_cons.mp h
    simp only [isWordChar, Bool.and_eq_true, Bool.not_eq_true', bne_iff_ne] at hc
    obtain ⟨⟨⟨hblank, hcomma⟩, hcomment⟩, hquote⟩ := hc
    rw [List.cons_append, scanToken]
    simp [hblank, hcomma, hcomment, hquote, ih _ hword]

theorem scanToken_end (scan : Scan) (words : List (List Char)) (hrest : scan.rest = [])
    : scanToken false false scan (joinWords words) = { scan with rest := joinWords words } := by
  cases words with
  | nil =>
    cases scan
    cases hrest
    rfl
  | cons word words => rfl

theorem nextField_word (h : IsWord word) (words : List (List Char)) (n : Nat)
    : nextField (n + 1) (word ++ joinWords words) = some ([{ string := word }], joinWords words) := by
  have hskip : (word ++ joinWords words).dropWhile (fun c => isBlank c || c == ',')
      = word ++ joinWords words := by
    obtain ⟨c, word, rfl⟩ := List.exists_cons_of_ne_nil h.nonempty
    have hc := h.chars c List.mem_cons_self
    simp only [isWordChar, Bool.and_eq_true, Bool.not_eq_true', bne_iff_ne] at hc
    simp [hc.1.1.1, hc.1.1.2]
  have hscan : nextToken (word ++ joinWords words)
      = { buf := word, rest := joinWords words } := by
    rw [nextToken, hskip, scanToken_word _ h.chars, scanToken_end _ _ rfl]
    rfl
  rw [nextField, hscan]
  simp [h.nonempty, h.file]

theorem nextField_space (cs : List Char) (n : Nat)
    : nextField (n + 1) (' ' :: cs) = nextField (n + 1) cs := by
  have hskip : nextToken (' ' :: cs) = nextToken cs := rfl
  rw [nextField, nextField, hskip]

theorem readFields_word (hword : IsWord word) (n : Nat)
    : readFields (n + 1) (word ++ joinWords words)
        =
      (readFields n (joinWords words)).map ([{ string := word }] :: ·) := by
  rw [readFields]
  . rw [nextField_word hword]
    simp
  . simp [hword.nonempty]

theorem readFields_joinWords (h : ∀ word ∈ words, IsWord word) (n : Nat) (hn : words.length < n)
    : readFields n (joinWords words) = some (words.map (fun word => [{ string := word }])) := by
  induction words generalizing n with
  | nil => cases n <;> rfl
  | cons word words ih =>
    obtain ⟨hword, hwords⟩ := List.forall_mem_cons.mp h
    rw [List.length_cons] at hn
    match n with
    | n + 1 =>
      have hjoin : joinWords (word :: words) = ' ' :: (word ++ joinWords words) := rfl
      rw [hjoin, readFields]
      . rw [List.length_cons, nextField_space, nextField_word hword]
        simp [ih hwords n (by omega)]
      . simp

theorem length_le_joinWords (words : List (List Char)) : words.length ≤ (joinWords words).length := by
  induction words with
  | nil => exact Nat.zero_le _
  | cons word words ih =>
    have hjoin : joinWords (word :: words) = ' ' :: (word ++ joinWords words) := rfl
    rw [hjoin, List.length_cons, List.length_cons, List.length_append]
    omega

theorem tokenizeLine_words (hword : IsWord word) (h : ∀ word ∈ words, IsWord word)
    : tokenizeLine (word ++ joinWords words)
        =
      some ((word :: words).map (fun word => [{ string := word }])) := by
  have hle := length_le_joinWords words
  have hpos := List.length_pos_of_ne_nil hword.nonempty
  rw [tokenizeLine, readFields_word hword, readFields_joinWords h _ (by simp; omega)]
  rfl

instance : Decidable (IsWord word) :=
  decidable_of_iff (word ≠ [] ∧ word.all isWordChar = true ∧ word.head? ≠ some '@')
    ⟨fun ⟨h, h', h''⟩ => ⟨h, List.all_eq_true.mp h', h''⟩,
      fun ⟨h, h', h''⟩ => ⟨h, List.all_eq_true.mpr h', h''⟩⟩

theorem isWord_local : IsWord "local".toList := by decide +kernel

theorem isWord_host : IsWord "host".toList := by decide +kernel

section Record

variable {numericHost : List Char → Option IP} {database user address method : List Char}

theorem readLine_local (hdatabase : IsWord database) (huser : IsWord user) (hmethod : IsWord method)
    : readLine numericHost ("local".toList ++ joinWords [database, user, method])
        =
      (readMethod { string := method }).map fun method =>
        {
          connType := .localSocket
          databases := [{ string := database }]
          users := [{ string := user }]
          address := none
          method
        } := by
  have hwords : ∀ word ∈ [database, user, method], IsWord word := by
    simp [hdatabase, huser, hmethod]
  rw [readLine, tokenizeLine_words isWord_local hwords]
  rfl

theorem readLine_host (hdatabase : IsWord database) (huser : IsWord user)
    (haddress : IsWord address) (hmethod : IsWord method)
    : readLine numericHost ("host".toList ++ joinWords [database, user, address, method])
        =
      (readAddress numericHost { string := address }).bind fun address =>
        (readMethod { string := method }).map fun method =>
          {
            connType := .host
            databases := [{ string := database }]
            users := [{ string := user }]
            address := some address
            method
          } := by
  have hwords : ∀ word ∈ [database, user, address, method], IsWord word := by
    simp [hdatabase, huser, haddress, hmethod]
  rw [readLine, tokenizeLine_words isWord_host hwords]
  rfl

end Record

end Words

end PgHba
end Hysteron
