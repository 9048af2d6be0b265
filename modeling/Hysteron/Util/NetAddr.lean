import Mathlib

/-!
Network addresses as Go's packages `net` and `net/netip` read them. An address is its eight groups of
16 bits; an IPv4 address is mapped into the last two.
-/

namespace Hysteron
namespace NetAddr

structure Addr where
  groups : List Nat
  zone : List Char := []
  deriving DecidableEq

def digit (c : Char) : Nat := c.toNat - '0'.toNat

/--
The octets of an IPv4 address. `val` and `digLen` are the value of the current one and its number of
digits.
-/
def parseIPv4Fields : List Char → Nat → Nat → List Nat → Option (List Nat)
  | [], val, _, fields => if fields.length < 3 then none else some (fields ++ [val])
  | c :: cs, val, digLen, fields =>
    if c.isDigit then
      if digLen = 1 ∧ val = 0 then
        none
      else if val * 10 + digit c > 255 then
        none
      else
        parseIPv4Fields cs (val * 10 + digit c) (digLen + 1) fields
    else if c = '.' then
      if digLen = 0 ∨ cs = [] then
        none
      else if fields.length = 3 then
        none
      else
        parseIPv4Fields cs 0 0 (fields ++ [val])
    else
      none

def octetGroups : List Nat → List Nat
  | [a, b, c, d] => [a * 256 + b, c * 256 + d]
  | _ => []

def parseIPv4 (cs : List Char) : Option Addr :=
  (parseIPv4Fields cs 0 0 []).map fun octets =>
    { groups := List.replicate 5 0 ++ 0xffff :: octetGroups octets }

def isHexDigit (c : Char) : Bool :=
  c.isDigit || ('a' ≤ c && c ≤ 'f') || ('A' ≤ c && c ≤ 'F')

def hexDigit (c : Char) : Nat :=
  if c.isDigit then digit c else if 'a' ≤ c then c.toNat - 'a'.toNat + 10 else c.toNat - 'A'.toNat + 10

def hexValue (digits : List Char) : Nat := digits.foldl (fun acc c => acc * 16 + hexDigit c) 0

/--
The groups of an IPv6 address, the position of its ellipsis and what is left of the text. The first
argument is the number of groups that are still to come.
-/
def parseGroups : Nat → List Char → List Nat → Option Nat → Option (List Char × List Nat × Option Nat)
  | 0, cs, groups, ellipsis => some (cs, groups, ellipsis)
  | n + 1, cs, groups, ellipsis =>
    let digits := cs.takeWhile isHexDigit
    if digits.length > 4 ∨ digits = [] then
      none
    else
      let saved := groups ++ [hexValue digits]
      match cs.dropWhile isHexDigit with
      | [] => some ([], saved, ellipsis)
      | '.' :: _ =>
        if (ellipsis = none ∧ groups.length ≠ 6) ∨ groups.length > 6 then
          none
        else
          (parseIPv4Fields cs 0 0 []).map fun octets => ([], groups ++ octetGroups octets, ellipsis)
      | [':'] => none
      | [':', ':'] => if ellipsis.isSome then none else some ([], saved, some saved.length)
      | ':' :: ':' :: rest =>
        if ellipsis.isSome then none else parseGroups n rest saved (some saved.length)
      | ':' :: rest => parseGroups n rest saved ellipsis
      | _ => none

def expandEllipsis (groups : List Nat) : Option Nat → Option (List Nat)
  | none => if groups.length < 8 then none else some groups
  | some e =>
    if groups.length < 8 then
      some (groups.take e ++ List.replicate (8 - groups.length) 0 ++ groups.drop e)
    else
      none

def parseIPv6 (cs : List Char) : Option Addr :=
  let address := cs.takeWhile (· ≠ '%')
  let zone := (cs.dropWhile (· ≠ '%')).tail
  if '%' ∈ cs ∧ zone = [] then
    none
  else
    match address with
    | [':', ':'] => some { groups := List.replicate 8 0, zone }
    | ':' :: ':' :: rest => finish zone (parseGroups 8 rest [] (some 0))
    | address => finish zone (parseGroups 8 address [] none)
where
  finish (zone : List Char) : Option (List Char × List Nat × Option Nat) → Option Addr
    | some ([], groups, ellipsis) =>
      (expandEllipsis groups ellipsis).map fun groups => { groups, zone }
    | _ => none

def parseAddr (cs : List Char) : Option Addr :=
  match cs.find? (fun c => c = '.' || c = ':' || c = '%') with
  | some '.' => parseIPv4 cs
  | some ':' => parseIPv6 cs
  | _ => none

def parseIP (cs : List Char) : Option (List Nat) :=
  match parseAddr cs with
  | some addr => if addr.zone = [] then some addr.groups else none
  | none => none

def joinHostPort (host port : List Char) : List Char :=
  if ':' ∈ host then '[' :: host ++ ']' :: ':' :: port else host ++ ':' :: port

def splitHostPort (cs : List Char) : Option (List Char × List Char) :=
  match cs with
  | '[' :: rest =>
    let host := rest.takeWhile (· ≠ ']')
    match rest.dropWhile (· ≠ ']') with
    | ']' :: ':' :: port =>
      if ':' ∈ port ∨ '[' ∈ host ∨ '[' ∈ port ∨ ']' ∈ port then none else some (host, port)
    | _ => none
  | cs =>
    match cs.splitOn ':' with
    | [host, port] => if '[' ∈ cs ∨ ']' ∈ cs then none else some (host, port)
    | _ => none

def parsePortDigits : List Char → Nat → Option Nat
  | [], n => some n
  | c :: cs, n =>
    if !c.isDigit then
      none
    else if n ≥ 2 ^ 30 then
      some (2 ^ 32 - 1)
    else
      let n := n * 10 % 2 ^ 32
      if n + digit c > 2 ^ 32 - 1 then some (2 ^ 32 - 1) else parsePortDigits cs (n + digit c)

def parsePort : List Char → Option Int
  | [] => some 0
  | '-' :: digits => (parsePortDigits digits 0).map fun (n : Nat) => -((min n (2 ^ 30) : Nat) : Int)
  | '+' :: digits => (parsePortDigits digits 0).map fun (n : Nat) => (min n (2 ^ 30 - 1) : Nat)
  | digits => (parsePortDigits digits 0).map fun (n : Nat) => (min n (2 ^ 30 - 1) : Nat)

def lookupPort (services : List Char → Option Nat) (port : List Char) : Option Nat :=
  match parsePort port with
  | none => services port
  | some n => if 0 > n ∨ n > 65535 then none else some n.toNat

structure TCPAddr where
  ip : List Nat
  port : Nat
  zone : List Char := []
  deriving DecidableEq

def resolveTCPAddr (services : List Char → Option Nat) (dns : List Char → Option Addr)
    (cs : List Char) : Option TCPAddr := do
  let (host, port) ← splitHostPort cs
  let port ← lookupPort services port
  if host = [] then
    return { ip := [], port }
  else
    let addr ← (parseAddr host).or (dns host)
    return { ip := addr.groups, port, zone := addr.zone }

def parseInt32 (cs : List Char) : Option Int :=
  match cs with
  | '-' :: digits => (magnitude digits).bind fun n => if n > 2 ^ 31 then none else some (- (n : Int))
  | '+' :: digits => (magnitude digits).bind fun n => if n ≥ 2 ^ 31 then none else some n
  | digits => (magnitude digits).bind fun n => if n ≥ 2 ^ 31 then none else some n
where
  magnitude (digits : List Char) : Option Nat :=
    if digits = [] ∨ ¬digits.all Char.isDigit then
      none
    else
      some (digits.foldl (fun n c => n * 10 + digit c) 0)

example : parseIP "10.0.0.1".toList = some [0, 0, 0, 0, 0, 0xffff, 0x0a00, 1] := by decide +kernel

example : parseIP "fd00::a:1".toList = some [0xfd00, 0, 0, 0, 0, 0, 0xa, 1] := by decide +kernel

section Literals

variable {cs host port : List Char} {groups : List Nat}

def isAddrChar (c : Char) : Bool := isHexDigit c || c == '.' || c == ':'

theorem isAddrChar_of_isHexDigit {c : Char} (h : isHexDigit c = true) : isAddrChar c = true := by
  simp [isAddrChar, h]

theorem isAddrChar_of_parseIPv4Fields {val digLen : Nat} {fields octets : List Nat}
    (h : parseIPv4Fields cs val digLen fields = some octets) : ∀ c ∈ cs, isAddrChar c = true := by
  fun_induction parseIPv4Fields cs val digLen fields with
  | case1 | case2 => simp
  | case5 c cs val digLen fields hdigit hzero hval ih =>
    exact List.forall_mem_cons.mpr ⟨by simp [isAddrChar, isHexDigit, hdigit], ih h⟩
  | case8 cs val digLen fields hdigit hend hlength ih =>
    exact List.forall_mem_cons.mpr ⟨by decide, ih h⟩
  | case3 | case4 | case6 | case7 | case9 => cases h

theorem forall_mem_of_takeWhile {p q : Char → Bool} (hp : ∀ (c : Char), p c = true → q c = true)
    (h : ∀ c ∈ cs.dropWhile p, q c = true) : ∀ c ∈ cs, q c = true := by
  rw [← List.takeWhile_append_dropWhile (p := p) (l := cs)]
  exact List.forall_mem_append.mpr ⟨fun c hc => hp c (List.mem_takeWhile_imp hc), h⟩

theorem isAddrChar_of_parseGroups {n : Nat} {ellipsis : Option Nat} {found : List Nat × Option Nat}
    (h : parseGroups n cs groups ellipsis = some ([], found)) : ∀ c ∈ cs, isAddrChar c = true := by
  induction n generalizing cs groups ellipsis with
  | zero =>
    cases h
    simp
  | succ n ih =>
    rw [parseGroups] at h
    dsimp only at h
    split at h
    . cases h
    . refine forall_mem_of_takeWhile (fun c => isAddrChar_of_isHexDigit) ?_
      have hcolon : isAddrChar ':' = true := by decide
      split at h
      . next hrest => simp [hrest]
      . next rest hrest =>
        -- The text continues as an IPv4 address.
        split at h
        . cases h
        . obtain ⟨octets, hoctets, -⟩ := Option.map_eq_some_iff.mp h
          exact fun c hc => isAddrChar_of_parseIPv4Fields hoctets c ((List.dropWhile_suffix _).subset hc)
      . cases h
      . next hrest => simp [hrest, hcolon]
      . next rest _ hrest =>
        split at h
        . cases h
        . rw [hrest]
          exact List.forall_mem_cons.mpr ⟨hcolon, List.forall_mem_cons.mpr ⟨hcolon, ih h⟩⟩
      . next rest _ _ hrest =>
        rw [hrest]
        exact List.forall_mem_cons.mpr ⟨hcolon, ih h⟩
      . cases h

theorem isAddrChar_of_finish {zone : List Char} {addr : Addr}
    {found : Option (List Char × List Nat × Option Nat)}
    (h : parseIPv6.finish zone found = some addr)
    : addr.zone = zone ∧ ∃ (rest : List Nat × Option Nat), found = some ([], rest) := by
  unfold parseIPv6.finish at h
  split at h
  . obtain ⟨groups, -, rfl⟩ := Option.map_eq_some_iff.mp h
    exact ⟨rfl, _, rfl⟩
  . cases h

theorem isAddrChar_of_parseIPv6 {addr : Addr} (h : parseIPv6 cs = some addr) (hzone : addr.zone = [])
    : ∀ c ∈ cs, isAddrChar c = true := by
  have hcolon : isAddrChar ':' = true := by decide
  unfold parseIPv6 at h
  dsimp only at h
  split at h
  . cases h
  . next hpercent =>
    -- Without a zone the address is the whole text.
    have haddress (hempty : (cs.dropWhile (· ≠ '%')).tail = []) : cs.takeWhile (· ≠ '%') = cs := by
      rw [List.takeWhile_eq_self_iff]
      intro c hc
      have hnot : '%' ∉ cs := fun hmem => hpercent ⟨hmem, hempty⟩
      simpa using ne_of_mem_of_not_mem hc hnot
    split at h
    . next haddr =>
      cases h
      rw [← haddress hzone, haddr]
      simp [hcolon]
    . next rest _ haddr =>
      obtain ⟨heq, found, hfound⟩ := isAddrChar_of_finish h
      rw [← haddress (heq ▸ hzone), haddr]
      exact List.forall_mem_cons.mpr
        ⟨hcolon, List.forall_mem_cons.mpr ⟨hcolon, isAddrChar_of_parseGroups hfound⟩⟩
    . obtain ⟨heq, found, hfound⟩ := isAddrChar_of_finish h
      rw [← haddress (heq ▸ hzone)]
      exact isAddrChar_of_parseGroups hfound

theorem isAddrChar_of_parseIP (h : parseIP cs = some groups) : ∀ c ∈ cs, isAddrChar c = true := by
  unfold parseIP at h
  split at h
  . next addr haddr =>
    split at h
    . next hzone =>
      unfold parseAddr at haddr
      split at haddr
      . obtain ⟨octets, hoctets, -⟩ := Option.map_eq_some_iff.mp haddr
        exact isAddrChar_of_parseIPv4Fields hoctets
      . exact isAddrChar_of_parseIPv6 haddr hzone
      . cases haddr
    . cases h
  . cases h

theorem ne_nil_of_parseIP (h : parseIP cs = some groups) : cs ≠ [] := by
  rintro rfl
  cases h

theorem splitHostPort_joinHostPort (hhost : ∀ c ∈ host, isAddrChar c = true)
    (hport : ∀ c ∈ port, c ≠ ':' ∧ c ≠ '[' ∧ c ≠ ']')
    : splitHostPort (joinHostPort host port) = some (host, port) := by
  have hplain : ∀ c ∈ host, c ≠ '[' ∧ c ≠ ']' := by
    intro c hc
    have haddr := hhost c hc
    constructor <;> (rintro rfl; revert haddr; decide)
  have hopen : '[' ∉ host := fun hc => (hplain _ hc).1 rfl
  have hclose : ']' ∉ host := fun hc => (hplain _ hc).2 rfl
  have hcolon : ':' ∉ port := fun hc => (hport _ hc).1 rfl
  have hopen' : '[' ∉ port := fun hc => (hport _ hc).2.1 rfl
  have hclose' : ']' ∉ port := fun hc => (hport _ hc).2.2 rfl
  unfold joinHostPort
  split
  . have hinside : ∀ c ∈ host, (decide (c ≠ ']')) = true := by
      intro c hc
      simpa using (hplain c hc).2
    have htake : (host ++ ']' :: ':' :: port).takeWhile (· ≠ ']') = host := by
      rw [List.takeWhile_append_of_pos hinside]
      simp
    have hdrop : (host ++ ']' :: ':' :: port).dropWhile (· ≠ ']') = ']' :: ':' :: port := by
      rw [List.dropWhile_append_of_pos hinside]
      simp
    rw [List.cons_append, splitHostPort]
    simp only [htake, hdrop, hcolon, hopen, hopen', hclose', or_self, if_false]
  . next hhostcolon =>
    have hsplit : (host ++ ':' :: port).splitOn ':' = [host, port] := by
      rw [List.splitOn_append_cons_self_of_not_mem hhostcolon, List.splitOn_eq_singleton hcolon]
    rw [splitHostPort]
    . simp [hsplit, hopen, hopen', hclose, hclose']
    . rintro rest heq
      have hmem : '[' ∈ host ++ ':' :: port := heq ▸ List.mem_cons_self
      simp [hopen, hopen'] at hmem

theorem le_foldl_digits {n : Nat} : n ≤ cs.foldl (fun n c => n * 10 + digit c) n := by
  induction cs generalizing n with
  | nil => exact Nat.le_refl n
  | cons c cs ih =>
    have hle : n * 10 + digit c ≤ cs.foldl (fun n c => n * 10 + digit c) (n * 10 + digit c) := ih
    rw [List.foldl_cons]
    omega

theorem parsePortDigits_eq {n : Nat} (hdigits : cs.all Char.isDigit = true)
    (h : cs.foldl (fun n c => n * 10 + digit c) n ≤ 65535)
    : parsePortDigits cs n = some (cs.foldl (fun n c => n * 10 + digit c) n) := by
  induction cs generalizing n with
  | nil => rfl
  | cons c cs ih =>
    simp only [List.all_cons, Bool.and_eq_true] at hdigits
    rw [List.foldl_cons] at h ⊢
    have hle : n * 10 + digit c ≤ cs.foldl (fun n c => n * 10 + digit c) (n * 10 + digit c) :=
      le_foldl_digits
    have hmod : n * 10 % 2 ^ 32 = n * 10 := Nat.mod_eq_of_lt (by omega)
    rw [parsePortDigits, hdigits.1, ← ih hdigits.2 h]
    simp only [Bool.not_true, Bool.false_eq_true, if_false, hmod]
    rw [if_neg (by omega), if_neg (by omega)]

theorem magnitude_eq_some {m : Nat} (h : parseInt32.magnitude cs = some m)
    : cs ≠ [] ∧ cs.all Char.isDigit = true ∧ cs.foldl (fun n c => n * 10 + digit c) 0 = m := by
  unfold parseInt32.magnitude at h
  split at h
  . cases h
  . next hdigits =>
    obtain ⟨hne, hall⟩ := not_or.mp hdigits
    exact ⟨hne, not_not.mp hall, Option.some.inj h⟩

theorem parseInt32_cases {n : Int} (h : parseInt32 cs = some n) (hlower : 1 ≤ n)
    : ∃ (digits : List Char) (m : Nat),
        (cs = digits ∨ cs = '+' :: digits) ∧ parseInt32.magnitude digits = some m ∧ n = m := by
  unfold parseInt32 at h
  split at h
  . obtain ⟨m, hm, h⟩ := Option.bind_eq_some_iff.mp h
    split at h
    . cases h
    . cases h
      omega
  . next digits =>
    obtain ⟨m, hm, h⟩ := Option.bind_eq_some_iff.mp h
    split at h
    . cases h
    . cases h
      exact ⟨digits, m, .inr rfl, hm, rfl⟩
  . obtain ⟨m, hm, h⟩ := Option.bind_eq_some_iff.mp h
    split at h
    . cases h
    . cases h
      exact ⟨cs, m, .inl rfl, hm, rfl⟩

theorem lookupPort_of_parseInt32 {n : Int} (services : List Char → Option Nat)
    (h : parseInt32 port = some n) (hlower : 1 ≤ n) (hupper : n ≤ 65535)
    : lookupPort services port = some n.toNat := by
  obtain ⟨digits, m, hport, hm, rfl⟩ := parseInt32_cases h hlower
  obtain ⟨hne, hall, rfl⟩ := magnitude_eq_some hm
  have hdigits := parsePortDigits_eq (n := 0) hall (by omega)
  have hparse : parsePort port
      = some ((digits.foldl (fun n c => n * 10 + digit c) 0 : Nat) : Int) := by
    have hcut : min (digits.foldl (fun n c => n * 10 + digit c) 0) (2 ^ 30 - 1)
        = digits.foldl (fun n c => n * 10 + digit c) 0 := Nat.min_eq_left (by omega)
    obtain rfl | rfl := hport
    . rw [parsePort]
      . rw [hdigits, Option.map_some, hcut]
      . exact fun heq => hne heq
      . rintro rest rfl
        simp at hall
      . rintro rest rfl
        simp at hall
    . rw [parsePort, hdigits, Option.map_some, hcut]
  rw [lookupPort, hparse]
  exact if_neg (by omega)

theorem port_chars_of_parseInt32 {n : Int} (h : parseInt32 port = some n) (hlower : 1 ≤ n)
    : ∀ c ∈ port, c ≠ ':' ∧ c ≠ '[' ∧ c ≠ ']' := by
  obtain ⟨digits, m, hport, hm, rfl⟩ := parseInt32_cases h hlower
  obtain ⟨-, hall, -⟩ := magnitude_eq_some hm
  have hdigits : ∀ c ∈ digits, c ≠ ':' ∧ c ≠ '[' ∧ c ≠ ']' := by
    intro c hc
    have hdigit := List.all_eq_true.mp hall c hc
    refine ⟨?_, ?_, ?_⟩ <;> (rintro rfl; revert hdigit; decide)
  obtain rfl | rfl := hport
  . exact hdigits
  . exact List.forall_mem_cons.mpr ⟨by decide, hdigits⟩

theorem parseAddr_of_parseIP (h : parseIP cs = some groups) : parseAddr cs = some { groups } := by
  unfold parseIP at h
  split at h
  . next addr haddr =>
    split at h
    . next hzone =>
      cases h
      rw [haddr, ← hzone]
    . cases h
  . cases h

theorem resolveTCPAddr_joinHostPort {n : Int} (services : List Char → Option Nat)
    (dns : List Char → Option Addr) (hhost : parseIP host = some groups)
    (hport : parseInt32 port = some n) (hlower : 1 ≤ n) (hupper : n ≤ 65535)
    : resolveTCPAddr services dns (joinHostPort host port)
        =
      some { ip := groups, port := n.toNat } := by
  have hsplit := splitHostPort_joinHostPort (isAddrChar_of_parseIP hhost)
    (port_chars_of_parseInt32 hport hlower)
  have hlookup := lookupPort_of_parseInt32 services hport hlower hupper
  simp [resolveTCPAddr, hsplit, hlookup, ne_nil_of_parseIP hhost, parseAddr_of_parseIP hhost]

end Literals

end NetAddr
end Hysteron
