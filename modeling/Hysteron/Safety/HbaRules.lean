import Hysteron.Keeper.Settings
import Hysteron.Util.NetAddr
import Hysteron.Util.PgHba

/-!
What PostgreSQL reads from the `pg_hba` rules that the keeper generates.
-/

namespace Hysteron
namespace Keeper

open PgHba (Token IsWord joinWords)

section Rules

variable {numericHost : List Char → Option PgHba.IP} {cfg : Config} {cd : ClusterData} {db : DB}
  {onlyInternal : Bool}

structure RoleName (name : String) : Prop where
  word : IsWord name.toList
  keyword : name ≠ "all"
  group : name.toList.head? ≠ some '+'
  regex : name.toList.head? ≠ some '/'

instance {name : String} : Decidable (RoleName name) :=
  decidable_of_iff (IsWord name.toList ∧ name ≠ "all" ∧ name.toList.head? ≠ some '+'
      ∧ name.toList.head? ≠ some '/')
    ⟨fun ⟨hword, hall, hgroup, hregex⟩ => ⟨hword, hall, hgroup, hregex⟩,
      fun ⟨hword, hall, hgroup, hregex⟩ => ⟨hword, hall, hgroup, hregex⟩⟩

def configuredMethods : List String := ["md5", "scram-sha-256", "trust"]

def token (name : String) : Token := { string := name.toList }

def suppliedRules (db : DB) (onlyInternal : Bool) : List String :=
  if onlyInternal then [] else db.spec.pgHBA.getD []

def clientRules (cfg : Config) (db : DB) (onlyInternal : Bool) : List String :=
  if onlyInternal || db.spec.pgHBA.isSome then [] else userRules cfg db

theorem generateHBA_eq_ok_iff {rules : List String}
    : generateHBA cfg cd db onlyInternal = .ok rules
        ↔
      ∃ (host : List String),
        hostRules cfg cd db = .ok host
          ∧
        rules = localRules cfg ++ host ++ clientRules cfg db onlyInternal
          ++ suppliedRules db onlyInternal := by
  have hlast (host : List String)
      : localRules cfg ++ host ++ clientRules cfg db onlyInternal ++ suppliedRules db onlyInternal
        = if onlyInternal then localRules cfg ++ host else
          localRules cfg ++ host ++ userRules cfg db := by
    cases onlyInternal with
    | true => simp [clientRules, suppliedRules]
    | false =>
      cases hsupplied : db.spec.pgHBA with
      | none => simp [clientRules, suppliedRules, hsupplied]
      | some supplied => simp [clientRules, suppliedRules, userRules, hsupplied]
  constructor
  . intro h
    obtain ⟨host, hhost, hrules⟩ := Except.bind_eq_ok_iff.mp h
    cases hrules
    exact ⟨host, hhost, (hlast host).symm⟩
  . rintro ⟨host, hhost, rfl⟩
    rw [hlast, generateHBA, hhost]
    rfl

def IsV4 : PgHba.IP → Prop
  | .v4 _ => True
  | .v6 _ => False

def IsFamily (admits : PgHba.IP → Prop) : Prop :=
  (∀ (client : PgHba.IP), admits client ↔ IsV4 client)
    ∨
  ∀ (client : PgHba.IP), admits client ↔ ¬IsV4 client

/--
The hosts that a rule has to admit: in the strict mode one other instance with a known address, and
otherwise all hosts of one family.
-/
def IntendedHosts (numericHost : List Char → Option PgHba.IP) (cd : ClusterData) (db : DB)
    (users : List Token) (admits : PgHba.IP → Prop) : Prop :=
  if cd.cluster.defSpec.defaultSUReplAccessMode = .strict ∧ users ≠ [token "all"] then
    ∃ (dbUID : String) (other : DB) (ip : PgHba.IP),
      cd.dbs[dbUID]? = some other
        ∧
      other.uid ≠ db.uid
        ∧
      numericHost other.status.listenAddress.toList = some ip
        ∧
      ∀ (client : PgHba.IP), admits client ↔ client = ip
  else
    IsFamily admits

structure SoundRecord (numericHost : List Char → Option PgHba.IP) (cfg : Config) (cd : ClusterData)
    (db : DB) (onlyInternal : Bool) (record : PgHba.Record) : Prop where
  address : record.connType = .host →
    ∃ (network : PgHba.Network),
      record.address = some (.network network)
        ∧
      IntendedHosts numericHost cd db record.users network.contains
  superuser : record.users = [token cfg.pgSUUsername] →
    record.databases ≠ [token "replication"] → record.method = cfg.pgSUAuthMethod
  replication : record.databases = [token "replication"] →
    record.users = [token cfg.pgReplUsername] ∧ record.method = cfg.pgReplAuthMethod
  users : onlyInternal = true →
    record.users = [token cfg.pgSUUsername] ∨ record.users = [token cfg.pgReplUsername]

def namesSuperuser (pgSUUsername rule : String) : Bool :=
  (rule.toList.splitOn ' ')[1]? ≠ some "replication".toList
    && (rule.toList.splitOn ' ')[2]? = some pgSUUsername.toList

def HbaSound (numericHost : List Char → Option PgHba.IP) (cfg : Config) (cd : ClusterData) (db : DB)
    (onlyInternal : Bool) : Prop :=
  ∀ (rules : List String), generateHBA cfg cd db onlyInternal = .ok rules →
    ∃ (generated : List String),
      rules = generated ++ suppliedRules db onlyInternal
        ∧
      (∀ rule ∈ generated, ∃ (record : PgHba.Record),
        PgHba.readLine numericHost rule.toList = some record
          ∧
        SoundRecord numericHost cfg cd db onlyInternal record)
        ∧
      ∀ (method : String) (generated' : List String),
        method ∈ configuredMethods →
        generateHBA { cfg with pgReplAuthMethod := method } cd db onlyInternal
          = .ok (generated' ++ suppliedRules db onlyInternal) →
        generated'.filter (namesSuperuser cfg.pgSUUsername)
          = generated.filter (namesSuperuser cfg.pgSUUsername)

def NoStrictPeers (cd : ClusterData) (db : DB) : Prop :=
  cd.cluster.defSpec.defaultSUReplAccessMode = .strict →
  isMaster db = .ok true →
  ∀ (dbUID : String) (other : DB), cd.dbs[dbUID]? = some other → other.uid = db.uid

section Lines

variable {address method : String}

theorem host_words (first database user address method : List Char)
    : (first ++ ' ' :: database ++ [' ']) ++ user ++ [' '] ++ address ++ [' '] ++ method
        =
      first ++ joinWords [database, user, address, method] := by
  simp [joinWords]

theorem local_words (first database user method : List Char)
    : (first ++ ' ' :: database ++ [' ']) ++ user ++ [' '] ++ method
        =
      first ++ joinWords [database, user, method] := by
  simp [joinWords]

def everywhere : List String := ["0.0.0.0/0", "::0/0"]

theorem ruleHeads
    : "host all ".toList = "host".toList ++ ' ' :: "all".toList ++ [' ']
        ∧
      "host replication ".toList = "host".toList ++ ' ' :: "replication".toList ++ [' ']
        ∧
      "local postgres ".toList = "local".toList ++ ' ' :: "postgres".toList ++ [' ']
        ∧
      "local replication ".toList = "local".toList ++ ' ' :: "replication".toList ++ [' ']
        ∧
      "host all all 0.0.0.0/0 " = "host all " ++ "all" ++ " " ++ "0.0.0.0/0" ++ " "
        ∧
      "host all all ::0/0 " = "host all " ++ "all" ++ " " ++ "::0/0" ++ " " := by
  decide +kernel

theorem ruleWords
    : (∀ database ∈ ["all", "postgres", "replication"], IsWord database.toList)
        ∧
      (∀ database ∈ ["all", "postgres"], database.toList ≠ "replication".toList)
        ∧
      (∀ address ∈ everywhere, IsWord address.toList)
        ∧
      ∀ method ∈ configuredMethods,
        IsWord method.toList ∧ PgHba.readMethod { string := method.toList } = some method := by
  decide +kernel

theorem toList_suRule
    : (suRule cfg address method).toList
        =
      "host".toList
        ++ joinWords ["all".toList, cfg.pgSUUsername.toList, address.toList, method.toList] := by
  have hspace : " ".toList = [' '] := rfl
  unfold suRule
  rw [String.toList_append, String.toList_append, String.toList_append, String.toList_append,
    String.toList_append, ruleHeads.1, hspace, host_words]

theorem toList_replRule
    : (replRule cfg address method).toList
        =
      "host".toList
        ++ joinWords
          ["replication".toList, cfg.pgReplUsername.toList, address.toList, method.toList] := by
  have hspace : " ".toList = [' '] := rfl
  unfold replRule
  rw [String.toList_append, String.toList_append, String.toList_append, String.toList_append,
    String.toList_append, ruleHeads.2.1, hspace, host_words]

def localSURule (cfg : Config) : String :=
  "local postgres " ++ cfg.pgSUUsername ++ " " ++ cfg.pgSUAuthMethod

def localReplRule (cfg : Config) : String :=
  "local replication " ++ cfg.pgReplUsername ++ " " ++ cfg.pgReplAuthMethod

theorem localRules_eq : localRules cfg = [localSURule cfg, localReplRule cfg] := rfl

theorem toList_localSURule
    : (localSURule cfg).toList
        =
      "local".toList
        ++ joinWords ["postgres".toList, cfg.pgSUUsername.toList, cfg.pgSUAuthMethod.toList] := by
  have hspace : " ".toList = [' '] := rfl
  unfold localSURule
  rw [String.toList_append, String.toList_append, String.toList_append, ruleHeads.2.2.1, hspace,
    local_words]

theorem toList_localReplRule
    : (localReplRule cfg).toList
        =
      "local".toList
        ++ joinWords
          ["replication".toList, cfg.pgReplUsername.toList, cfg.pgReplAuthMethod.toList] := by
  have hspace : " ".toList = [' '] := rfl
  unfold localReplRule
  rw [String.toList_append, String.toList_append, String.toList_append, ruleHeads.2.2.2.1, hspace,
    local_words]

theorem mem_clientRules {rule : String} (h : rule ∈ clientRules cfg db onlyInternal)
    : onlyInternal = false
        ∧
      ∃ address ∈ everywhere, ∃ method ∈ configuredMethods,
        rule = suRule { cfg with pgSUUsername := "all" } address method := by
  unfold clientRules at h
  split at h
  . cases h
  . next hclient =>
    simp only [Bool.or_eq_true, not_or, Bool.not_eq_true, Option.isSome_eq_false_iff,
      Option.isNone_iff_eq_none] at hclient
    refine ⟨hclient.1, ?_⟩
    have hv4 (method : String) : "host all all 0.0.0.0/0 " ++ method
        = suRule { cfg with pgSUUsername := "all" } "0.0.0.0/0" method := by
      rw [ruleHeads.2.2.2.2.1]
      rfl
    have hv6 (method : String) : "host all all ::0/0 " ++ method
        = suRule { cfg with pgSUUsername := "all" } "::0/0" method := by
      rw [ruleHeads.2.2.2.2.2]
      rfl
    unfold userRules at h
    rw [hclient.2] at h
    simp only [hv4, hv6, List.mem_cons, List.not_mem_nil, or_false] at h
    have hmethod : (if cfg.pgSUAuthMethod = "scram-sha-256" ∨ cfg.pgReplAuthMethod = "scram-sha-256"
        then "scram-sha-256" else "md5") ∈ configuredMethods := by
      split <;> simp [configuredMethods]
    obtain rfl | rfl := h
    . exact ⟨_, by simp [everywhere], _, hmethod, rfl⟩
    . exact ⟨_, by simp [everywhere], _, hmethod, rfl⟩

theorem splitOn_joinWords {word word' word'' : List Char} {words : List (List Char)}
    (hword : ' ' ∉ word) (hword' : ' ' ∉ word') (hword'' : ' ' ∉ word'') (hwords : words ≠ [])
    : ((word ++ joinWords (word' :: word'' :: words)).splitOn ' ')[1]? = some word'
        ∧
      ((word ++ joinWords (word' :: word'' :: words)).splitOn ' ')[2]? = some word'' := by
  obtain ⟨last, words, rfl⟩ := List.exists_cons_of_ne_nil hwords
  have hjoin : word ++ joinWords (word' :: word'' :: last :: words)
      = word ++ ' ' :: (word' ++ ' ' :: (word'' ++ ' ' :: (last ++ joinWords words))) := by
    simp [joinWords]
  rw [hjoin, List.splitOn_append_cons_self_of_not_mem hword,
    List.splitOn_append_cons_self_of_not_mem hword',
    List.splitOn_append_cons_self_of_not_mem hword'']
  exact ⟨rfl, rfl⟩

theorem not_mem_of_isWord {word : List Char} (h : IsWord word) : ' ' ∉ word :=
  fun hmem => absurd (h.chars ' ' hmem) (by decide)

theorem isWord_of_mem_configuredMethods (h : method ∈ configuredMethods) : IsWord method.toList :=
  (ruleWords.2.2.2 method h).1

theorem readMethod_of_mem_configuredMethods (h : method ∈ configuredMethods)
    : PgHba.readMethod { string := method.toList } = some method :=
  (ruleWords.2.2.2 method h).2

theorem isWord_database : ∀ database ∈ ["all", "postgres", "replication"],
    IsWord database.toList :=
  ruleWords.1

theorem database_ne_replication : ∀ database ∈ ["all", "postgres"],
    database.toList ≠ "replication".toList :=
  ruleWords.2.1

end Lines

section Sound

variable {method : String}

theorem namesSuperuser_words {name rule : String} {word word' word'' : List Char}
    {words : List (List Char)} (hrule : rule.toList = word ++ joinWords (word' :: word'' :: words))
    (hword : IsWord word) (hword' : IsWord word') (hword'' : IsWord word'') (hwords : words ≠ [])
    : namesSuperuser name rule
        =
      (word' ≠ "replication".toList && word'' = name.toList) := by
  obtain ⟨hfirst, hsecond⟩ := splitOn_joinWords (not_mem_of_isWord hword) (not_mem_of_isWord hword')
    (not_mem_of_isWord hword'') hwords
  rw [namesSuperuser, hrule, hfirst, hsecond]
  generalize "replication".toList = replication
  simp

theorem namesSuperuser_suRule (hsu : RoleName cfg.pgSUUsername) (address method : String)
    : namesSuperuser cfg.pgSUUsername (suRule cfg address method) = true := by
  rw [namesSuperuser_words toList_suRule PgHba.isWord_host (isWord_database "all" (by simp)) hsu.word
    (by simp)]
  have hne := database_ne_replication "all" (by simp)
  exact Bool.and_eq_true_iff.mpr ⟨decide_eq_true hne, decide_eq_true rfl⟩

theorem namesSuperuser_localSURule (hsu : RoleName cfg.pgSUUsername)
    : namesSuperuser cfg.pgSUUsername (localSURule cfg) = true := by
  rw [namesSuperuser_words toList_localSURule PgHba.isWord_local
    (isWord_database "postgres" (by simp)) hsu.word (by simp)]
  have hne := database_ne_replication "postgres" (by simp)
  exact Bool.and_eq_true_iff.mpr ⟨decide_eq_true hne, decide_eq_true rfl⟩

theorem namesSuperuser_replRule (hrepl : RoleName cfg.pgReplUsername) (name address : String)
    : namesSuperuser name (replRule cfg address method) = false := by
  rw [namesSuperuser_words toList_replRule PgHba.isWord_host
    (isWord_database "replication" (by simp)) hrepl.word (by simp)]
  rw [decide_eq_false (not_not.mpr rfl), Bool.false_and]

theorem namesSuperuser_localReplRule (hrepl : RoleName cfg.pgReplUsername) (name : String)
    : namesSuperuser name (localReplRule cfg) = false := by
  rw [namesSuperuser_words toList_localReplRule PgHba.isWord_local
    (isWord_database "replication" (by simp)) hrepl.word (by simp)]
  rw [decide_eq_false (not_not.mpr rfl), Bool.false_and]

theorem namesSuperuser_clientRule {name : String} (hname : RoleName name) (address : String)
    : namesSuperuser name (suRule { cfg with pgSUUsername := "all" } address method) = false := by
  rw [namesSuperuser_words toList_suRule PgHba.isWord_host (isWord_database "all" (by simp))
    (isWord_database "all" (by simp)) (by simp)]
  have hne : "all".toList ≠ name.toList :=
    fun heq => hname.keyword (String.toList_inj.mp heq).symm
  rw [decide_eq_false hne, Bool.and_false]

theorem filter_namesSuperuser (cfg : Config) (db : DB) (onlyInternal : Bool) (host : List String)
    (hsu : RoleName cfg.pgSUUsername) (hrepl : RoleName cfg.pgReplUsername)
    : (localRules cfg ++ host ++ clientRules cfg db onlyInternal).filter
          (namesSuperuser cfg.pgSUUsername)
        =
      localSURule cfg :: host.filter (namesSuperuser cfg.pgSUUsername) := by
  have hclient : (clientRules cfg db onlyInternal).filter (namesSuperuser cfg.pgSUUsername) = [] := by
    rw [List.filter_eq_nil_iff]
    intro rule hrule
    obtain ⟨-, address, -, method, -, rfl⟩ := mem_clientRules hrule
    rw [namesSuperuser_clientRule hsu]
    exact Bool.false_ne_true
  rw [List.filter_append, List.filter_append, hclient, localRules_eq,
    List.filter_cons_of_pos (namesSuperuser_localSURule hsu),
    List.filter_cons_of_neg (by rw [namesSuperuser_localReplRule hrepl]; exact Bool.false_ne_true)]
  simp

theorem everywhere_parts
    : (∀ address ∈ everywhere, ∀ keyword ∈ ["all", "samehost", "samenet"],
        (address.toList == keyword.toList) = false)
        ∧
      ("0.0.0.0/0".toList.takeWhile (· ≠ '/') = "0.0.0.0".toList
        ∧
      "0.0.0.0/0".toList.dropWhile (· ≠ '/') = ['/', '0'])
        ∧
      ("::0/0".toList.takeWhile (· ≠ '/') = "::0".toList
        ∧
      "::0/0".toList.dropWhile (· ≠ '/') = ['/', '0']) := by
  decide +kernel

theorem readAddress_everywhere (hv4 : numericHost "0.0.0.0".toList = some (.v4 0))
    (hv6 : numericHost "::0".toList = some (.v6 0)) {address : String} (h : address ∈ everywhere)
    : ∃ (network : PgHba.Network),
        PgHba.readAddress numericHost { string := address.toList } = some (.network network)
          ∧
        IsFamily network.contains := by
  obtain ⟨hkeyword, ⟨hhost, hlength⟩, ⟨hhost', hlength'⟩⟩ := everywhere_parts
  have hkeyword := hkeyword address h
  simp only [List.forall_mem_cons, List.not_mem_nil, false_imp_iff, implies_true, and_true]
    at hkeyword
  simp only [PgHba.readAddress, hkeyword, Bool.and_false, Bool.false_eq_true, if_false]
  simp only [everywhere, List.mem_cons, List.not_mem_nil, or_false] at h
  obtain rfl | rfl := h
  . refine ⟨{ ip := .v4 0, length := 0 }, ?_, .inl fun client => ?_⟩
    . rw [hhost, hlength, hv4]
      rfl
    . cases client with
      | v4 bits => simp [PgHba.Network.contains, IsV4, BitVec.ushiftRight_eq_zero]
      | v6 bits => simp [PgHba.Network.contains, IsV4]
  . refine ⟨{ ip := .v6 0, length := 0 }, ?_, .inr fun client => ?_⟩
    . rw [hhost', hlength', hv6]
      rfl
    . cases client with
      | v4 bits => simp [PgHba.Network.contains, IsV4]
      | v6 bits => simp [PgHba.Network.contains, IsV4, BitVec.ushiftRight_eq_zero]

theorem readLine_everywhere (hv4 : numericHost "0.0.0.0".toList = some (.v4 0))
    (hv6 : numericHost "::0".toList = some (.v6 0)) {address : String} (haddress : address ∈ everywhere)
    {database user : List Char} (hdatabase : IsWord database) (huser : IsWord user)
    (hmethod : method ∈ configuredMethods)
    : ∃ (network : PgHba.Network),
        PgHba.readLine numericHost
            ("host".toList ++ joinWords [database, user, address.toList, method.toList])
          = some {
            connType := .host
            databases := [{ string := database }]
            users := [{ string := user }]
            address := some (.network network)
            method
          }
          ∧
        IsFamily network.contains := by
  obtain ⟨network, hread, hfamily⟩ := readAddress_everywhere hv4 hv6 haddress
  refine ⟨network, ?_, hfamily⟩
  rw [PgHba.readLine_host hdatabase huser (ruleWords.2.2.1 address haddress)
    (isWord_of_mem_configuredMethods hmethod), hread, Option.bind_some,
    readMethod_of_mem_configuredMethods hmethod, Option.map_some]

theorem mem_otherAddresses {address : String}
    : address ∈ otherAddresses cd db
        ↔
      ∃ (dbUID : String) (other : DB),
        cd.dbs[dbUID]? = some other
          ∧
        other.uid ≠ db.uid
          ∧
        other.status.listenAddress = address := by
  simp only [otherAddresses, Slices.mem_sortStrings, List.mem_map, List.mem_filter,
    FinMap.mem_values, decide_eq_true_eq]
  constructor
  . rintro ⟨other, ⟨⟨dbUID, hother⟩, hne⟩, heq⟩
    exact ⟨dbUID, other, hother, hne, heq⟩
  . rintro ⟨dbUID, other, hother, hne, heq⟩
    exact ⟨other, ⟨⟨dbUID, hother⟩, hne⟩, heq⟩

theorem hostRules_eq {host : List String} (hpeers : NoStrictPeers cd db)
    (h : hostRules cfg cd db = .ok host)
    : host
        =
      if cd.cluster.defSpec.defaultSUReplAccessMode = .all then
        everywhere.map (suRule cfg · cfg.pgSUAuthMethod)
          ++ everywhere.map (replRule cfg · cfg.pgReplAuthMethod)
      else
        [] := by
  unfold hostRules at h
  split at h
  . next hmode =>
    cases h
    rw [if_pos hmode]
    rfl
  . next hmode =>
    rw [if_neg (by simp [hmode])]
    obtain ⟨master, hmaster, h⟩ := Except.bind_eq_ok_iff.mp h
    split at h
    . next htrue =>
      subst htrue
      cases h
      have hothers : otherAddresses cd db = [] := by
        rw [List.eq_nil_iff_forall_not_mem]
        intro address haddress
        obtain ⟨dbUID, other, hother, hne, -⟩ := mem_otherAddresses.mp haddress
        exact hne (hpeers hmode hmaster dbUID other hother)
      rw [hothers, List.flatMap_nil]
    . cases h
      rfl
  . next hmode =>
    cases h
    rw [if_neg (by simp [hmode])]

theorem filter_everywhere (cfg : Config) (hsu : RoleName cfg.pgSUUsername)
    (hrepl : RoleName cfg.pgReplUsername)
    : (everywhere.map (suRule cfg · cfg.pgSUAuthMethod)
          ++ everywhere.map (replRule cfg · cfg.pgReplAuthMethod)).filter
          (namesSuperuser cfg.pgSUUsername)
        =
      everywhere.map (suRule cfg · cfg.pgSUAuthMethod) := by
  rw [List.filter_append, List.filter_eq_self.mpr, List.filter_eq_nil_iff.mpr, List.append_nil]
  . intro rule hrule
    obtain ⟨address, -, rfl⟩ := List.mem_map.mp hrule
    rw [namesSuperuser_replRule hrepl]
    exact Bool.false_ne_true
  . intro rule hrule
    obtain ⟨address, -, rfl⟩ := List.mem_map.mp hrule
    exact namesSuperuser_suRule hsu address _

theorem token_ne_replication {database : String} (h : database ∈ ["all", "postgres"])
    : [token database] ≠ [token "replication"] := by
  intro heq
  exact database_ne_replication database h (congrArg Token.string (List.head_eq_of_cons_eq heq))

theorem soundRecord_suRule (hmode : cd.cluster.defSpec.defaultSUReplAccessMode = .all)
    (hv4 : numericHost "0.0.0.0".toList = some (.v4 0))
    (hv6 : numericHost "::0".toList = some (.v6 0)) (hsu : RoleName cfg.pgSUUsername)
    (hsuMethod : cfg.pgSUAuthMethod ∈ configuredMethods) {address : String}
    (haddress : address ∈ everywhere)
    : ∃ (record : PgHba.Record),
        PgHba.readLine numericHost (suRule cfg address cfg.pgSUAuthMethod).toList = some record
          ∧
        SoundRecord numericHost cfg cd db onlyInternal record := by
  obtain ⟨network, hread, hfamily⟩ := readLine_everywhere hv4 hv6 haddress
    (isWord_database "all" (by simp)) hsu.word hsuMethod
  rw [toList_suRule]
  refine ⟨_, hread, fun _ => ⟨network, rfl, ?_⟩, fun _ _ => rfl, fun h => ?_, fun _ => .inl rfl⟩
  . rw [IntendedHosts, if_neg (by simp [hmode])]
    exact hfamily
  . exact absurd h (token_ne_replication (by simp))

theorem soundRecord_replRule (hmode : cd.cluster.defSpec.defaultSUReplAccessMode = .all)
    (hv4 : numericHost "0.0.0.0".toList = some (.v4 0))
    (hv6 : numericHost "::0".toList = some (.v6 0)) (hrepl : RoleName cfg.pgReplUsername)
    (hreplMethod : cfg.pgReplAuthMethod ∈ configuredMethods) {address : String}
    (haddress : address ∈ everywhere)
    : ∃ (record : PgHba.Record),
        PgHba.readLine numericHost (replRule cfg address cfg.pgReplAuthMethod).toList = some record
          ∧
        SoundRecord numericHost cfg cd db onlyInternal record := by
  obtain ⟨network, hread, hfamily⟩ := readLine_everywhere hv4 hv6 haddress
    (isWord_database "replication" (by simp)) hrepl.word hreplMethod
  rw [toList_replRule]
  refine ⟨_, hread, fun _ => ⟨network, rfl, ?_⟩, fun _ h => absurd rfl h, fun _ => ⟨rfl, rfl⟩,
    fun _ => .inr rfl⟩
  rw [IntendedHosts, if_neg (by simp [hmode])]
  exact hfamily

theorem soundRecord_clientRule (hv4 : numericHost "0.0.0.0".toList = some (.v4 0))
    (hv6 : numericHost "::0".toList = some (.v6 0)) (hsu : RoleName cfg.pgSUUsername)
    (hmethod : method ∈ configuredMethods) {address : String}
    (haddress : address ∈ everywhere)
    : ∃ (record : PgHba.Record),
        PgHba.readLine numericHost
            (suRule { cfg with pgSUUsername := "all" } address method).toList = some record
          ∧
        SoundRecord numericHost cfg cd db false record := by
  obtain ⟨network, hread, hfamily⟩ := readLine_everywhere hv4 hv6 haddress
    (isWord_database "all" (by simp)) (isWord_database "all" (by simp)) hmethod
  rw [toList_suRule]
  refine ⟨_, hread, fun _ => ⟨network, rfl, ?_⟩, fun h => ?_, fun h => ?_, nofun⟩
  . rw [IntendedHosts, if_neg (fun h => h.2 rfl)]
    exact hfamily
  . have heq : "all".toList = cfg.pgSUUsername.toList := by
      simpa [token] using h
    exact absurd (String.toList_inj.mp heq).symm hsu.keyword
  . exact absurd h (token_ne_replication (by simp))

theorem soundRecord_localSURule (hsu : RoleName cfg.pgSUUsername)
    (hsuMethod : cfg.pgSUAuthMethod ∈ configuredMethods)
    : ∃ (record : PgHba.Record),
        PgHba.readLine numericHost (localSURule cfg).toList = some record
          ∧
        SoundRecord numericHost cfg cd db onlyInternal record := by
  rw [toList_localSURule, PgHba.readLine_local (isWord_database "postgres" (by simp)) hsu.word
    (isWord_of_mem_configuredMethods hsuMethod), readMethod_of_mem_configuredMethods hsuMethod,
    Option.map_some]
  refine ⟨_, rfl, nofun, fun _ _ => rfl, fun h => ?_, fun _ => .inl rfl⟩
  exact absurd h (token_ne_replication (by simp))

theorem soundRecord_localReplRule (hrepl : RoleName cfg.pgReplUsername)
    (hreplMethod : cfg.pgReplAuthMethod ∈ configuredMethods)
    : ∃ (record : PgHba.Record),
        PgHba.readLine numericHost (localReplRule cfg).toList = some record
          ∧
        SoundRecord numericHost cfg cd db onlyInternal record := by
  rw [toList_localReplRule, PgHba.readLine_local (isWord_database "replication" (by simp))
    hrepl.word (isWord_of_mem_configuredMethods hreplMethod),
    readMethod_of_mem_configuredMethods hreplMethod, Option.map_some]
  exact ⟨_, rfl, nofun, fun _ h => absurd rfl h, fun _ => ⟨rfl, rfl⟩, fun _ => .inr rfl⟩

end Sound

theorem hbaSound_of_noStrictPeers (hv4 : numericHost "0.0.0.0".toList = some (.v4 0))
    (hv6 : numericHost "::0".toList = some (.v6 0))
    (hsu : RoleName cfg.pgSUUsername) (hrepl : RoleName cfg.pgReplUsername)
    (hsuMethod : cfg.pgSUAuthMethod ∈ configuredMethods)
    (hreplMethod : cfg.pgReplAuthMethod ∈ configuredMethods) (hpeers : NoStrictPeers cd db)
    : HbaSound numericHost cfg cd db onlyInternal := by
  intro rules hrules
  obtain ⟨host, hhost, rfl⟩ := generateHBA_eq_ok_iff.mp hrules
  refine ⟨_, rfl, fun rule hrule => ?_, fun method generated' hmethod hgenerated' => ?_⟩
  . obtain hrule | hrule := List.mem_append.mp hrule
    . obtain hrule | hrule := List.mem_append.mp hrule
      . simp only [localRules_eq, List.mem_cons, List.not_mem_nil, or_false] at hrule
        obtain rfl | rfl := hrule
        . exact soundRecord_localSURule hsu hsuMethod
        . exact soundRecord_localReplRule hrepl hreplMethod
      . rw [hostRules_eq hpeers hhost] at hrule
        split at hrule
        . next hmode =>
          obtain hrule | hrule := List.mem_append.mp hrule
          . obtain ⟨address, haddress, rfl⟩ := List.mem_map.mp hrule
            exact soundRecord_suRule hmode hv4 hv6 hsu hsuMethod haddress
          . obtain ⟨address, haddress, rfl⟩ := List.mem_map.mp hrule
            exact soundRecord_replRule hmode hv4 hv6 hrepl hreplMethod haddress
        . cases hrule
    . obtain ⟨rfl, address, haddress, method, hmethod, rfl⟩ := mem_clientRules hrule
      exact soundRecord_clientRule hv4 hv6 hsu hmethod haddress
  . obtain ⟨host', hhost', heq⟩ := generateHBA_eq_ok_iff.mp hgenerated'
    cases List.append_cancel_right heq
    have hfilter := filter_namesSuperuser cfg db onlyInternal host hsu hrepl
    have hfilter' := filter_namesSuperuser { cfg with pgReplAuthMethod := method } db onlyInternal
      host' hsu hrepl
    refine hfilter'.trans (Eq.trans ?_ hfilter.symm)
    rw [hostRules_eq hpeers hhost, hostRules_eq hpeers hhost']
    split
    . exact congrArg (localSURule cfg :: ·)
        ((filter_everywhere { cfg with pgReplAuthMethod := method } hsu hrepl).trans
          (filter_everywhere cfg hsu hrepl).symm)
    . rfl

def strictRules (cfg : Config) (cd : ClusterData) (db : DB) : List String :=
  (otherAddresses cd db).flatMap fun address => [
    suRule cfg (address ++ "/32") cfg.pgReplAuthMethod,
    replRule cfg (address ++ "/32") cfg.pgReplAuthMethod
  ]

theorem exists_other_method {method : String} (h : method ∈ configuredMethods)
    : ∃ method' ∈ configuredMethods, method'.toList.getLast? ≠ method.toList.getLast? := by
  have hall : ∀ method ∈ configuredMethods, ∃ method' ∈ configuredMethods,
      method'.toList.getLast? ≠ method.toList.getLast? := by
    decide +kernel
  exact hall method h

theorem getLast?_strictRules (cfg : Config) {rule : String}
    (hmethod : cfg.pgReplAuthMethod ∈ configuredMethods)
    (h : rule ∈ strictRules cfg cd db)
    : rule.toList.getLast? = cfg.pgReplAuthMethod.toList.getLast? := by
  obtain ⟨c, hc⟩ := Option.isSome_iff_exists.mp
    (List.getLast?_isSome.mpr (isWord_of_mem_configuredMethods hmethod).nonempty)
  have hends (text : String) : (text ++ cfg.pgReplAuthMethod).toList.getLast?
      = cfg.pgReplAuthMethod.toList.getLast? := by
    rw [String.toList_append, List.getLast?_append, hc, Option.some_or]
  obtain ⟨address, -, hrule⟩ := List.mem_flatMap.mp h
  simp only [List.mem_cons, List.not_mem_nil, or_false] at hrule
  obtain rfl | rfl := hrule
  . exact hends _
  . exact hends _

theorem noStrictPeers_of_hbaSound
    (hsu : RoleName cfg.pgSUUsername) (hrepl : RoleName cfg.pgReplUsername)
    (hreplMethod : cfg.pgReplAuthMethod ∈ configuredMethods)
    (h : HbaSound numericHost cfg cd db onlyInternal)
    : NoStrictPeers cd db := by
  intro hmode hmaster dbUID other hother
  by_contra hne
  have hhost (cfg : Config) : hostRules cfg cd db = .ok (strictRules cfg cd db) := by
    rw [hostRules, hmode, hmaster]
    rfl
  obtain ⟨method, hmethod, hlast⟩ := exists_other_method hreplMethod
  obtain ⟨generated, hgenerated, -, hindependent⟩ :=
    h _ (generateHBA_eq_ok_iff.mpr ⟨_, hhost cfg, rfl⟩)
  cases List.append_cancel_right hgenerated
  have heq := hindependent method _ hmethod (generateHBA_eq_ok_iff.mpr ⟨_, hhost _, rfl⟩)
  -- The rule for the superuser from the other instance changes with the method.
  have hrule : suRule cfg (other.status.listenAddress ++ "/32") cfg.pgReplAuthMethod
      ∈ strictRules cfg cd db :=
    List.mem_flatMap.mpr
      ⟨_, mem_otherAddresses.mpr ⟨dbUID, other, hother, hne, rfl⟩, List.mem_cons_self⟩
  have hnames := namesSuperuser_suRule hsu (other.status.listenAddress ++ "/32")
    cfg.pgReplAuthMethod
  have hmem := List.mem_filter.mpr ⟨hrule, hnames⟩
  have hfilter := filter_namesSuperuser cfg db onlyInternal (strictRules cfg cd db) hsu hrepl
  have hfilter' := filter_namesSuperuser { cfg with pgReplAuthMethod := method } db onlyInternal
    (strictRules { cfg with pgReplAuthMethod := method } cd db) hsu hrepl
  have hsame := (hfilter.symm.trans heq.symm).trans hfilter'
  have hmem' := hsame ▸ List.mem_cons_of_mem (localSURule cfg) hmem
  obtain hlocal | hmem' := List.mem_cons.mp hmem'
  . have hfirst : (suRule cfg (other.status.listenAddress ++ "/32")
        cfg.pgReplAuthMethod).toList.head? = some 'h' := by
      rw [toList_suRule]
      rfl
    rw [hlocal, toList_localSURule] at hfirst
    cases hfirst
  . have hends := getLast?_strictRules { cfg with pgReplAuthMethod := method } hmethod
      (List.mem_of_mem_filter hmem')
    exact hlast (hends.symm.trans (getLast?_strictRules cfg hreplMethod hrule))

/--
The generated rules are sound exactly if there are no rules for single instances: those for the
superuser have the method for replication, and their address is not always that of one host.
-/
theorem hbaSound_iff (numericHost : List Char → Option PgHba.IP)
    (hv4 : numericHost "0.0.0.0".toList = some (.v4 0))
    (hv6 : numericHost "::0".toList = some (.v6 0))
    (cfg : Config) (hsu : RoleName cfg.pgSUUsername) (hrepl : RoleName cfg.pgReplUsername)
    (hsuMethod : cfg.pgSUAuthMethod ∈ configuredMethods)
    (hreplMethod : cfg.pgReplAuthMethod ∈ configuredMethods)
    (cd : ClusterData) (db : DB) (onlyInternal : Bool)
    : HbaSound numericHost cfg cd db onlyInternal ↔ NoStrictPeers cd db :=
  ⟨noStrictPeers_of_hbaSound hsu hrepl hreplMethod,
    hbaSound_of_noStrictPeers hv4 hv6 hsu hrepl hsuMethod hreplMethod⟩

def numericIP (cs : List Char) : Option PgHba.IP :=
  (NetAddr.parseIP cs).map fun groups =>
    if ':' ∈ cs then
      .v6 (BitVec.ofNat 128 (groups.foldl (fun n group => n * 2 ^ 16 + group) 0))
    else
      .v4 (BitVec.ofNat 32 ((groups.drop 6).foldl (fun n group => n * 2 ^ 16 + group) 0))

def sampleHbaConfig : Config where
  pgListenAddress := "10.0.0.1"
  pgPort := "5432"
  pgReplAuthMethod := "trust"
  pgReplUsername := "repl"
  pgSUAuthMethod := "md5"
  pgSUUsername := "postgres"

def sampleHbaDB (uid listenAddress : String) (role : Role) : DB where
  uid
  generation := 1
  spec := { keeperUID := uid, initMode := .none, role }
  status := { listenAddress }

def sampleHbaCluster (mode : SUReplAccessMode) : ClusterData where
  formatVersion := currentCDFormatVersion
  cluster := newCluster "cluster" { defaultSUReplAccessMode := some mode }
  keepers := ∅
  dbs := (((∅ : FinMap String DB).insert "db1" (sampleHbaDB "db1" "10.0.0.1" .master)).insert "db2"
    (sampleHbaDB "db2" "fd00::2" .standby)).insert "db3" (sampleHbaDB "db3" "" .standby)
  proxy := {}

theorem roleName_sampleHbaConfig
    : RoleName sampleHbaConfig.pgSUUsername ∧ RoleName sampleHbaConfig.pgReplUsername := by
  decide +kernel

theorem hbaSound_iff_sample
    : (RoleName sampleHbaConfig.pgSUUsername ∧ RoleName sampleHbaConfig.pgReplUsername)
        ∧
      HbaSound numericIP sampleHbaConfig (sampleHbaCluster .all)
        (sampleHbaDB "db1" "10.0.0.1" .master) true := by
  refine ⟨roleName_sampleHbaConfig, (hbaSound_iff numericIP ?_ ?_ sampleHbaConfig
    roleName_sampleHbaConfig.1 roleName_sampleHbaConfig.2 ?_ ?_ _ _ _).mpr ?_⟩
  . decide +kernel
  . decide +kernel
  . decide +kernel
  . decide +kernel
  . exact fun hmode => absurd hmode (by decide +kernel)

def sampleStrictRules : List String := [
  "local postgres postgres md5",
  "local replication repl trust",
  "host all postgres /32 trust",
  "host replication repl /32 trust",
  "host all postgres fd00::2/32 trust",
  "host replication repl fd00::2/32 trust"
]

/--
In the strict mode one address is missing, and the other admits a network of hosts. The method of
the superuser is not its own.
-/
theorem strict_rules_unsound
    : (generateHBA sampleHbaConfig (sampleHbaCluster .strict)
          (sampleHbaDB "db1" "10.0.0.1" .master) true).toOption = some sampleStrictRules
        ∧
      PgHba.readLine numericIP "host all postgres /32 trust".toList = none
        ∧
      (PgHba.readLine numericIP "host all postgres fd00::2/32 trust".toList).bind
          PgHba.Record.address
        = some (.network { ip := .v6 0xfd000000000000000000000000000002, length := 32 })
        ∧
      ¬HbaSound numericIP sampleHbaConfig (sampleHbaCluster .strict)
        (sampleHbaDB "db1" "10.0.0.1" .master) true := by
  have hrules : (generateHBA sampleHbaConfig (sampleHbaCluster .strict)
      (sampleHbaDB "db1" "10.0.0.1" .master) true).toOption = some sampleStrictRules := by
    decide +kernel
  have hread : PgHba.readLine numericIP "host all postgres /32 trust".toList = none
      ∧ (PgHba.readLine numericIP "host all postgres fd00::2/32 trust".toList).bind
          PgHba.Record.address
        = some (.network { ip := .v6 0xfd000000000000000000000000000002, length := 32 }) := by
    decide +kernel
  refine ⟨hrules, hread.1, hread.2, fun h => ?_⟩
  obtain ⟨generated, hgenerated, hsound, -⟩ := h sampleStrictRules (by
    revert hrules
    cases generateHBA sampleHbaConfig (sampleHbaCluster .strict)
      (sampleHbaDB "db1" "10.0.0.1" .master) true with
    | ok rules => exact fun hrules => congrArg Except.ok (Option.some.inj hrules)
    | error e => exact nofun)
  have hmem : "host all postgres /32 trust" ∈ generated := by
    have heq : generated = sampleStrictRules := by simpa [suppliedRules] using hgenerated.symm
    rw [heq, sampleStrictRules]
    simp
  obtain ⟨record, hrecord, -⟩ := hsound _ hmem
  rw [hread.1] at hrecord
  cases hrecord

end Rules

end Keeper
end Hysteron
