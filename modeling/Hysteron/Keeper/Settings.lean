import Hysteron.Cluster.Validate
import Hysteron.Cluster.Timeline
import Hysteron.Util.Except

/-!
What a keeper computes for its PostgreSQL instance from the cluster data: the `pg_hba` rules, the
parameters, the recovery options, and whether `pg_rewind` may be tried.
-/

namespace Hysteron
namespace Keeper

inductive Exit where
  | returned
  | panicked
  deriving DecidableEq, Repr

structure Config where
  pgListenAddress : String
  pgPort : String
  pgReplAuthMethod : String
  pgReplUsername : String
  pgReplPassword : String := ""
  pgSUAuthMethod : String
  pgSUUsername : String
  pgSUPassword : String := ""

def isMaster (db : DB) : Except Exit Bool :=
  match db.spec.role with
  | .master => .ok true
  | .standby =>
    match db.spec.followConfig with
    | none => .error .panicked
    | some followConfig => .ok (decide (followConfig.type = .external))
  | .undefined => .error .panicked

def localRules (cfg : Config) : List String := [
  "local postgres " ++ cfg.pgSUUsername ++ " " ++ cfg.pgSUAuthMethod,
  "local replication " ++ cfg.pgReplUsername ++ " " ++ cfg.pgReplAuthMethod
]

def suRule (cfg : Config) (address method : String) : String :=
  "host all " ++ cfg.pgSUUsername ++ " " ++ address ++ " " ++ method

def replRule (cfg : Config) (address method : String) : String :=
  "host replication " ++ cfg.pgReplUsername ++ " " ++ address ++ " " ++ method

/--
The addresses of the other databases. They are sorted, so the order of the loop plays no role.
-/
def otherAddresses (cd : ClusterData) (db : DB) : List String :=
  let others := (FinMap.values cd.dbs).filter (fun dbElt => dbElt.uid ≠ db.uid)
  Slices.sortStrings (others.map (fun dbElt => dbElt.status.listenAddress))

def hostRules (cfg : Config) (cd : ClusterData) (db : DB) : Except Exit (List String) :=
  match cd.cluster.defSpec.defaultSUReplAccessMode with
  | .all => .ok [
      suRule cfg "0.0.0.0/0" cfg.pgSUAuthMethod,
      suRule cfg "::0/0" cfg.pgSUAuthMethod,
      replRule cfg "0.0.0.0/0" cfg.pgReplAuthMethod,
      replRule cfg "::0/0" cfg.pgReplAuthMethod
    ]
  | .strict => do
    -- Only the master accepts connections, and only from the other instances.
    if ← isMaster db then
      return (otherAddresses cd db).flatMap fun address => [
        suRule cfg (address ++ "/32") cfg.pgReplAuthMethod,
        replRule cfg (address ++ "/32") cfg.pgReplAuthMethod
      ]
    else
      return []
  | .unknown _ => .ok []

def userRules (cfg : Config) (db : DB) : List String :=
  let defaultClientAuthMethod :=
    if cfg.pgSUAuthMethod = "scram-sha-256" ∨ cfg.pgReplAuthMethod = "scram-sha-256" then
      "scram-sha-256"
    else
      "md5"
  match db.spec.pgHBA with
  | some pgHBA => pgHBA
  | none => [
      "host all all 0.0.0.0/0 " ++ defaultClientAuthMethod,
      "host all all ::0/0 " ++ defaultClientAuthMethod
    ]

def generateHBA (cfg : Config) (cd : ClusterData) (db : DB) (onlyInternal : Bool)
    : Except Exit (List String) := do
  let internal := localRules cfg ++ (← hostRules cfg cd db)
  return if onlyInternal then internal else internal ++ userRules cfg db

def InternalRule (cfg : Config) (rule : String) : Prop :=
  rule ∈ localRules cfg
    ∨
  ∃ (address method : String), rule = suRule cfg address method ∨ rule = replRule cfg address method

theorem internalRule_of_mem_hostRules {cfg : Config} {cd : ClusterData} {db : DB}
    {rules : List String} (h : hostRules cfg cd db = .ok rules)
    : ∀ rule ∈ rules, InternalRule cfg rule := by
  intro rule hrule
  unfold hostRules at h
  split at h
  . cases h
    simp only [List.mem_cons, List.not_mem_nil, or_false] at hrule
    rcases hrule with rfl | rfl | rfl | rfl
    . exact .inr ⟨_, _, .inl rfl⟩
    . exact .inr ⟨_, _, .inl rfl⟩
    . exact .inr ⟨_, _, .inr rfl⟩
    . exact .inr ⟨_, _, .inr rfl⟩
  . obtain ⟨master, -, h⟩ := Except.bind_eq_ok_iff.mp h
    split at h
    . cases h
      obtain ⟨address, -, hrule⟩ := List.mem_flatMap.mp hrule
      simp only [List.mem_cons, List.not_mem_nil, or_false] at hrule
      rcases hrule with rfl | rfl
      . exact .inr ⟨_, _, .inl rfl⟩
      . exact .inr ⟨_, _, .inr rfl⟩
    . cases h
      cases hrule
  . cases h
    cases hrule

theorem internalRule_of_mem_generateHBA {cfg : Config} {cd : ClusterData} {db : DB}
    {rules : List String} (h : generateHBA cfg cd db true = .ok rules)
    : ∀ rule ∈ rules, InternalRule cfg rule := by
  obtain ⟨host, hhost, hrules⟩ := Except.bind_eq_ok_iff.mp h
  cases hrules
  intro rule hrule
  cases List.mem_append.mp hrule with
  | inl hlocal => exact .inl hlocal
  | inr hmem => exact internalRule_of_mem_hostRules hhost rule hmem

def decimal (digits : List Char) : Option Nat :=
  if digits.isEmpty || !digits.all Char.isDigit then
    none
  else
    some (digits.foldl (fun n c => 10 * n + (c.toNat - '0'.toNat)) 0)

def atoi (s : String) : Option Int :=
  let signed (n : Int) : Option Int := if n = int64 n then some n else none
  match s.toList with
  | '-' :: digits => (decimal digits).bind (fun n => signed (- n))
  | '+' :: digits => (decimal digits).bind (fun n => signed n)
  | digits => (decimal digits).bind (fun n => signed n)

/--
Parse a size as PostgreSQL writes it. A number without a unit counts megabytes, and the product wraps
around.
-/
def parsePostgreSQLBytes (value : String) : Option UInt64 := do
  let trimmed := (ClusterSpec.trimSpace value).toList
  let n ← decimal (trimmed.takeWhile Char.isDigit)
  if 2 ^ 64 ≤ n then
    none
  else
    let n := UInt64.ofNat n
    let unit := ClusterSpec.trimSpace (String.ofList (trimmed.dropWhile Char.isDigit))
    match unit.map Char.toUpper with
    | "" => some (n * 1024 * 1024)
    | "B" => some n
    | "KB" => some (n * 1024)
    | "MB" => some (n * 1024 * 1024)
    | "GB" => some (n * 1024 * 1024 * 1024)
    | "TB" => some (n * 1024 * 1024 * 1024 * 1024)
    | _ => none

def minWalKeepSegments : Int := 8

def specParameter (db : DB) (name : String) : Option String :=
  db.spec.pgParameters.bind (fun pgParameters => pgParameters[name]?)

def walLevel (db : DB) : String :=
  if specParameter db "wal_level" = some "logical" then "logical" else "replica"

def walKeepSegments (db : DB) : Int :=
  match (specParameter db "wal_keep_segments").bind atoi with
  | some configuredWalKeepSegments => max configuredWalKeepSegments minWalKeepSegments
  | none => minWalKeepSegments

def walKeepSize (db : DB) : String :=
  let minMiB : UInt64 := 8 * UInt64.ofNat (walSegSize / (1024 * 1024))
  let defaultWalKeepSize := toString minMiB ++ "MB"
  match specParameter db "wal_keep_size" with
  | none => defaultWalKeepSize
  | some v =>
    match parsePostgreSQLBytes v with
    | none => defaultWalKeepSize
    | some sizeBytes =>
      if sizeBytes < minMiB * 1024 * 1024 then defaultWalKeepSize else ClusterSpec.trimSpace v

/--
What the keeper reads elsewhere when it computes the parameters: the major version of the binaries and
the parameters of the state that it has published last.
-/
structure Readings where
  binaryVersion : Option Int
  lastPGParameters : Option PGParameters

def copyParameters (dst src : PGParameters) : PGParameters :=
  src.foldl (fun parameters k v => parameters.insert k v) dst

def mandatoryPGParameters (readings : Readings) (db : DB) : PGParameters :=
  let params := (((∅ : PGParameters).insert "unix_socket_directories" "/tmp").insert
    "wal_level" (walLevel db)).insert "hot_standby" "on"
  match readings.binaryVersion with
  | none => params
  | some majorVersion =>
    if 13 ≤ majorVersion then
      params.insert "wal_keep_size" (walKeepSize db)
    else
      params.insert "wal_keep_segments" (toString (walKeepSegments db))

def currentPGParameterInt (readings : Readings) (name : String) : Option Int := do
  let raw ← (← readings.lastPGParameters)[name]?
  if raw = "" then none else atoi raw

def atLeastCurrent (readings : Readings) (name : String) (desired : Int) : String :=
  match currentPGParameterInt readings name with
  | some current => toString (if desired < current then current else desired)
  | none => toString desired

def hysteronName (name : String) : String := ClusterSpec.hysteronPrefix ++ name

def synchronousStandbyNames (db : DB) : List String :=
  db.spec.synchronousStandbys.elems.map hysteronName ++ db.spec.externalSynchronousStandbys.elems

def synchronousStandbyNamesParameter (db : DB) : String :=
  let names := synchronousStandbyNames db
  if db.spec.synchronousReplication then
    if 1 < names.length then
      toString names.length ++ " (" ++ ",".intercalate names ++ ")"
    else
      ",".intercalate names
  else
    ""

def createPGParameters (cfg : Config) (readings : Readings) (initPGParameters : Option PGParameters)
    (db : DB) : PGParameters :=
  let parameters := if db.spec.includeConfig then initPGParameters.getD ∅ else ∅
  let parameters := copyParameters parameters (db.spec.pgParameters.getD ∅)
  let parameters := copyParameters parameters (mandatoryPGParameters readings db)
  let parameters :=
    if db.spec.enableLogicalSlotFailover then
      parameters.insert "hot_standby_feedback" "on"
    else
      parameters
  let parameters := parameters.insert "listen_addresses" cfg.pgListenAddress
  let parameters := parameters.insert "port" cfg.pgPort
  let parameters := parameters.insert "max_replication_slots"
    (atLeastCurrent readings "max_replication_slots" db.spec.maxStandbys.toNat)
  let parameters := parameters.insert "max_wal_senders"
    (atLeastCurrent readings "max_wal_senders"
      (db.spec.maxStandbys * 2 + 2 + db.spec.additionalWalSenders).toNat)
  let parameters :=
    if db.spec.usePgrewind then parameters.insert "wal_log_hints" "on" else parameters
  parameters.insert "synchronous_standby_names" (synchronousStandbyNamesParameter db)

def managedPGParameters : List String := [
  "unix_socket_directories",
  "wal_keep_segments",
  "wal_keep_size",
  "hot_standby",
  "listen_addresses",
  "port",
  "max_replication_slots",
  "max_wal_senders",
  "wal_log_hints",
  "synchronous_standby_names",
  "primary_conninfo",
  "primary_slot_name",
  "recovery_min_apply_delay",
  "restore_command",
  "recovery_target_timeline",
  "recovery_target",
  "recovery_target_lsn",
  "recovery_target_name",
  "recovery_target_time",
  "recovery_target_xid",
  "recovery_target_timeline",
  "recovery_target_action"
]

def filteredPGParameters (pgParameters : PGParameters) : PGParameters :=
  pgParameters.filter (fun k _ => !managedPGParameters.contains k)

inductive RecoveryMode where
  | none
  | standby
  | recovery
  deriving DecidableEq

structure RecoveryOptions where
  recoveryParameters : PGParameters := ∅
  recoveryMode : RecoveryMode := .none
  deriving DecidableEq

def insertSet (parameters : PGParameters) (name value : String) : PGParameters :=
  if value = "" then parameters else parameters.insert name value

def hasRecoveryTargetSelector (settings : RecoveryTargetSettings) : Bool :=
  [settings.recoveryTarget, settings.recoveryTargetLsn, settings.recoveryTargetName,
    settings.recoveryTargetTime, settings.recoveryTargetXid].any
      (fun value => ClusterSpec.trimSpace value ≠ "")

def createRecoveryOptions (recoveryMode : RecoveryMode) (standbySettings : Option StandbySettings)
    (archiveRecoverySettings : Option ArchiveRecoverySettings)
    (recoveryTargetSettings : Option RecoveryTargetSettings) : RecoveryOptions :=
  let parameters : PGParameters := ∅
  let parameters :=
    match standbySettings with
    | none => parameters
    | some settings =>
      let parameters := insertSet parameters "primary_conninfo" settings.primaryConninfo
      let parameters := insertSet parameters "primary_slot_name" settings.primarySlotName
      insertSet parameters "recovery_min_apply_delay" settings.recoveryMinApplyDelay
  let parameters :=
    match archiveRecoverySettings with
    | none => parameters
    | some settings => parameters.insert "restore_command" settings.restoreCommand
  let parameters := parameters.insert "recovery_target_timeline" "latest"
  let parameters :=
    match recoveryTargetSettings with
    | none => parameters
    | some settings =>
      let parameters :=
        insertSet parameters "recovery_target_timeline" settings.recoveryTargetTimeline
      let parameters := insertSet parameters "recovery_target" settings.recoveryTarget
      let parameters := insertSet parameters "recovery_target_lsn" settings.recoveryTargetLsn
      let parameters := insertSet parameters "recovery_target_name" settings.recoveryTargetName
      let parameters := insertSet parameters "recovery_target_time" settings.recoveryTargetTime
      let parameters := insertSet parameters "recovery_target_xid" settings.recoveryTargetXid
      if hasRecoveryTargetSelector settings then
        parameters.insert "recovery_target_action" "promote"
      else
        parameters
  { recoveryParameters := parameters, recoveryMode }

def replicationTLSModeName : ReplicationTLSMode → String
  | .prefer => "prefer"
  | .require => "require"
  | .verifyCA => "verify-ca"
  | .verifyFull => "verify-full"
  | .unknown name => name

def sslMode (db : DB) : String :=
  match db.spec.replicationTLSMode with
  | none => "prefer"
  | some mode =>
    if replicationTLSModeName mode = "" then "prefer" else replicationTLSModeName mode

def escapeConnValue (value : String) : String :=
  let backslash := Char.ofNat 92
  let quote := Char.ofNat 39
  String.ofList (value.toList.flatMap fun c =>
    if c = ' ' ∨ c = quote ∨ c = backslash then [backslash, c] else [c])

def connString (params : List (String × String)) : String :=
  let kvs := (params.filter (fun kv => kv.2 ≠ "")).map (fun kv => kv.1 ++ "=" ++ escapeConnValue kv.2)
  " ".intercalate (Slices.sortStrings kvs)

def getReplConnParams (cfg : Config) (db followedDB : DB) : List (String × String) :=
  [
    ("user", cfg.pgReplUsername),
    ("host", followedDB.status.listenAddress),
    ("port", followedDB.status.port),
    ("application_name", hysteronName db.uid),
    ("sslmode", sslMode db)
  ] ++ (if cfg.pgReplAuthMethod ≠ "trust" then [("password", cfg.pgReplPassword)] else [])

def followSettings (cfg : Config) (db followedDB : DB) : StandbySettings where
  primaryConninfo := connString (getReplConnParams cfg db followedDB)
  primarySlotName := hysteronName db.uid

inductive PgrewindReason where
  | notInitialized
  | systemIDDiff
  | noMaster
  | walCheckErr
  | walMissing
  | allowed
  deriving DecidableEq, Repr

structure PgrewindDecision where
  reason : PgrewindReason
  attempt : Bool := false
  deriving DecidableEq, Repr

/--
Decide whether `pg_rewind` is safe to attempt. A failed check of the WAL does not disable it.
-/
def evaluatePgrewindDecision (initialized : Bool) (localSystemID followedSystemID : String)
    (hasMaster : Bool) (dbXLogPos : Nat) (masterOlderWal : String) : PgrewindDecision :=
  if !initialized then
    { reason := .notInitialized }
  else if localSystemID ≠ followedSystemID then
    { reason := .systemIDDiff }
  else if !hasMaster then
    { reason := .noMaster }
  else
    match isRequiredWalAvailable dbXLogPos masterOlderWal walSegSize with
    | .error _ => { attempt := true, reason := .walCheckErr }
    | .ok false => { reason := .walMissing }
    | .ok true => { attempt := true, reason := .allowed }

def usePgrewind (cfg : Config) (db : DB) : Bool :=
  cfg.pgSUUsername ≠ "" && cfg.pgSUPassword ≠ "" && db.spec.usePgrewind

def getInSyncStandbys (inSyncStandbysFullName : List String) : List String :=
  (inSyncStandbysFullName.filter ClusterSpec.isHysteronName).map
    (fun name => String.ofList (name.toList.drop ClusterSpec.hysteronPrefix.length))

end Keeper
end Hysteron
