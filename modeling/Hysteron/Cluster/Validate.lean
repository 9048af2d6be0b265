import Hysteron.Cluster.Defaults

/-!
Validation of a cluster spec and the update that it guards. The result of a failed check is the text
of its error.
-/

namespace Hysteron

namespace ClusterSpec

def isSpace (c : Char) : Bool :=
  c.toNat ∈ [0x09, 0x0A, 0x0B, 0x0C, 0x0D, 0x20, 0x85, 0xA0, 0x1680, 0x2028, 0x2029, 0x202F,
    0x205F, 0x3000] || (0x2000 ≤ c.toNat && c.toNat ≤ 0x200A)

def trimSpace (s : String) : String :=
  String.ofList (((s.toList.dropWhile isSpace).reverse.dropWhile isSpace).reverse)

/--
`strings.ToLower` on the characters whose lower case is an ASCII letter. It is only used to compare
with ASCII words, and no other character becomes part of one.
-/
def toLower (s : String) : String :=
  s.map fun c =>
    if c.toNat = 0x212A then
      'k'
    else if c.toNat = 0x0130 then
      'i'
    else
      c.toLower

/--
The `%q` verb on text without special characters.
-/
def quoted (s : String) : String := "\"" ++ s ++ "\""

def hysteronPrefix : String := "hysteron_"

def isHysteronName (name : String) : Bool :=
  hysteronPrefix.toList.isPrefixOf name.toList

/--
The regular expression `^[a-z0-9_]+$`.
-/
def isValidReplSlotName (name : String) : Bool :=
  name ≠ "" && name.toList.all fun c =>
    ('a' ≤ c && c ≤ 'z') || ('0' ≤ c && c ≤ '9') || c = '_'

def reject (bad : Bool) (message : String) : Except String Unit :=
  if bad then .error message else .ok ()

def validateHATiming (sleepInterval requestTimeout failInterval : Duration) : Except String Unit :=
  -- Keep sentinel loop and request retries bounded by fail interval.
  reject (int64 (sleepInterval + 2 * requestTimeout) > failInterval)
    "invalid HA timing: sleepInterval + 2*requestTimeout must be less than or equal to failInterval"

def validateReplicationSlotName (replicationSlot : String) : Except String Unit :=
  reject (!isValidReplSlotName replicationSlot)
    ("wrong replication slot name: " ++ quoted replicationSlot)

def validateReplicationSlot (replicationSlot : String) : Except String Unit := do
  validateReplicationSlotName replicationSlot
  reject (isHysteronName replicationSlot)
    ("replication slot name is reserved: " ++ quoted replicationSlot)

def validateReplicationSlotMatcher (matcher : ReplicationSlotMatcher) : Except String Unit := do
  if matcher.name ≠ "" then
    validateReplicationSlotName matcher.name
  match matcher.type with
  | some (.unknown name) => .error ("wrong replication slot matcher type: " ++ quoted name)
  | _ => pure ()
  let logicalOnly := trimSpace matcher.database ≠ "" || trimSpace matcher.plugin ≠ ""
  reject (matcher.type = some .physical && logicalOnly)
    "physical replication slot matcher cannot define database or plugin"
  reject (logicalOnly && matcher.type ≠ none && matcher.type ≠ some .logical)
    "replication slot matcher with database or plugin must have logical type"
  reject (matcher.name = "" && matcher.type = none && !logicalOnly)
    "empty replication slot matcher is not allowed"

def validateRecoveryTargetSettings (settings : Option RecoveryTargetSettings)
    : Except String Unit := do
  match settings with
  | none => pure ()
  | some settings =>
    let recoveryTarget := trimSpace settings.recoveryTarget
    reject (recoveryTarget ≠ "" && recoveryTarget ≠ "immediate")
      ("recoveryTarget must be \"immediate\" when defined, got " ++ quoted settings.recoveryTarget)
    let targets := [
      recoveryTarget,
      trimSpace settings.recoveryTargetLsn,
      trimSpace settings.recoveryTargetName,
      trimSpace settings.recoveryTargetTime,
      trimSpace settings.recoveryTargetXid].countP (· ≠ "")
    reject (targets > 1)
      ("only one recovery target selector can be set among recoveryTarget, recoveryTargetLsn, " ++
        "recoveryTargetName, recoveryTargetTime, recoveryTargetXid")

def validateManagedLogicalSlots (seen : List String)
    : List ManagedLogicalReplicationSlot → Except String Unit
  | [] => pure ()
  | slot :: slots => do
    validateReplicationSlotName slot.name
    reject (seen.contains slot.name)
      ("duplicated managedLogicalReplicationSlots name: " ++ quoted slot.name)
    reject (trimSpace slot.database = "")
      ("managedLogicalReplicationSlots database undefined for slot " ++ quoted slot.name)
    reject (trimSpace slot.plugin = "")
      ("managedLogicalReplicationSlots plugin undefined for slot " ++ quoted slot.name)
    validateManagedLogicalSlots (slot.name :: seen) slots

def validateTimings (s : DefSpec) : Except String Unit := do
  reject (s.sleepInterval < 0) "sleepInterval must be positive"
  reject (s.requestTimeout < 0) "requestTimeout must be positive"
  reject (s.convergenceTimeout < 0) "convergenceTimeout must be positive"
  reject (s.initTimeout < 0) "initTimeout must be positive"
  reject (s.syncTimeout < 0) "syncTimeout must be positive"
  reject (s.dbWaitReadyTimeout < 0) "dbWaitReadyTimeout must be positive"
  reject (s.failInterval < 0) "failInterval must be positive"
  reject (s.autoFailbackMinUptime < 0) "autoFailbackMinUptime must be positive"
  reject (s.autoFailbackCooldown < 0) "autoFailbackCooldown must be positive"
  reject (s.failsafeProbeInterval < 0) "failsafeProbeInterval must be positive"
  reject (s.failsafeProbeTimeout < 0) "failsafeProbeTimeout must be positive"
  reject (s.failsafeTTL < 0) "failsafeTTL must be positive"
  reject (s.failsafeProbeTimeout > s.failsafeProbeInterval)
    "failsafeProbeTimeout should be less than or equal to failsafeProbeInterval"
  reject (s.failsafeTTL < s.failsafeProbeInterval)
    "failsafeTTL should be greater than or equal to failsafeProbeInterval"
  reject (s.deadKeeperRemovalInterval < 0) "deadKeeperRemovalInterval must be positive"
  reject (s.proxyCheckInterval < 0) "proxyCheckInterval must be positive"
  reject (s.proxyTimeout < 0) "proxyTimeout must be positive"
  reject (s.proxyCheckInterval ≥ s.proxyTimeout)
    "proxyCheckInterval should be less than proxyTimeout"
  validateHATiming s.sleepInterval s.requestTimeout s.failInterval
  reject (s.maxStandbys < 1) "maxStandbys must be at least 1"
  reject (s.maxStandbysPerSender < 1) "maxStandbysPerSender must be at least 1"
  reject (s.maxSynchronousStandbys < 1) "maxSynchronousStandbys must be at least 1"
  reject (s.maxSynchronousStandbys < s.minSynchronousStandbys)
    "maxSynchronousStandbys must be greater or equal to minSynchronousStandbys"
  match s.replicationTLSMode with
  | some (.unknown name) => .error ("unknown replicationTLSMode: " ++ quoted name)
  | _ => pure ()

def validateReplication (s : DefSpec) : Except String Unit := do
  s.additionalMasterReplicationSlots.elems.forM validateReplicationSlot
  s.ignoreMasterReplicationSlots.elems.forM validateReplicationSlotName
  s.ignoreMasterReplicationSlotMatchers.elems.forM validateReplicationSlotMatcher
  reject (s.memberReplicationSlotTTL.any (· < 0)) "memberReplicationSlotTTL must be positive"
  validateManagedLogicalSlots [] s.managedLogicalReplicationSlots.elems
  let pgParameters : PGParameters := s.pgParameters.getD ∅
  let walLevel := toLower (trimSpace (pgParameters["wal_level"]?.getD ""))
  reject (s.managedLogicalReplicationSlots.elems ≠ [] && walLevel ≠ "logical")
    "managedLogicalReplicationSlots requires pgParameters.wal_level to be set to \"logical\""
  reject (s.enableLogicalSlotFailover && s.managedLogicalReplicationSlots.elems = [])
    "enableLogicalSlotFailover requires managedLogicalReplicationSlots to be configured"
  if s.enableLogicalSlotFailover then
    match pgParameters["hot_standby_feedback"]? with
    | none => pure ()
    | some raw =>
      reject (toLower (trimSpace raw) ∉ ["on", "true", "1"])
        ("enableLogicalSlotFailover requires pgParameters.hot_standby_feedback to be enabled " ++
          "(on/true/1)")
  reject (s.pgHBA.elems.any (fun entry => entry.toList.contains '\n'))
    "pgHBA entries cannot contain newline characters"
  reject (s.pgIdent.elems.any (fun entry => entry.toList.contains '\n'))
    "pgIdent entries cannot contain newline characters"

def initModeName : ClusterInitMode → String
  | .new => "new"
  | .pitr => "pitr"
  | .existing => "existing"
  | .unknown name => name

def validateInitMode (s : DefSpec) (initMode : ClusterInitMode) : Except String Unit := do
  match initMode with
  | .new => reject (s.role = .standby) "invalid cluster role standby when initMode is \"new\""
  | .existing =>
    match s.existingConfig with
    | none => .error "existingConfig undefined. Required when initMode is \"existing\""
    | some existingConfig =>
      reject (existingConfig.keeperUID = "") "existingConfig.keeperUID undefined"
  | .pitr =>
    match s.pitrConfig with
    | none => .error "pitrConfig undefined. Required when initMode is \"pitr\""
    | some pitrConfig =>
      reject (pitrConfig.dataRestoreCommand = "") "pitrConfig.DataRestoreCommand undefined"
      reject (pitrConfig.recoveryTargetSettings.isSome && s.role = .standby)
        "cannot define pitrConfig.RecoveryTargetSettings when required cluster role is standby"
      validateRecoveryTargetSettings pitrConfig.recoveryTargetSettings
  | .unknown name => .error ("unknown initMode: " ++ quoted name)

def validateSUReplAccessMode (s : DefSpec) : Except String Unit :=
  match s.defaultSUReplAccessMode with
  | .unknown name => .error ("unknown defaultSUReplAccessMode: " ++ quoted name)
  | _ => pure ()

/--
The checks on the access mode and on the cluster role. The error for an unknown role quotes the init
mode.
-/
def validateRole (s : DefSpec) (initMode : ClusterInitMode) : Except String Unit := do
  validateSUReplAccessMode s
  match s.role with
  | .master => pure ()
  | .standby =>
    reject s.standbyConfig.isNone
      "standbyConfig undefined. Required when cluster role is \"standby\""
  | .unknown _ => .error ("unknown role: " ++ quoted (initModeName initMode))

def validate (c : ClusterSpec) : Except String Unit := do
  let s := c.withDefaults
  validateTimings s
  match s.initMode with
  | none => .error "initMode undefined"
  | some initMode =>
    validateReplication s
    validateInitMode s initMode
    validateRole s initMode

end ClusterSpec

def Cluster.updateSpec (c : Cluster) (nextSpec : ClusterSpec) : Except String Cluster :=
  match nextSpec.validate with
  | .error e => .error ("invalid cluster spec: " ++ e)
  | .ok () =>
    let currentDefaults := c.spec.withDefaults
    let nextDefaults := nextSpec.withDefaults
    if currentDefaults.initMode ≠ nextDefaults.initMode then
      .error "cannot change cluster init mode"
    else if currentDefaults.role = .master && nextDefaults.role = .standby then
      .error "cannot update a cluster from master role to standby role"
    else
      .ok { c with spec := nextSpec }

end Hysteron
