import Hysteron.Util.Slices

/-!
The cluster data document: what the store holds, what the sentinel computes and what the keepers and
proxies publish. Fields keep the names of the source. An optional pointer is an `Option`, and the
default of a field is the zero value that the source starts from.

Records that every writer allocates (the cluster, its spec, the spec of a database, the proxy) are
plain fields. Change times, which only metrics and status output read, are left out.
-/

namespace Hysteron

/--
Points in time and durations, in nanoseconds. The zero time is `0`.
-/
abbrev Time := Int

@[inherit_doc Time]
abbrev Duration := Int

abbrev millisecond : Duration := 1000000

abbrev second : Duration := 1000 * millisecond

abbrev minute : Duration := 60 * second

abbrev hour : Duration := 60 * minute

/--
The value of a computation on 64-bit signed integers, which wraps around.
-/
def int64 (n : Int) : Int := n.bmod (2 ^ 64)

def noGeneration : Int := 0

def initialGeneration : Int := 1

def currentCDFormatVersion : Nat := 1

inductive Role where
  | undefined
  | master
  | standby
  deriving DecidableEq, Repr

inductive FollowType where
  | internal
  | external
  | unknown (name : String)
  deriving DecidableEq, Repr

inductive ClusterPhase where
  | initializing
  | normal
  | unknown (name : String)
  deriving DecidableEq, Repr

inductive ClusterRole where
  | master
  | standby
  | unknown (name : String)
  deriving DecidableEq, Repr

inductive ClusterInitMode where
  | new
  | pitr
  | existing
  | unknown (name : String)
  deriving DecidableEq, Repr

inductive DBInitMode where
  | none
  | existing
  | new
  | pitr
  | resync
  deriving DecidableEq, Repr

inductive SUReplAccessMode where
  | all
  | strict
  | unknown (name : String)
  deriving DecidableEq, Repr

inductive ReplicationTLSMode where
  | prefer
  | require
  | verifyCA
  | verifyFull
  | unknown (name : String)
  deriving DecidableEq, Repr

inductive ReplicationSlotType where
  | physical
  | logical
  | unknown (name : String)
  deriving DecidableEq, Repr

inductive ManualSwitchMode where
  | switchover
  | failover
  deriving DecidableEq, Repr

abbrev PGParameters := FinMap String String

structure NewConfig where
  locale : String := ""
  encoding : String := ""
  dataChecksums : Bool := false
  deriving DecidableEq

structure ArchiveRecoverySettings where
  restoreCommand : String := ""
  deriving DecidableEq

structure RecoveryTargetSettings where
  recoveryTarget : String := ""
  recoveryTargetLsn : String := ""
  recoveryTargetName : String := ""
  recoveryTargetTime : String := ""
  recoveryTargetXid : String := ""
  recoveryTargetTimeline : String := ""
  deriving DecidableEq

structure StandbySettings where
  primaryConninfo : String := ""
  primarySlotName : String := ""
  recoveryMinApplyDelay : String := ""
  deriving DecidableEq

structure PITRConfig where
  archiveRecoverySettings : Option ArchiveRecoverySettings := none
  recoveryTargetSettings : Option RecoveryTargetSettings := none
  dataRestoreCommand : String := ""
  deriving DecidableEq

structure ExistingConfig where
  keeperUID : String := ""
  deriving DecidableEq

structure StandbyConfig where
  standbySettings : Option StandbySettings := none
  archiveRecoverySettings : Option ArchiveRecoverySettings := none
  noStream : Bool := false
  deriving DecidableEq

structure ManagedLogicalReplicationSlot where
  name : String := ""
  database : String := ""
  plugin : String := ""
  deriving DecidableEq

structure ReplicationSlotMatcher where
  name : String := ""
  type : Option ReplicationSlotType := none
  database : String := ""
  plugin : String := ""
  deriving DecidableEq

structure ClusterSpec where
  sleepInterval : Option Duration := none
  requestTimeout : Option Duration := none
  convergenceTimeout : Option Duration := none
  initTimeout : Option Duration := none
  syncTimeout : Option Duration := none
  dbWaitReadyTimeout : Option Duration := none
  failInterval : Option Duration := none
  enableFailsafeMode : Option Bool := none
  failsafeProbeInterval : Option Duration := none
  failsafeProbeTimeout : Option Duration := none
  failsafeMaxMissingPeers : Option UInt16 := none
  failsafeTTL : Option Duration := none
  deadKeeperRemovalInterval : Option Duration := none
  proxyCheckInterval : Option Duration := none
  proxyTimeout : Option Duration := none
  maxStandbys : Option UInt16 := none
  maxStandbysPerSender : Option UInt16 := none
  maxStandbyLag : Option UInt32 := none
  synchronousReplication : Option Bool := none
  replicationTLSMode : Option ReplicationTLSMode := none
  unsafeAutoFailback : Option Bool := none
  autoFailbackMinUptime : Option Duration := none
  autoFailbackCooldown : Option Duration := none
  minSynchronousStandbys : Option UInt16 := none
  maxSynchronousStandbys : Option UInt16 := none
  additionalWalSenders : Option UInt16 := none
  usePgrewind : Option Bool := none
  checkpointBeforePgrewind : Option Bool := none
  initMode : Option ClusterInitMode := none
  mergePgParameters : Option Bool := none
  role : Option ClusterRole := none
  newConfig : Option NewConfig := none
  pitrConfig : Option PITRConfig := none
  existingConfig : Option ExistingConfig := none
  standbyConfig : Option StandbyConfig := none
  defaultSUReplAccessMode : Option SUReplAccessMode := none
  pgParameters : Option PGParameters := none
  automaticPgRestart : Option Bool := none
  memberReplicationSlotTTL : Option Duration := none
  beforeStopCommand : String := ""
  prePromoteCommand : String := ""
  additionalMasterReplicationSlots : Slice String := none
  ignoreMasterReplicationSlots : Slice String := none
  ignoreMasterReplicationSlotMatchers : Slice ReplicationSlotMatcher := none
  managedLogicalReplicationSlots : Slice ManagedLogicalReplicationSlot := none
  pgHBA : Slice String := none
  pgIdent : Slice String := none
  enableLogicalSlotFailover : Bool := false
  deriving DecidableEq

structure ManualSwitchRequest where
  targetKeeperUID : String := ""
  mode : ManualSwitchMode
  deriving DecidableEq

structure ClusterStatus where
  pauseUntil : Option Time := none
  manualSwitch : Option ManualSwitchRequest := none
  phase : ClusterPhase
  master : String := ""
  pauseReason : String := ""
  paused : Bool := false
  deriving DecidableEq

structure Cluster where
  uid : String
  generation : Int
  spec : ClusterSpec
  status : ClusterStatus
  deriving DecidableEq

structure PostgresBinaryVersion where
  maj : Int := 0
  min : Int := 0
  deriving DecidableEq

structure KeeperStatus where
  lastHealthyTime : Time := 0
  canBeMaster : Option Bool := none
  canBeSynchronousReplica : Option Bool := none
  bootUUID : String := ""
  hostname : String := ""
  nodeName : String := ""
  postgresBinaryVersion : PostgresBinaryVersion := {}
  masterPriority : Int := 0
  healthy : Bool := false
  forceFail : Bool := false
  deriving DecidableEq

structure Keeper where
  uid : String
  generation : Int := 0
  status : KeeperStatus := {}
  deriving DecidableEq

structure FollowConfig where
  standbySettings : Option StandbySettings := none
  archiveRecoverySettings : Option ArchiveRecoverySettings := none
  type : FollowType
  dbuid : String := ""
  deriving DecidableEq

structure DBSpec where
  newConfig : Option NewConfig := none
  pitrConfig : Option PITRConfig := none
  pgParameters : Option PGParameters := none
  followConfig : Option FollowConfig := none
  keeperUID : String
  initMode : DBInitMode
  role : Role
  beforeStopCommand : String := ""
  prePromoteCommand : String := ""
  replicationTLSMode : Option ReplicationTLSMode := none
  additionalReplicationSlots : Slice String := none
  ignoreReplicationSlots : Slice String := none
  ignoreReplicationSlotMatchers : Slice ReplicationSlotMatcher := none
  managedLogicalReplicationSlots : Slice ManagedLogicalReplicationSlot := none
  pgHBA : Slice String := none
  pgIdent : Slice String := none
  followers : Slice String := none
  synchronousStandbys : Slice String := none
  externalSynchronousStandbys : Slice String := none
  requestTimeout : Duration := 0
  maxStandbys : UInt16 := 0
  additionalWalSenders : UInt16 := 0
  noStream : Bool := false
  enableLogicalSlotFailover : Bool := false
  synchronousReplication : Bool := false
  usePgrewind : Bool := false
  checkpointBeforePgrewind : Bool := false
  includeConfig : Bool := false
  deriving DecidableEq

structure PostgresTimelineHistory where
  timelineID : Nat
  switchPoint : Nat
  reason : String := ""
  deriving DecidableEq

structure DBStatus where
  pgParameters : Option PGParameters := none
  orphanMemberSlots : Option (FinMap String Time) := none
  managedLogicalSlots : Option (FinMap String Nat) := none
  listenAddress : String := ""
  port : String := ""
  systemID : String := ""
  olderWalFile : String := ""
  timelinesHistory : List PostgresTimelineHistory := []
  /-- Standbys that the instance reports in sync right now. Never stored. -/
  curSynchronousStandbys : Slice String := none
  synchronousStandbys : Slice String := none
  currentGeneration : Int := noGeneration
  timelineID : Nat := 0
  xLogPos : Nat := 0
  healthy : Bool := false
  deriving DecidableEq

structure DB where
  uid : String
  generation : Int
  spec : DBSpec
  status : DBStatus := {}
  deriving DecidableEq

structure ProxySpec where
  masterDBUID : String := ""
  enabledProxies : Slice String := none
  deriving DecidableEq

structure Proxy where
  spec : ProxySpec := {}
  generation : Int := 0
  deriving DecidableEq

structure ClusterData where
  formatVersion : Nat
  cluster : Cluster
  keepers : FinMap String Keeper
  dbs : FinMap String DB
  proxy : Proxy
  deriving DecidableEq

structure PostgresState where
  pgParameters : Option PGParameters := none
  managedLogicalSlots : Option (FinMap String Nat) := none
  uid : String := ""
  listenAddress : String := ""
  port : String := ""
  systemID : String := ""
  olderWalFile : String := ""
  timelinesHistory : List PostgresTimelineHistory := []
  synchronousStandbys : Slice String := none
  generation : Int := noGeneration
  timelineID : Nat := 0
  xLogPos : Nat := 0
  healthy : Bool := false
  deriving DecidableEq

structure KeeperInfo where
  postgresState : Option PostgresState := none
  canBeMaster : Option Bool := none
  canBeSynchronousReplica : Option Bool := none
  infoUID : String
  uid : String
  clusterUID : String
  bootUUID : String := ""
  hostname : String := ""
  nodeName : String := ""
  postgresBinaryVersion : PostgresBinaryVersion := {}
  masterPriority : Int := 0
  deriving DecidableEq

abbrev KeepersInfo := FinMap String KeeperInfo

structure ProxyInfo where
  infoUID : String
  uid : String
  generation : Int
  proxyTimeout : Duration
  deriving DecidableEq

abbrev ProxiesInfo := FinMap String ProxyInfo

/--
`GetKeepersInfo` files every published record under the UID in it.
-/
def getKeepersInfo (published : List KeeperInfo) : KeepersInfo :=
  published.foldl (fun keepers ki => keepers.insert ki.uid ki) ∅

def getProxiesInfo (published : List ProxyInfo) : ProxiesInfo :=
  published.foldl (fun proxies pi => proxies.insert pi.uid pi) ∅

def ClusterStatus.pauseActive (s : ClusterStatus) (now : Time) : Bool :=
  if !s.paused then
    false
  else
    match s.pauseUntil with
    | none => true
    | some pauseUntil => decide (now < pauseUntil)

def newCluster (uid : String) (spec : ClusterSpec) : Cluster where
  uid
  generation := initialGeneration
  spec
  status := { phase := .initializing }

def newClusterData (c : Cluster) : ClusterData where
  formatVersion := currentCDFormatVersion
  cluster := c
  keepers := ∅
  dbs := ∅
  proxy := {}

/--
The database assigned to a keeper, if any: the first one that the loop over the databases meets.
-/
def ClusterData.findDB (order : VisitOrder String) (cd : ClusterData) (keeperUID : String)
    : Option DB :=
  (FinMap.valuesIn order cd.dbs).find? (fun db => db.spec.keeperUID = keeperUID)

def newKeeperFromKeeperInfo (ki : KeeperInfo) (now : Time) : Keeper where
  uid := ki.uid
  generation := initialGeneration
  status := {
    healthy := true
    lastHealthyTime := now
    bootUUID := ki.bootUUID
    masterPriority := ki.masterPriority
    hostname := ki.hostname
    nodeName := ki.nodeName
  }

end Hysteron
