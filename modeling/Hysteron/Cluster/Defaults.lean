import Hysteron.Cluster.Types

/-!
The cluster spec with its defaults, its validation and its update.
-/

namespace Hysteron

/--
A cluster spec whose unspecified values are populated with their defaults. The fields that stay
optional have no default.
-/
structure DefSpec where
  sleepInterval : Duration
  requestTimeout : Duration
  convergenceTimeout : Duration
  initTimeout : Duration
  syncTimeout : Duration
  dbWaitReadyTimeout : Duration
  failInterval : Duration
  enableFailsafeMode : Bool
  failsafeProbeInterval : Duration
  failsafeProbeTimeout : Duration
  failsafeMaxMissingPeers : UInt16
  failsafeTTL : Duration
  deadKeeperRemovalInterval : Duration
  proxyCheckInterval : Duration
  proxyTimeout : Duration
  maxStandbys : UInt16
  maxStandbysPerSender : UInt16
  maxStandbyLag : UInt32
  synchronousReplication : Bool
  replicationTLSMode : Option ReplicationTLSMode
  unsafeAutoFailback : Bool
  autoFailbackMinUptime : Duration
  autoFailbackCooldown : Duration
  minSynchronousStandbys : UInt16
  maxSynchronousStandbys : UInt16
  additionalWalSenders : UInt16
  usePgrewind : Bool
  checkpointBeforePgrewind : Option Bool
  initMode : Option ClusterInitMode
  mergePgParameters : Bool
  role : ClusterRole
  newConfig : Option NewConfig
  pitrConfig : Option PITRConfig
  existingConfig : Option ExistingConfig
  standbyConfig : Option StandbyConfig
  defaultSUReplAccessMode : SUReplAccessMode
  pgParameters : Option PGParameters
  automaticPgRestart : Bool
  memberReplicationSlotTTL : Option Duration
  beforeStopCommand : String
  prePromoteCommand : String
  additionalMasterReplicationSlots : Slice String
  ignoreMasterReplicationSlots : Slice String
  ignoreMasterReplicationSlotMatchers : Slice ReplicationSlotMatcher
  managedLogicalReplicationSlots : Slice ManagedLogicalReplicationSlot
  pgHBA : Slice String
  pgIdent : Slice String
  enableLogicalSlotFailover : Bool

def defaultDBNotIncreasingXLogPosTimes : Int := 10

def ClusterSpec.withDefaults (c : ClusterSpec) : DefSpec where
  sleepInterval := c.sleepInterval.getD (5 * second)
  requestTimeout := c.requestTimeout.getD (10 * second)
  convergenceTimeout := c.convergenceTimeout.getD (30 * second)
  initTimeout := c.initTimeout.getD (5 * minute)
  syncTimeout := c.syncTimeout.getD 0
  dbWaitReadyTimeout := c.dbWaitReadyTimeout.getD (60 * second)
  failInterval := c.failInterval.getD (30 * second)
  enableFailsafeMode := c.enableFailsafeMode.getD false
  failsafeProbeInterval := c.failsafeProbeInterval.getD (2 * second)
  failsafeProbeTimeout := c.failsafeProbeTimeout.getD (1 * second)
  failsafeMaxMissingPeers := c.failsafeMaxMissingPeers.getD 0
  failsafeTTL := c.failsafeTTL.getD (15 * second)
  deadKeeperRemovalInterval := c.deadKeeperRemovalInterval.getD (48 * hour)
  proxyCheckInterval := c.proxyCheckInterval.getD (5 * second)
  proxyTimeout := c.proxyTimeout.getD (15 * second)
  maxStandbys := c.maxStandbys.getD 20
  maxStandbysPerSender := c.maxStandbysPerSender.getD 3
  maxStandbyLag := c.maxStandbyLag.getD (1024 * 1204)
  synchronousReplication := c.synchronousReplication.getD false
  replicationTLSMode := c.replicationTLSMode
  unsafeAutoFailback := c.unsafeAutoFailback.getD false
  autoFailbackMinUptime := c.autoFailbackMinUptime.getD (60 * second)
  autoFailbackCooldown := c.autoFailbackCooldown.getD (5 * minute)
  minSynchronousStandbys := c.minSynchronousStandbys.getD 1
  maxSynchronousStandbys := c.maxSynchronousStandbys.getD 1
  additionalWalSenders := c.additionalWalSenders.getD 5
  usePgrewind := c.usePgrewind.getD false
  checkpointBeforePgrewind := c.checkpointBeforePgrewind
  initMode := c.initMode
  mergePgParameters := c.mergePgParameters.getD true
  role := c.role.getD .master
  newConfig := c.newConfig
  pitrConfig := c.pitrConfig
  existingConfig := c.existingConfig
  standbyConfig := c.standbyConfig
  defaultSUReplAccessMode := c.defaultSUReplAccessMode.getD .all
  pgParameters := c.pgParameters
  automaticPgRestart := c.automaticPgRestart.getD false
  memberReplicationSlotTTL := c.memberReplicationSlotTTL
  beforeStopCommand := c.beforeStopCommand
  prePromoteCommand := c.prePromoteCommand
  additionalMasterReplicationSlots := c.additionalMasterReplicationSlots
  ignoreMasterReplicationSlots := c.ignoreMasterReplicationSlots
  ignoreMasterReplicationSlotMatchers := c.ignoreMasterReplicationSlotMatchers
  managedLogicalReplicationSlots := c.managedLogicalReplicationSlots
  pgHBA := c.pgHBA
  pgIdent := c.pgIdent
  enableLogicalSlotFailover := c.enableLogicalSlotFailover

def Cluster.defSpec (c : Cluster) : DefSpec := c.spec.withDefaults

end Hysteron
