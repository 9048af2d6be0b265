import Hysteron.Sentinel.Leadership

/-!
The initialization phase of the cluster, and the part of the database specs that is copied from the
cluster spec.
-/

namespace Hysteron
namespace Sentinel

def findInitialKeeper (env : Env) (cd : ClusterData) : Except Fault Keeper :=
  if cd.keepers.size < 1 then
    .error (.error "no keepers registered")
  else
    match cd.keepers.keys[env.randFn cd.keepers.size]? with
    | none => .error .nilDeref
    | some key =>
      match cd.keepers[key]? with
      | none => .error .nilDeref
      | some k => .ok k

def externalFollowConfig (clusterSpec : DefSpec) : Except Fault FollowConfig :=
  match clusterSpec.standbyConfig with
  | none => .error .nilDeref
  | some standbyConfig =>
    .ok {
      type := .external
      standbySettings := standbyConfig.standbySettings
      archiveRecoverySettings := standbyConfig.archiveRecoverySettings
    }

def masterRole (clusterSpec : DefSpec) : Except Fault (Role × Option FollowConfig) :=
  if clusterSpec.role = .standby then
    match externalFollowConfig clusterSpec with
    | .error fault => .error fault
    | .ok followConfig => .ok (.standby, some followConfig)
  else
    .ok (.master, none)

def commonDBSpec (clusterSpec : DefSpec) (spec : DBSpec) : DBSpec :=
  { spec with
    requestTimeout := clusterSpec.requestTimeout
    maxStandbys := clusterSpec.maxStandbys
    usePgrewind := clusterSpec.usePgrewind
    checkpointBeforePgrewind := clusterSpec.checkpointBeforePgrewind = some true
    replicationTLSMode := clusterSpec.replicationTLSMode
    pgParameters := clusterSpec.pgParameters
    pgHBA := clusterSpec.pgHBA
    pgIdent := clusterSpec.pgIdent
    beforeStopCommand := clusterSpec.beforeStopCommand
    prePromoteCommand := clusterSpec.prePromoteCommand
    enableLogicalSlotFailover := clusterSpec.enableLogicalSlotFailover
    additionalWalSenders := clusterSpec.additionalWalSenders
    followConfig :=
      match clusterSpec.standbyConfig, spec.followConfig with
      | some standbyConfig, some followConfig =>
        if followConfig.type = .external then
          some { followConfig with
            standbySettings := standbyConfig.standbySettings
            archiveRecoverySettings := standbyConfig.archiveRecoverySettings
          }
        else
          some followConfig
      | _, followConfig => followConfig
  }

def dbSpecFromClusterSpec (clusterSpec : DefSpec) (dt : Except Fault DBType) (spec : DBSpec)
    : DBSpec :=
  let spec := commonDBSpec clusterSpec spec
  match dt with
  | .error _ => spec
  | .ok .primaryLine =>
    { spec with
      additionalReplicationSlots := clusterSpec.additionalMasterReplicationSlots
      ignoreReplicationSlots := clusterSpec.ignoreMasterReplicationSlots
      ignoreReplicationSlotMatchers := clusterSpec.ignoreMasterReplicationSlotMatchers
      managedLogicalReplicationSlots := clusterSpec.managedLogicalReplicationSlots
      noStream := false
    }
  | .ok .replicaLine =>
    { spec with
      additionalReplicationSlots := none
      ignoreReplicationSlots := none
      ignoreReplicationSlotMatchers := none
      noStream := clusterSpec.standbyConfig.any StandbyConfig.noStream
      managedLogicalReplicationSlots :=
        if clusterSpec.enableLogicalSlotFailover then
          clusterSpec.managedLogicalReplicationSlots
        else
          none
    }

/--
Copy the cluster spec into the specs of the databases. The type of a database does not change while
the loop runs.
-/
def setDBSpecFromClusterSpec (cd : ClusterData) : Except Fault ClusterData :=
  let clusterSpec := cd.cluster.defSpec
  if clusterSpec.standbyConfig.isNone
      && FinMap.anyValue cd.dbs (fun db => FollowConfig.isExternal db.spec.followConfig) then
    .error .nilDeref
  else
    .ok { cd with
      dbs := cd.dbs.map (fun _ db =>
        { db with spec := dbSpecFromClusterSpec clusterSpec (dbType cd db.uid) db.spec })
    }

def freeKeepers (env : Env) (cd : ClusterData) : List Keeper :=
  (FinMap.valuesIn (env.order .freeKeepers) cd.keepers).filter (fun keeper =>
    keeper.status.healthy && !FinMap.anyValue cd.dbs (fun db => db.spec.keeperUID = keeper.uid))

def addInitialMaster (newcd : ClusterData) (db : DB) : ClusterData :=
  { newcd with
    dbs := newcd.dbs.insert db.uid db
    cluster := { newcd.cluster with status := { newcd.cluster.status with master := db.uid } }
  }

def completeInit (newcd : ClusterData) (clusterSpec : DefSpec) (dbUID : String) (db : DB)
    : ClusterData :=
  { newcd with
    dbs := newcd.dbs.insert dbUID
      { db with spec := { db.spec with initMode := .none, includeConfig := false } }
    cluster := { newcd.cluster with
      spec :=
        if clusterSpec.mergePgParameters then
          { newcd.cluster.spec with pgParameters := db.status.pgParameters }
        else
          newcd.cluster.spec
      status := { newcd.cluster.status with phase := .normal }
    }
  }

def applyInitialDBConvergence (newcd : ClusterData) (clusterSpec : DefSpec) (dbUID : String)
    (db : DB) (state : ConvergenceState) : ClusterData :=
  match state with
  | .converged =>
    if db.status.healthy then
      completeInit newcd clusterSpec dbUID db
    else
      newcd
  | .converging => newcd
  | .convergenceFailed =>
    -- Empty the databases and unset the master so that another keeper can be chosen.
    { newcd with
      dbs := ∅
      cluster := { newcd.cluster with status := { newcd.cluster.status with master := "" } }
    }

def missingMasterDB (master : String) : Fault :=
  .error ("cluster status references missing db " ++ ClusterSpec.quoted master)

def initialKeeper (env : Env) (cd : ClusterData) : Except Fault Keeper :=
  match findInitialKeeper env cd with
  | .error (.error message) => .error (.error ("cannot choose initial master: " ++ message))
  | .error .nilDeref => .error .nilDeref
  | .ok k => .ok k

def awaitInitialDB (env : Env) (s : Sentinel) (cd : ClusterData)
    : Except Fault (Sentinel × ClusterData) :=
  let clusterSpec := cd.cluster.defSpec
  match cd.dbs[cd.cluster.status.master]? with
  | none => .error (missingMasterDB cd.cluster.status.master)
  | some db =>
    .ok (s.trackDBConvergence env.now db clusterSpec.initTimeout,
      applyInitialDBConvergence cd clusterSpec cd.cluster.status.master db
        (s.dbConvergenceState env.now db clusterSpec.initTimeout))

def initNew (env : Env) (s : Sentinel) (cd : ClusterData) : Except Fault (Sentinel × ClusterData) :=
  let clusterSpec := cd.cluster.defSpec
  if cd.cluster.status.master = "" then
    match initialKeeper env cd with
    | .error fault => .error fault
    | .ok k =>
      .ok (s, addInitialMaster cd {
        uid := env.uidFn 0
        generation := initialGeneration
        spec := {
          keeperUID := k.uid
          initMode := .new
          newConfig := clusterSpec.newConfig
          role := .master
          followers := some []
          includeConfig := clusterSpec.mergePgParameters
        }
      })
  else
    s.awaitInitialDB env cd

def initExisting (env : Env) (s : Sentinel) (cd : ClusterData)
    : Except Fault (Sentinel × ClusterData) :=
  let clusterSpec := cd.cluster.defSpec
  if cd.cluster.status.master = "" then
    match clusterSpec.existingConfig with
    | none => .error .nilDeref
    | some existingConfig =>
      match cd.keepers[existingConfig.keeperUID]? with
      | none =>
        .error (.error
          ("keeper " ++ ClusterSpec.quoted existingConfig.keeperUID ++ " state not available"))
      | some k =>
        .ok (s, addInitialMaster cd {
          uid := env.uidFn 0
          generation := initialGeneration
          spec := {
            keeperUID := k.uid
            initMode := .existing
            role := .master
            followers := some []
            includeConfig := clusterSpec.mergePgParameters
          }
        })
  else
    match cd.dbs[cd.cluster.status.master]? with
    | none => .error (missingMasterDB cd.cluster.status.master)
    | some db =>
      if !db.status.healthy then
        .ok (s, cd)
      else
        let s' := s.trackDBConvergence env.now db clusterSpec.convergenceTimeout
        if s.dbConvergenceState env.now db clusterSpec.convergenceTimeout = .converged then
          .ok (s', completeInit cd clusterSpec cd.cluster.status.master db)
        else
          .ok (s', cd)

def initPITR (env : Env) (s : Sentinel) (cd : ClusterData)
    : Except Fault (Sentinel × ClusterData) :=
  let clusterSpec := cd.cluster.defSpec
  if cd.cluster.status.master = "" then
    match initialKeeper env cd with
    | .error fault => .error fault
    | .ok k =>
      match masterRole clusterSpec with
      | .error fault => .error fault
      | .ok (role, followConfig) =>
        .ok (s, addInitialMaster cd {
          uid := env.uidFn 0
          generation := initialGeneration
          spec := {
            keeperUID := k.uid
            initMode := .pitr
            pitrConfig := clusterSpec.pitrConfig
            role
            followConfig
            followers := some []
            includeConfig := clusterSpec.mergePgParameters
          }
        })
  else
    s.awaitInitialDB env cd

def initCluster (env : Env) (s : Sentinel) (cd : ClusterData)
    : Except Fault (Sentinel × ClusterData) :=
  match cd.cluster.defSpec.initMode with
  | none => .error .nilDeref
  | some .new => s.initNew env cd
  | some .existing => s.initExisting env cd
  | some .pitr => s.initPITR env cd
  | some (.unknown name) => .error (.error ("unknown init mode " ++ name))

end Sentinel
end Hysteron
