import Hysteron.Keeper.Node

/-!
One tick of the state machine of a keeper: it brings the local PostgreSQL instance to what the cluster
data asks for. Nearly every failure ends the tick, and some are only logged.
-/

namespace Hysteron
namespace Keeper

structure ResyncAnswers where
  rewind : Bool
  removeAll : RemoveAnswer
  basebackup : Bool

/--
What the operations of an initialization meet. No mode uses all of them.
-/
structure InitAnswers where
  isInitialized : Option Bool
  save : Bool
  readings : Readings
  stop : StopAnswer
  removeAll : RemoveAnswer
  create : Bool
  postgresConf : PGParameters
  startTmpMerged : StartAnswer
  waitRecoveryDone : Bool
  waitReady : Bool
  configFilePGParameters : Option PGParameters
  saveParameters : Bool
  setupRoles : Bool
  stopAgain : StopAnswer
  systemID : Option String
  resync : ResyncAnswers
  start : StartAnswer
  pgState : Option PostgresState
  fullResync : ResyncAnswers

structure RoleAnswers where
  isInitialized : Option Bool
  readings : Readings
  getRole : Option Role
  isStarted : Option Bool
  start : StartAnswer
  waitReady : Bool
  prePromoteHook : Bool
  promote : Bool
  restart : RestartAnswer
  refreshReplicationSlots : Bool

structure ConvergeAnswers where
  readings : Readings
  inSyncStandbys : Option (List String)
  reload : Bool
  restartRequired : Option Bool
  restart : RestartAnswer
  save : Bool

structure Answers where
  order : VisitOrder String
  saveKeeper : Bool
  stop : StopAnswer
  cleanStop : StopAnswer
  cleanRemoveAll : RemoveAnswer
  cleanSave : Bool
  init : InitAnswers
  role : RoleAnswers
  converge : ConvergeAnswers

def guardReturn (ok : Bool) : NodeM Unit := orReturn (pure ok)

def updateParameters (cfg : Config) (readings : Readings) (db : DB) : NodeM Unit := do
  let s ← Program.get
  setParameters (createPGParameters cfg readings s.keeper.dbLocalState.initPGParameters db)

def cleanUp (a : Answers) : NodeM Unit := do
  runIf (← Program.get).keeper.dbLocalState.initializing do
    orReturn (stopIfStarted a.cleanStop)
    orReturn (removeAll a.cleanRemoveAll)
    orReturn (saveDBLocalState {} a.cleanSave)

def initialState (db : DB) (initializing : Bool) : DBLocalState where
  uid := db.uid
  generation := noGeneration
  initializing

def keepInitParameters (db : DB) (next : DBLocalState) (a : InitAnswers) : NodeM Unit :=
  runIf db.spec.includeConfig do
    match ← getConfigFilePGParameters a.configFilePGParameters with
    | none => Program.exit .returned
    | some pgParameters =>
      orReturn (saveDBLocalState { next with initPGParameters := some pgParameters } a.saveParameters)

def initNew (cfg : Config) (db : DB) (a : InitAnswers) : NodeM Unit := do
  orReturn (saveDBLocalState (initialState db true) a.save)
  updateParameters cfg a.readings db
  orReturn (stopIfStarted a.stop)
  orReturn (removeAll a.removeAll)
  orReturn (create a.create)
  orReturn (startTmpMerged a.postgresConf a.startTmpMerged)
  guardReturn a.waitReady
  keepInitParameters db (initialState db true) a
  guardReturn a.setupRoles
  orReturn (stopIfStarted a.stopAgain)
  completed db.uid false

/--
A restore that follows an external server goes on as its standby and does not wait for the recovery.
-/
def pitrFollow (db : DB) : Option FollowConfig :=
  db.spec.followConfig.filter (fun followConfig => followConfig.type = .external)

def pitrRecoveryOptions (db : DB) (pitrConfig : PITRConfig) : RecoveryOptions :=
  match pitrFollow db with
  | some followConfig =>
    createRecoveryOptions .standby followConfig.standbySettings pitrConfig.archiveRecoverySettings
      pitrConfig.recoveryTargetSettings
  | none =>
    createRecoveryOptions .recovery none pitrConfig.archiveRecoverySettings
      pitrConfig.recoveryTargetSettings

def initPITR (cfg : Config) (db : DB) (a : InitAnswers) : NodeM Unit := do
  orReturn (saveDBLocalState (initialState db true) a.save)
  updateParameters cfg a.readings db
  orReturn (stopIfStarted a.stop)
  orReturn (removeAll a.removeAll)
  match db.spec.pitrConfig with
  | none => Program.exit .panicked
  | some pitrConfig =>
    orReturn (create a.create)
    setRecoveryOptions (pitrRecoveryOptions db pitrConfig)
    orReturn (startTmpMerged a.postgresConf a.startTmpMerged)
    guardReturn ((pitrFollow db).isSome || a.waitRecoveryDone)
    guardReturn a.waitReady
    keepInitParameters db (initialState db true) a
    orReturn (stopIfStarted a.stopAgain)
    completed db.uid false

def rewind (cfg : Config) (db followedDB : DB) (ok : Bool) : NodeM Bool := do
  wipe
  runIf ok <| setRecoveryOptions
    (createRecoveryOptions .standby (some (followSettings cfg db followedDB)) none none)
  return ok

/--
Copy the data of the followed database, with `pg_rewind` when possible. An error of `pg_rewind` is
logged.
-/
def resync (cfg : Config) (db followedDB : DB) (tryPgrewind : Bool) (a : ResyncAnswers)
    : NodeM Bool := do
  let rewound ←
    (if tryPgrewind && usePgrewind cfg db then rewind cfg db followedDB a.rewind else pure false)
  if rewound then
    return true
  else if ← removeAll a.removeAll then
    return a.basebackup
  else
    return false

def isDifferentTimelineBranch (followedDB : DB) (pgState : PostgresState) : Bool :=
  (detectTimelineBranchDivergence followedDB.status.timelineID followedDB.status.timelinesHistory
    pgState.timelineID pgState.timelinesHistory pgState.xLogPos).different

def verifyRewind (cfg : Config) (db followedDB : DB) (a : InitAnswers) : NodeM Unit := do
  let fullResync ←
    (if a.waitReady then
      match a.pgState with
      | none => Program.exit .returned
      | some pgState => pure (isDifferentTimelineBranch followedDB pgState)
    else
      pure true)
  runIf fullResync do
    orReturn (stopIfStarted a.stopAgain)
    orReturn (resync cfg db followedDB false a.fullResync)

def pgrewindDecision (cd : ClusterData) (db followedDB : DB) (initialized : Bool) (systemID : String)
    : PgrewindDecision :=
  let masterDB := cd.dbs[cd.cluster.status.master]?
  evaluatePgrewindDecision initialized systemID followedDB.status.systemID masterDB.isSome
    db.status.xLogPos (masterDB.elim "" (fun masterDB => masterDB.status.olderWalFile))

def initResync (cfg : Config) (cd : ClusterData) (db : DB) (initialized : Bool) (a : InitAnswers)
    : NodeM Unit := do
  orReturn (saveDBLocalState (initialState db true) a.save)
  orReturn (stopIfStarted a.stop)
  updateParameters cfg a.readings db
  guardReturn (!initialized || a.systemID.isSome)
  match db.spec.followConfig with
  | none => Program.exit .panicked
  | some followConfig =>
    match cd.dbs[followConfig.dbuid]? with
    | none => Program.exit .returned
    | some followedDB =>
      let systemID := if initialized then a.systemID.getD "" else ""
      let tryPgrewind := (pgrewindDecision cd db followedDB initialized systemID).attempt
      orReturn (resync cfg db followedDB tryPgrewind a.resync)
      orReturn (start a.start)
      runIf tryPgrewind (verifyRewind cfg db followedDB a)
      completed db.uid true

def initExisting (cfg : Config) (db : DB) (a : InitAnswers) : NodeM Unit := do
  orReturn (saveDBLocalState (initialState db false) a.save)
  updateParameters cfg a.readings db
  orReturn (stopIfStarted a.stop)
  orReturn (startTmpMerged a.postgresConf a.startTmpMerged)
  guardReturn a.waitReady
  keepInitParameters db (initialState db false) a
  orReturn (stopIfStarted a.stopAgain)

def initializeDB (cfg : Config) (cd : ClusterData) (db : DB) (a : InitAnswers) : NodeM Unit := do
  match a.isInitialized with
  | none => Program.exit .returned
  | some initialized =>
    setRecoveryOptions {}
    setWaitSyncStandbysSynced false
    match db.spec.initMode with
    | .new => initNew cfg db a
    | .pitr => initPITR cfg db a
    | .resync => initResync cfg cd db initialized a
    | .existing => initExisting cfg db a
    | .none => Program.exit .returned

def startMaster (cfg : Config) (cd : ClusterData) (db : DB) (a : RoleAnswers) : NodeM Unit := do
  runIf db.spec.synchronousReplication do
    setWaitSyncStandbysSynced true
    setHba (← liftExcept (generateHBA cfg cd db true))
  orReturn (start a.start)
  guardReturn a.waitReady

def applyMaster (cfg : Config) (cd : ClusterData) (db : DB) (localRole : Role) (a : RoleAnswers)
    : NodeM Unit := do
  guardReturn (localRole ≠ .undefined)
  setRecoveryOptions {}
  match ← isStarted a.isStarted with
  | none => Program.exit .returned
  | some started =>
    runIf (!started) (startMaster cfg cd db a)
    runIf (localRole = .standby) do
      guardReturn a.prePromoteHook
      guardReturn a.promote
    guardReturn a.refreshReplicationSlots

def standbyOptions (cfg : Config) (cd : ClusterData) (db : DB) (followConfig : FollowConfig)
    : Option (RecoveryOptions × RecoveryOptions) :=
  match followConfig.type with
  | .internal => do
    let followedDB ← cd.dbs[followConfig.dbuid]?
    let options :=
      createRecoveryOptions .standby (some (followSettings cfg db followedDB)) none none
    return (options, options)
  | .external =>
    some (createRecoveryOptions .standby followConfig.standbySettings none none,
      createRecoveryOptions .standby followConfig.standbySettings
        followConfig.archiveRecoverySettings none)
  | .unknown _ => none

/--
A failed refresh of the replication slots and a failed resume of the WAL replay are only logged.
-/
def runStandby (startOptions newRecoveryOptions : RecoveryOptions) (a : RoleAnswers) : NodeM Unit := do
  match ← isStarted a.isStarted with
  | none => Program.exit .returned
  | some started =>
    runIf (!started) do
      setRecoveryOptions startOptions
      orReturn (start a.start)
    let curRecoveryOptions := (← Program.get).keeper.pgm.cur.recoveryOptions
    runIf (curRecoveryOptions.recoveryParameters ≠ newRecoveryOptions.recoveryParameters) do
      setRecoveryOptions newRecoveryOptions
      orReturn (restart a.restart)

def applyStandby (cfg : Config) (cd : ClusterData) (db : DB) (localRole : Role) (a : RoleAnswers)
    : NodeM Unit := do
  match db.spec.followConfig with
  | none => Program.exit .panicked
  | some followConfig =>
    match standbyOptions cfg cd db followConfig with
    | none => Program.exit .returned
    | some (startOptions, newRecoveryOptions) =>
      guardReturn (localRole = .standby)
      runStandby startOptions newRecoveryOptions a

def applyRole (cfg : Config) (cd : ClusterData) (db : DB) (a : RoleAnswers) : NodeM Unit := do
  guardReturn a.isInitialized.isSome
  updateParameters cfg a.readings db
  let initialized := a.isInitialized.getD false
  guardReturn (!initialized || a.getRole.isSome)
  let localRole := if initialized then a.getRole.getD .undefined else .undefined
  match db.spec.role with
  | .master => applyMaster cfg cd db localRole a
  | .standby => applyStandby cfg cd db localRole a
  | .undefined => Program.exit .returned

def changeParameters (cfg : Config) (readings : Readings) (db : DB) : NodeM Bool := do
  let s ← Program.get
  let pgParameters := createPGParameters cfg readings s.keeper.dbLocalState.initPGParameters db
  if pgParameters = s.keeper.pgm.cur.parameters then
    return false
  else
    setParameters pgParameters
    return true

def checkSyncStandbys (db : DB) (inSyncStandbys : Option (List String)) : NodeM Unit := do
  if db.spec.synchronousReplication && (← Program.get).keeper.waitSyncStandbysSynced then
    match inSyncStandbys with
    | none => Program.exit .returned
    | some names =>
      runIf (Slices.compareStringSliceNoOrder (getInSyncStandbys names)
          db.spec.synchronousStandbys.elems) <|
        Program.modify fun s => { s with
          keeper := { s.keeper with waitSyncStandbysSynced := false }
          pg := { s.pg with unsynced := false }
        }
  else
    setWaitSyncStandbysSynced false

def changeHba (newHBA : List String) : NodeM Bool := do
  if some newHBA = (← Program.get).keeper.pgm.cur.hba then
    return false
  else
    setHba newHBA
    return true

def changeIdent (ident : Slice String) : NodeM Bool := do
  if ident = (← Program.get).keeper.pgm.cur.ident then
    return false
  else
    setIdent ident
    return true

/--
Restart for parameters that wait for it. A failure is only logged, and so is a failed query.
-/
def restartIfRequired (automaticPgRestart : Bool) (a : ConvergeAnswers) : NodeM Unit := do
  let required := a.restartRequired = some true
  Program.modify fun s => { s with pg := { s.pg with pendingRestart := required } }
  runIf (required && automaticPgRestart) (logged (restart a.restart))

def saveGeneration (db : DB) (ok : Bool) : NodeM Unit := do
  let dbLocalState := (← Program.get).keeper.dbLocalState
  orReturn (saveDBLocalState
    { dbLocalState with generation := db.generation, initializing := false } ok)

/--
The end of a tick: what has changed is loaded, and the generation is saved. A failed reload is only
logged.
-/
def converge (cfg : Config) (cd : ClusterData) (db : DB) (a : ConvergeAnswers) : NodeM Unit := do
  let parametersChanged ← changeParameters cfg a.readings db
  checkSyncStandbys db a.inSyncStandbys
  let newHBA ← liftExcept
    (generateHBA cfg cd db (← Program.get).keeper.waitSyncStandbysSynced)
  let hbaChanged ← changeHba newHBA
  let identChanged ← changeIdent db.spec.pgIdent
  runIf (parametersChanged || hbaChanged || identChanged) (logged (reload a.reload))
  restartIfRequired cd.cluster.defSpec.automaticPgRestart a
  saveGeneration db a.save

def prepare (cfg : Config) (cd : ClusterData) (db : DB) (a : Answers) : NodeM Unit := do
  setHba (← liftExcept
    (generateHBA cfg cd db (← Program.get).keeper.waitSyncStandbysSynced))
  setIdent db.spec.pgIdent
  cleanUp a
  runIf ((← Program.get).keeper.dbLocalState.uid ≠ db.uid) (initializeDB cfg cd db a.init)
  applyRole cfg cd db a.role

def reconcile (cfg : Config) (cd : ClusterData) (db : DB) (a : Answers) : NodeM Unit := do
  prepare cfg cd db a
  converge cfg cd db a.converge

/--
Bind the keeper to the cluster. The in-memory state changes even if it cannot be saved.
-/
def bindCluster (cd : ClusterData) (ok : Bool) : NodeM Unit := do
  runIf ((← Program.get).keeper.keeperLocalState.clusterUID ≠ cd.cluster.uid) do
    Program.modify fun s => { s with
      keeper := { s.keeper with
        keeperLocalState := { s.keeper.keeperLocalState with clusterUID := cd.cluster.uid }
      }
    }
    guardReturn ok
    Program.modify fun s => { s with savedKeeper := s.keeper.keeperLocalState }

def stopAndReturn (answer : StopAnswer) : NodeM Unit := do
  logged (stopIfStarted answer)
  Program.exit .returned

def manage (cfg : Config) (cd : ClusterData) (a : Answers) : NodeM Unit := do
  let s ← Program.get
  match cd.keepers[s.keeper.keeperLocalState.uid]? with
  | none => Program.exit .returned
  | some k =>
    match cd.findDB a.order k.uid with
    | none => stopAndReturn a.stop
    | some db =>
      -- A new process waits until the sentinel has seen it.
      if s.keeper.bootUUID ≠ k.status.bootUUID then
        stopAndReturn a.stop
      else
        reconcile cfg cd db a

/--
One tick. `read` is what the store answers: an error, no cluster data, or cluster data.
-/
def postgresKeeperSM (cfg : Config) (read : Option (Option ClusterData)) (a : Answers)
    : NodeM Unit := do
  match read with
  | none => Program.exit .returned
  | some none => Program.exit .returned
  | some (some cd) =>
    guardReturn (cd.formatVersion = currentCDFormatVersion)
    guardReturn (ClusterSpec.validate cd.cluster.spec).isOk
    bindCluster cd a.saveKeeper
    manage cfg cd a

end Keeper
end Hysteron
