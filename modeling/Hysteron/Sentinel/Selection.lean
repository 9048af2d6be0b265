import Hysteron.Cluster.Timeline
import Hysteron.Sentinel.Health

/-!
Classification of databases and selection of candidate masters and standbys.

The loops of the source look databases up by their UID. In the maps built here a database keeps the
key under which the cluster data holds it, which is its UID in every stored state.
-/

namespace Hysteron

inductive DBType where
  /-- A writer lineage root: a master, or a standby that follows an external server. -/
  | primaryLine
  | replicaLine
  deriving DecidableEq, Repr

inductive DBValidity where
  | valid
  | invalid
  | unknown
  deriving DecidableEq, Repr

inductive DBStatusClass where
  | good
  | failed
  | converging
  deriving DecidableEq, Repr

def unknownDBUID (dbUID : String) : Fault :=
  .error ("unknown db uid " ++ ClusterSpec.quoted dbUID)

def FollowConfig.isExternal (followConfig : Option FollowConfig) : Bool :=
  followConfig.any (fun fc => fc.type = .external)

def DBSpec.type (spec : DBSpec) : Option DBType :=
  match spec.role with
  | .master => some .primaryLine
  | .standby =>
    if FollowConfig.isExternal spec.followConfig then
      some .primaryLine
    else
      some .replicaLine
  | .undefined => none

def dbType (cd : ClusterData) (dbUID : String) : Except Fault DBType :=
  match cd.dbs[dbUID]? with
  | none => .error (unknownDBUID dbUID)
  | some db =>
    match db.spec.type with
    | some dt => .ok dt
    | none => .error (.error ("invalid db role in spec for db " ++ ClusterSpec.quoted dbUID))

/--
Whether to use synchronous replication. The master of a standby cluster is a cascading standby and
cannot use it.
-/
def syncRepl (spec : DefSpec) : Bool :=
  spec.synchronousReplication && spec.role = .master

def isDifferentTimelineBranch (followedDB db : DB) : Bool :=
  (detectTimelineBranchDivergence followedDB.status.timelineID followedDB.status.timelinesHistory
    db.status.timelineID db.status.timelinesHistory db.status.xLogPos).different

def isLagBelowMax (cd : ClusterData) (curMasterDB db : DB) : Bool :=
  let lag := curMasterDB.status.xLogPos - db.status.xLogPos
  decide (lag ≤ cd.cluster.defSpec.maxStandbyLag.toNat)

def dbValidity (cd : ClusterData) (dbUID : String) : Except Fault DBValidity :=
  match cd.dbs[dbUID]? with
  | none => .error (unknownDBUID dbUID)
  | some db =>
    if db.status.currentGeneration = noGeneration then
      .ok .unknown
    else
      match cd.dbs[cd.cluster.status.master]? with
      | none => .ok .unknown
      | some masterDB =>
        -- An empty system id was not provided and is ignored.
        if db.status.systemID ≠ "" ∧ db.status.systemID ≠ masterDB.status.systemID then
          .ok .invalid
        else if isDifferentTimelineBranch masterDB db then
          .ok .invalid
        else
          .ok .valid

namespace Sentinel

def dbCanSync (s : Sentinel) (cd : ClusterData) (dbUID : String) : Except Fault Bool :=
  match cd.dbs[dbUID]? with
  | none => .error (unknownDBUID dbUID)
  | some db =>
    match cd.dbs[cd.cluster.status.master]? with
    | none => .ok true
    | some masterDB =>
      if masterDB.status.olderWalFile = "" then
        .ok true
      else if dbUID = masterDB.uid then
        .ok true
      else
        match dbType cd db.uid with
        | .error fault => .error fault
        | .ok .primaryLine => .ok true
        | .ok .replicaLine =>
          if db.generation = initialGeneration then
            .ok true
          else if !db.status.healthy then
            .ok true
          else if db.status.xLogPos = masterDB.status.xLogPos then
            .ok true
          else if s.isDBIncreasingXLogPos db then
            .ok true
          else
            match isRequiredWalAvailable db.status.xLogPos masterDB.status.olderWalFile walSegSize with
            | .error message => .error (.error message)
            | .ok walAvailable => .ok walAvailable

def dbConvergenceTimeout (cd : ClusterData) (db : DB) : Duration :=
  if db.generation = initialGeneration ∧ db.spec.initMode = .resync then
    cd.cluster.defSpec.syncTimeout
  else
    cd.cluster.defSpec.convergenceTimeout

def dbStatusOn (s : Sentinel) (now : Time) (cd : ClusterData) (keeper : Keeper) (db : DB)
    : DBStatusClass :=
  if !keeper.status.healthy then
    .failed
  else
    match s.dbConvergenceState now db (dbConvergenceTimeout cd db) with
    | .convergenceFailed => .failed
    | .converging => .converging
    | .converged => if !db.status.healthy then .failed else .good

def dbStatus (s : Sentinel) (now : Time) (cd : ClusterData) (dbUID : String)
    : Except Fault DBStatusClass :=
  match cd.dbs[dbUID]? with
  | none => .error (unknownDBUID dbUID)
  | some db =>
    match cd.keepers[db.spec.keeperUID]? with
    | none => .error .nilDeref
    | some keeper => .ok (s.dbStatusOn now cd keeper db)

def isValidOfType (cd : ClusterData) (wantType : DBType) (dbUID : String) : Bool :=
  match dbValidity cd dbUID, dbType cd dbUID with
  | .ok validity, .ok dt => validity = .valid && dt = wantType
  | _, _ => false

structure DBsByStatus where
  good : FinMap String DB
  failed : FinMap String DB
  converging : FinMap String DB

def validDBsByStatus (s : Sentinel) (now : Time) (cd : ClusterData) (wantType : DBType)
    : Except Fault DBsByStatus :=
  let wanted := cd.dbs.filter (fun _ db => isValidOfType cd wantType db.uid)
  -- A missing keeper record is dereferenced.
  if FinMap.anyValue wanted (fun db => s.dbStatus now cd db.uid = .error .nilDeref) then
    .error .nilDeref
  else
    .ok {
      good := wanted.filter (fun _ db => s.dbStatus now cd db.uid = .ok .good)
      failed := wanted.filter (fun _ db => s.dbStatus now cd db.uid = .ok .failed)
      converging := wanted.filter (fun _ db => s.dbStatus now cd db.uid = .ok .converging)
    }

def validMastersByStatus (s : Sentinel) (now : Time) (cd : ClusterData) : Except Fault DBsByStatus :=
  s.validDBsByStatus now cd .primaryLine

def validStandbysByStatus (s : Sentinel) (now : Time) (cd : ClusterData)
    : Except Fault DBsByStatus :=
  s.validDBsByStatus now cd .replicaLine

def trackValidDBs (s : Sentinel) (now : Time) (cd : ClusterData) (wantType : DBType) : Sentinel :=
  cd.dbs.foldl (fun s _ db =>
    match cd.keepers[db.spec.keeperUID]? with
    | some keeper =>
      if isValidOfType cd wantType db.uid && keeper.status.healthy then
        s.trackDBConvergence now db (dbConvergenceTimeout cd db)
      else
        s
    | none => s) s

end Sentinel

def keeperMasterPriority (cd : ClusterData) (db : DB) : Int :=
  match cd.keepers[db.spec.keeperUID]? with
  | none => 0
  | some keeper => keeper.status.masterPriority

def candidateLess (cd : ClusterData) (a b : DB) : Bool :=
  if a.status.xLogPos ≠ b.status.xLogPos then
    decide (a.status.xLogPos < b.status.xLogPos)
  else if keeperMasterPriority cd a ≠ keeperMasterPriority cd b then
    decide (keeperMasterPriority cd a > keeperMasterPriority cd b)
  else
    decide (a.uid < b.uid)

def sortCandidateMasters (cd : ClusterData) (candidates : List DB) : List DB :=
  candidates.insertionSort (fun a b => candidateLess cd b a = false)

/--
A database on the timeline of the master that does not lag too much. With synchronous replication
the last reported WAL position is ignored, since it would skip valid synchronous standbys.
-/
def isNearMaster (cd : ClusterData) (masterDB db : DB) : Bool :=
  db.status.timelineID = masterDB.status.timelineID &&
    (syncRepl cd.cluster.defSpec || isLagBelowMax cd masterDB db)

def canBeMaster (cd : ClusterData) (db : DB) : Bool :=
  match cd.keepers[db.spec.keeperUID]? with
  | none => true
  | some keeper => keeper.status.canBeMaster ≠ some false

namespace Sentinel

def findBestStandbys (env : Env) (s : Sentinel) (search : CandidateSearch) (cd : ClusterData)
    (masterDB : DB) : Except Fault (List DB) := do
  let standbys ← s.validStandbysByStatus env.now cd
  let bestDBs := (FinMap.valuesIn (env.order (.goodStandbys search)) standbys.good).filter
    (isNearMaster cd masterDB)
  return bestDBs.insertionSort (fun a b => a.status.xLogPos ≤ b.status.xLogPos)

def findBestNewMasters (env : Env) (s : Sentinel) (search : CandidateSearch) (cd : ClusterData)
    (masterDB : DB) : Except Fault (List DB) := do
  let standbys ← s.findBestStandbys env search cd masterDB
  let masters ← s.validMastersByStatus env.now cd
  -- Previous masters are added to the standbys.
  let previousMasters := (FinMap.valuesIn (env.order (.validMasters search)) masters.good).filter
    (fun db => db.uid ≠ masterDB.uid && isNearMaster cd masterDB db)
  return sortCandidateMasters cd (standbys.filter (canBeMaster cd) ++ previousMasters)

def trackCandidates (s : Sentinel) (now : Time) (cd : ClusterData) : Sentinel :=
  (s.trackValidDBs now cd .replicaLine).trackValidDBs now cd .primaryLine

def bestPriorityAbove (cd : ClusterData) (priority : Int) : List DB → Option DB
  | [] => none
  | candidate :: candidates =>
    if keeperMasterPriority cd candidate ≤ priority then
      bestPriorityAbove cd priority candidates
    else
      match bestPriorityAbove cd (keeperMasterPriority cd candidate) candidates with
      | some target => some target
      | none => some candidate

def autoFailbackDue (s : Sentinel) (now : Time) (spec : DefSpec) (keeper : Keeper) : Bool :=
  keeper.status.healthy &&
  (spec.autoFailbackMinUptime ≤ 0 ||
    match s.keeperHealthySince[keeper.uid]? with
    | none => false
    | some healthySince => decide (spec.autoFailbackMinUptime ≤ now - healthySince)) &&
  (spec.autoFailbackCooldown ≤ 0 || s.autoFailbackLastSwitchAt = 0 ||
    spec.autoFailbackCooldown ≤ now - s.autoFailbackLastSwitchAt)

def chooseAutoFailbackTarget (env : Env) (s : Sentinel) (cd : ClusterData) (curMasterDB : DB)
    : Except Fault (Option DB) := do
  let spec := cd.cluster.defSpec
  if !spec.unsafeAutoFailback then
    return none
  let candidates ← s.findBestNewMasters env .autoFailback cd curMasterDB
  match bestPriorityAbove cd (keeperMasterPriority cd curMasterDB) candidates with
  | none => return none
  | some target =>
    match cd.keepers[target.spec.keeperUID]? with
    | none => return none
    | some keeper => return if s.autoFailbackDue env.now spec keeper then some target else none

end Sentinel
end Hysteron
