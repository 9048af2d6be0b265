import Hysteron.Sentinel.Election

/-!
The second part of an update in the normal phase, for a master that stays, is healthy and has
converged: databases that cannot follow it are removed, its synchronous standbys are chosen, standbys
are added or removed, and all of them are made to follow it.
-/

namespace Hysteron
namespace Sentinel

def removeOldMasters (masterDBUID : String) (newcd : ClusterData) : ClusterData :=
  { newcd with
    dbs := newcd.dbs.filter (fun _ db =>
      db.uid = masterDBUID || dbType newcd db.uid ≠ .ok .primaryLine)
  }

def removeInvalidDBs (masterDBUID : String) (newcd : ClusterData) : ClusterData :=
  { newcd with
    dbs := newcd.dbs.filter (fun _ db =>
      db.uid = masterDBUID || dbValidity newcd db.uid ≠ .ok .invalid)
  }

/--
Remove the databases that will not sync since the master misses WAL that they need. They are judged
by the cluster data `cd` that the update started from.
-/
def removeUnsyncableDBs (s : Sentinel) (cd newcd : ClusterData) : ClusterData :=
  { newcd with dbs := newcd.dbs.filter (fun _ db => s.dbCanSync cd db.uid ≠ .ok false) }

def initialized (db : DB) : DB :=
  { db with spec := { db.spec with initMode := .none } }

def cleanInitMode (goodStandbys : FinMap String DB) (newcd : ClusterData) : ClusterData :=
  { newcd with
    dbs := newcd.dbs.map (fun dbUID db =>
      if goodStandbys.contains dbUID then initialized db else db)
  }

/--
Merge the standbys that the master reports in sync into those known to be in sync, while the known
ones differ from the required ones. When a required one that is not in sync yet is gone or not good,
only the known ones stay required.
-/
def mergeReportedStandbys (newcd : ClusterData) (goodStandbys : FinMap String DB) (masterDB : DB)
    : DB :=
  let required := masterDB.spec.synchronousStandbys.elems
  let known := masterDB.status.synchronousStandbys.elems
  if Slices.compareStringSliceNoOrder known required then
    masterDB
  else
    let known := Slices.commonElements known required
    let reported := Slices.commonElements masterDB.status.curSynchronousStandbys.elems required
    let known := known ++ Slices.difference reported known
    let notInSync := Slices.difference required known
    if notInSync.any (fun dbUID => !(newcd.dbs.contains dbUID && goodStandbys.contains dbUID)) then
      -- Both lists share their memory, so that sorting one sorts the other.
      let known := Slices.sortStrings known
      { masterDB with
        spec := { masterDB.spec with synchronousStandbys := some known }
        status := { masterDB.status with synchronousStandbys := some known }
      }
    else
      { masterDB with status := { masterDB.status with synchronousStandbys := some known } }

def addUpTo (eligible : DB → Bool) (count : Nat) (uids : FinSet String) : List DB → FinSet String
  | [] => uids
  | db :: dbs =>
    match count with
    | 0 => uids
    | count + 1 =>
      if uids.contains db.uid || !eligible db then
        addUpTo eligible (count + 1) uids dbs
      else
        addUpTo eligible count (uids.insert db.uid) dbs

def canBeSynchronousReplica (newcd : ClusterData) (standby : DB) : Bool :=
  match newcd.dbs[standby.uid]? with
  | none => true
  | some db =>
    match newcd.keepers[db.spec.keeperUID]? with
    | none => true
    | some keeper => keeper.status.canBeSynchronousReplica ≠ some false

/--
The members of a set of UIDs without the first `count` that a loop over it meets.
-/
def dropExcess (order : VisitOrder String) (count : Nat) (uids : FinSet String) : FinSet String :=
  let excess := (order.visit uids.toList).take count
  uids.filter (fun uid => !excess.contains uid)

def nextSynchronousStandbys (env : Env) (newcd : ClusterData) (goodStandbys : FinMap String DB)
    (bestStandbys : List DB) (prev : FinSet String) : FinSet String :=
  let clusterSpec := newcd.cluster.defSpec
  let minSynchronousStandbys := clusterSpec.minSynchronousStandbys.toNat
  let maxSynchronousStandbys := clusterSpec.maxSynchronousStandbys.toNat
  -- Remove not existing databases, failed standbys and standbys in excess.
  let uids := prev.filter (fun dbUID => newcd.dbs.contains dbUID)
  let uids := uids.filter (fun dbUID => goodStandbys.contains dbUID)
  let uids := dropExcess (env.order .excessSyncStandbys) (uids.size - maxSynchronousStandbys) uids
  -- Add missing standbys up to the maximum.
  let uids := addUpTo (canBeSynchronousReplica newcd) (maxSynchronousStandbys - uids.size) uids
    bestStandbys
  -- Keep previous standbys, also if not in a good state, to reach the minimum.
  let uids := addUpTo (fun db => prev.contains db.uid) (minSynchronousStandbys - uids.size) uids
    (FinMap.valuesIn (env.order .previousSyncStandbys) newcd.dbs)
  -- New standbys are first required together with the previous ones.
  if uids.toList.any (fun dbUID => !prev.contains dbUID) then
    uids ∪ prev.filter (fun dbUID => newcd.dbs.contains dbUID)
  else
    uids

def requireSynchronousStandbys (env : Env) (newcd : ClusterData) (goodStandbys : FinMap String DB)
    (bestStandbys : List DB) (masterDB : DB) : DB :=
  let prev := Std.ExtTreeSet.ofList masterDB.spec.synchronousStandbys.elems compare
  let uids := nextSynchronousStandbys env newcd goodStandbys bestStandbys prev
  let fake := uids.size < newcd.cluster.defSpec.minSynchronousStandbys.toNat
  { masterDB with
    spec := { masterDB.spec with
      synchronousReplication := true
      synchronousStandbys := some uids.toList
      externalSynchronousStandbys := some (if fake then [fakeStandbyName] else [])
    }
    status := { masterDB.status with
      synchronousStandbys := some
        (Slices.commonElements masterDB.status.synchronousStandbys.elems uids.toList)
    }
  }

def clearSynchronousStandbys (masterDB : DB) : DB :=
  { masterDB with
    spec := { masterDB.spec with
      synchronousReplication := false
      synchronousStandbys := none
      externalSynchronousStandbys := none
    }
    status := { masterDB.status with synchronousStandbys := none }
  }

/--
Set up the synchronous standbys of the master. They change only while the standbys known to be in
sync are the required ones.
-/
def setupSynchronousStandbys (env : Env) (newcd : ClusterData) (goodStandbys : FinMap String DB)
    (bestStandbys : List DB) (masterDB : DB) : DB :=
  if syncRepl newcd.cluster.defSpec then
    let masterDB := mergeReportedStandbys newcd goodStandbys masterDB
    if Slices.compareStringSliceNoOrder masterDB.status.synchronousStandbys.elems
        masterDB.spec.synchronousStandbys.elems then
      requireSynchronousStandbys env newcd goodStandbys bestStandbys masterDB
    else
      masterDB
  else
    clearSynchronousStandbys masterDB

def removeExcessStandbys (env : Env) (syncStandbys : List String) (goodStandbys : FinMap String DB)
    (maxStandbysPerSender : Nat) (newcd : ClusterData) : ClusterData :=
  let excess := ((FinMap.valuesIn (env.order .excessStandbys) goodStandbys).filter
    (fun db => !syncStandbys.contains db.uid)).take (goodStandbys.size - maxStandbysPerSender)
  { newcd with
    dbs := newcd.dbs.filter (fun _ db =>
      !(dbType newcd db.uid = .ok .replicaLine && !syncStandbys.contains db.uid &&
        !goodStandbys.contains db.uid) &&
      !(excess.map DB.uid).contains db.uid)
  }

def newStandbyDB (uid keeperUID masterDBUID : String) : DB where
  uid
  generation := initialGeneration
  spec := {
    keeperUID
    initMode := .resync
    role := .standby
    followers := some []
    followConfig := some { type := .internal, dbuid := masterDBUID }
  }

def addStandbysOn (env : Env) (masterDBUID : String) (used : Nat) (dbs : FinMap String DB)
    : List Keeper → FinMap String DB
  | [] => dbs
  | keeper :: keepers =>
    let db := newStandbyDB (env.uidFn used) keeper.uid masterDBUID
    addStandbysOn env masterDBUID (used + 1) (dbs.insert db.uid db) keepers

def addMissingStandbys (env : Env) (masterDBUID : String) (notFailed maxStandbysPerSender : Nat)
    (newcd : ClusterData) : ClusterData :=
  { newcd with
    dbs := addStandbysOn env masterDBUID 0 newcd.dbs
      ((freeKeepers env newcd).take (maxStandbysPerSender - notFailed))
  }

def followerOf (masterDBUID : String) (db : DB) : DB :=
  { db with
    spec := { db.spec with
      role := .standby
      followers := some []
      followConfig := some { type := .internal, dbuid := masterDBUID }
      synchronousReplication := false
      synchronousStandbys := none
      externalSynchronousStandbys := none
    }
  }

def followMaster (masterDBUID : String) (newcd : ClusterData) : ClusterData :=
  { newcd with
    dbs := newcd.dbs.map (fun _ db =>
      if dbType newcd db.uid = .ok .replicaLine then followerOf masterDBUID db else db)
  }

def resizeStandbys (env : Env) (masterDBUID : String) (standbys : DBsByStatus) (newcd : ClusterData)
    : ClusterData :=
  let maxStandbysPerSender := newcd.cluster.defSpec.maxStandbysPerSender.toNat
  if standbys.good.size ≥ maxStandbysPerSender then
    let syncStandbys :=
      match newcd.dbs[masterDBUID]? with
      | some masterDB => masterDB.spec.synchronousStandbys.elems
      | none => []
    removeExcessStandbys env syncStandbys standbys.good maxStandbysPerSender newcd
  else
    addMissingStandbys env masterDBUID (standbys.good.size + standbys.converging.size)
      maxStandbysPerSender newcd

def removeUnusableDBs (s : Sentinel) (cd newcd : ClusterData) (masterDBUID : String)
    : ClusterData :=
  s.removeUnsyncableDBs cd (removeInvalidDBs masterDBUID (removeOldMasters masterDBUID newcd))

def updateSynchronousStandbys (env : Env) (goodStandbys : FinMap String DB) (bestStandbys : List DB)
    (masterDBUID : String) (newcd : ClusterData) : ClusterData :=
  { newcd with
    dbs := newcd.dbs.modify masterDBUID
      (setupSynchronousStandbys env newcd goodStandbys bestStandbys)
  }

def reconcileStandbys (env : Env) (s : Sentinel) (cd newcd : ClusterData) (masterDBUID : String)
    (curMasterDB : DB) : Except Fault (Sentinel × ClusterData) := do
  let newcd := s.removeUnusableDBs cd newcd masterDBUID
  let standbys ← s.validStandbysByStatus env.now newcd
  let s := s.trackValidDBs env.now newcd .replicaLine
  let newcd := cleanInitMode standbys.good newcd
  let bestStandbys ← s.findBestStandbys env .syncStandbys newcd curMasterDB
  let newcd := updateSynchronousStandbys env standbys.good bestStandbys masterDBUID newcd
  let newcd := resizeStandbys env masterDBUID standbys newcd
  return (s, followMaster masterDBUID newcd)

end Sentinel
end Hysteron
