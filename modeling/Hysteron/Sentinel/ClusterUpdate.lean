import Hysteron.Sentinel.Standbys

/-!
The whole update: the next cluster data from the current one and the active proxies.
-/

namespace Hysteron
namespace Sentinel

/--
Hand the proxies over to the master. While no database is writable, all proxies must first have
converged, so that they have closed their connections to the previous one.
-/
def updateProxy (masterDBUID : String) (pis : ProxiesInfo) (proxy : Proxy) : Proxy :=
  if proxy.spec.masterDBUID = "" then
    if FinMap.anyValue pis (fun pi => pi.generation ≠ proxy.generation) then
      proxy
    else
      { proxy with
        spec := { proxy.spec with masterDBUID }
        generation := proxy.generation + 1
      }
  else
    let enabledProxies := Slices.sortStrings ((FinMap.values pis).map ProxyInfo.uid)
    if proxy.spec.enabledProxies ≠ some enabledProxies then
      { proxy with
        spec := { proxy.spec with enabledProxies := some enabledProxies }
        generation := proxy.generation + 1
      }
    else
      proxy

def confirmMasterRole (clusterSpec : DefSpec) (masterDB : DB) : DB :=
  if clusterSpec.role = .master then
    { masterDB with spec := { masterDB.spec with role := .master, followConfig := none } }
  else
    masterDB

def confirmMaster (newcd : ClusterData) (masterDBUID : String) (masterDB : DB) (pis : ProxiesInfo)
    : ClusterData :=
  { newcd with
    proxy := updateProxy masterDBUID pis newcd.proxy
    dbs := newcd.dbs.insert masterDBUID (confirmMasterRole newcd.cluster.defSpec masterDB)
  }

def keepMaster (env : Env) (s : Sentinel) (cd newcd : ClusterData) (masterDBUID : String)
    (curMasterDB : DB) (pis : ProxiesInfo) : Except Fault (Sentinel × ClusterData) :=
  match newcd.dbs[masterDBUID]? with
  | none => .error .nilDeref
  | some masterDB =>
    -- Standbys follow the master only if it is healthy and has converged.
    if masterDB.status.healthy &&
        s.dbConvergenceState env.now masterDB newcd.cluster.defSpec.convergenceTimeout
          = .converged then
      s.reconcileStandbys env cd (confirmMaster newcd masterDBUID masterDB pis) masterDBUID
        curMasterDB
    else
      .ok (s, confirmMaster newcd masterDBUID masterDB pis)

def followersOf (newcd : ClusterData) (masterUID wantedMasterDBUID : String) : List String :=
  let followers := newcd.dbs.filter (fun _ db =>
    db.uid ≠ masterUID &&
      db.spec.followConfig.any (fun fc => fc.type = .internal && fc.dbuid = wantedMasterDBUID))
  Slices.sortStrings ((FinMap.values followers).map DB.uid)

/--
Update the followers of the database that was the master when the update started.
-/
def updateFollowers (newcd : ClusterData) (curMasterDBUID wantedMasterDBUID : String)
    : Except Fault ClusterData :=
  match newcd.dbs[curMasterDBUID]? with
  | none => .error .nilDeref
  | some masterDB =>
    let followers := followersOf newcd masterDB.uid wantedMasterDBUID
    let spec := { masterDB.spec with followers := some followers }
    .ok { newcd with dbs := newcd.dbs.insert curMasterDBUID { masterDB with spec } }

def missingCurMasterDB (curMasterDBUID : String) : Fault :=
  .error ("db for keeper " ++ ClusterSpec.quoted curMasterDBUID ++
    " not available, this shouldn't happen")

def clearManualSwitch (election : Election) (newcd : ClusterData) : ClusterData :=
  if election.manualSwitchApplied then
    { newcd with
      cluster := { newcd.cluster with status := { newcd.cluster.status with manualSwitch := none } }
    }
  else
    newcd

def applyElection (env : Env) (election : Election) (cd newcd : ClusterData)
    (curMasterDBUID : String) (curMasterDB : DB) (pis : ProxiesInfo)
    : Except Fault (Sentinel × ClusterData) :=
  if election.wantedMasterDBUID = curMasterDBUID then
    election.sentinel.keepMaster env cd newcd curMasterDBUID curMasterDB pis
  else
    match promoteNewMaster newcd curMasterDBUID election.wantedMasterDBUID with
    | .error fault => .error fault
    | .ok newcd => .ok (election.sentinel, newcd)

def updateNormal (env : Env) (s : Sentinel) (cd : ClusterData) (pis : ProxiesInfo)
    : Except Fault (Sentinel × ClusterData) := do
  let curMasterDBUID := cd.cluster.status.master
  match cd.dbs[curMasterDBUID]? with
  | none => .error (missingCurMasterDB curMasterDBUID)
  | some curMasterDB =>
    let newcd := removeOldKeepers env.now cd
    let election ← s.elect env newcd curMasterDBUID curMasterDB
    let newcd := clearManualSwitch election newcd
    let (s, newcd) ← applyElection env election cd newcd curMasterDBUID curMasterDB pis
    let newcd ← updateFollowers newcd curMasterDBUID election.wantedMasterDBUID
    return (s, newcd)

def hysteronName (name : String) : String := ClusterSpec.hysteronPrefix ++ name

def computeOrphanMemberSlots (prevFollowers currentFollowers : List String)
    (prevOrphans : Option (FinMap String Time)) (masterChanged : Bool) (now : Time)
    : Option (FinMap String Time) :=
  if masterChanged then
    none
  else
    let current := currentFollowers.map hysteronName
    let out := (prevOrphans.getD ∅).filter (fun slot _ => !current.contains slot)
    let out := (prevFollowers.map hysteronName).foldl (fun out slot =>
      if current.contains slot then out else out.insertIfNew slot now) out
    if out = ∅ then
      none
    else
      some out

def updateOrphanMemberSlots (now : Time) (cd newcd : ClusterData) : ClusterData :=
  let masterUID := newcd.cluster.status.master
  if masterUID = "" then
    newcd
  else
    { newcd with
      dbs := newcd.dbs.modify masterUID (fun masterDB =>
        let orphanMemberSlots :=
          if newcd.cluster.defSpec.memberReplicationSlotTTL.any (· > 0) then
            let prevFollowers :=
              match cd.dbs[masterUID]? with
              | some prevMasterDB => prevMasterDB.spec.followers.elems
              | none => []
            let masterChanged :=
              cd.cluster.status.master ≠ "" && cd.cluster.status.master ≠ masterUID
            computeOrphanMemberSlots prevFollowers masterDB.spec.followers.elems
              masterDB.status.orphanMemberSlots masterChanged now
          else
            none
        { masterDB with status := { masterDB.status with orphanMemberSlots } })
    }

def bumpGenerations (cd newcd : ClusterData) : ClusterData :=
  { newcd with
    dbs := newcd.dbs.map (fun dbUID db =>
      match cd.dbs[dbUID]? with
      | none => db
      | some prevDB =>
        if db.spec ≠ prevDB.spec then
          { db with generation := db.generation + 1 }
        else
          db)
  }

def finishUpdate (now : Time) (cd newcd : ClusterData) : Except Fault ClusterData := do
  let newcd ← setDBSpecFromClusterSpec newcd
  let newcd := updateOrphanMemberSlots now cd newcd
  return bumpGenerations cd newcd

/--
Compute the next cluster data. A failed update leaves the memory of the sentinel as it is.
-/
def updateCluster (env : Env) (s : Sentinel) (cd : ClusterData) (pis : ProxiesInfo)
    : Except Fault (Sentinel × ClusterData) := do
  match cd.cluster.status.phase with
  | .initializing =>
    let (s, newcd) ← s.initCluster env cd
    let newcd ← finishUpdate env.now cd newcd
    return (s, newcd)
  | .normal =>
    if cd.cluster.status.pauseActive env.now then
      return (s, cd)
    let (s, newcd) ← s.updateNormal env cd pis
    let newcd ← finishUpdate env.now cd newcd
    return (s, newcd)
  | .unknown name => .error (.error ("unknown cluster phase " ++ name))

end Sentinel
end Hysteron
