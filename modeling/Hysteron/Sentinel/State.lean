import Hysteron.Sentinel.ClusterUpdate

/-!
The merge of the published keeper state into the cluster data, and the proxies considered active.
-/

namespace Hysteron
namespace Sentinel

def ownKeepersInfo (cd : ClusterData) (keepersInfo : KeepersInfo) : KeepersInfo :=
  keepersInfo.filter (fun _ ki => ki.clusterUID = cd.cluster.uid)

def isFreshInfo (s : Sentinel) (now : Time) (keeperUID : String) (ki : KeeperInfo) : Bool :=
  match s.keeperInfoHistories[keeperUID]? with
  | none => true
  | some kih =>
    kih.keeperInfo.infoUID ≠ ki.infoUID || (kih.seen && decide (now - kih.timer ≤ s.sleepInterval))

def freshKeepersInfo (s : Sentinel) (now : Time) (cd : ClusterData) (keepersInfo : KeepersInfo)
    : KeepersInfo :=
  (ownKeepersInfo cd keepersInfo).filter (s.isFreshInfo now)

def firstRunHistories (s : Sentinel) (cd : ClusterData) (keepersInfo : KeepersInfo)
    : FinMap String KeeperInfoHistory :=
  (ownKeepersInfo cd keepersInfo).foldl (fun kihs keeperUID ki =>
    kihs.insert keeperUID { keeperInfo := ki, seen := false }) s.keeperInfoHistories

def nextHistories (s : Sentinel) (now : Time) (cd : ClusterData) (keepersInfo : KeepersInfo)
    : FinMap String KeeperInfoHistory :=
  (ownKeepersInfo cd keepersInfo).foldl (fun kihs keeperUID ki =>
    if (s.keeperInfoHistories[keeperUID]?).any (fun kih => kih.keeperInfo.infoUID = ki.infoUID) then
      kihs
    else
      kihs.insert keeperUID { keeperInfo := ki, seen := true, timer := now }) s.keeperInfoHistories

def addNewKeepers (now : Time) (keepersInfo : KeepersInfo) (keepers : FinMap String Keeper)
    : FinMap String Keeper :=
  keepersInfo.foldl (fun keepers keeperUID ki =>
    if keepers.contains keeperUID then
      keepers
    else
      keepers.insert ki.uid (newKeeperFromKeeperInfo ki now)) keepers

def mergeKeeperInfo (ki : KeeperInfo) (k : Keeper) : Keeper :=
  { k with
    status := { k.status with
      canBeMaster := ki.canBeMaster
      canBeSynchronousReplica := ki.canBeSynchronousReplica
      masterPriority := ki.masterPriority
      hostname := ki.hostname
      nodeName := ki.nodeName
      bootUUID := ki.bootUUID
      postgresBinaryVersion := ki.postgresBinaryVersion
    }
  }

def updateKeeperErrors (s : Sentinel) (now : Time) (fresh : KeepersInfo)
    (keepers : FinMap String Keeper) : Sentinel :=
  keepers.foldl (fun s keeperUID _ =>
    if fresh.contains keeperUID then
      s.cleanKeeperError keeperUID
    else
      s.setKeeperError now keeperUID) s

def updateKeeperHealth (s : Sentinel) (now : Time) (cd : ClusterData) (k : Keeper) : Keeper :=
  let healthy := s.isKeeperHealthy now cd k && !k.status.forceFail
  { k with
    status := { k.status with
      healthy
      forceFail := false
      lastHealthyTime :=
        if healthy || k.status.lastHealthyTime = 0 then now else k.status.lastHealthyTime
    }
  }

def updateHealthySince (s : Sentinel) (now : Time) (k : Keeper) (healthy : Bool) : Sentinel :=
  { s with
    keeperHealthySince :=
      if !healthy then
        s.keeperHealthySince.erase k.uid
      else if !k.status.healthy then
        s.keeperHealthySince.insert k.uid now
      else
        s.keeperHealthySince.insertIfNew k.uid now
  }

def updateKeepersHealthMemory (s : Sentinel) (now : Time) (cd : ClusterData) : Sentinel :=
  let s' := cd.keepers.foldl (fun s' _ k =>
    s'.updateHealthySince now k (s.updateKeeperHealth now cd k).status.healthy) s
  let forceFailed := cd.keepers.filter (fun _ k => k.status.forceFail)
  { s' with
    forceFailedKeeperUIDs := Std.ExtTreeSet.ofList ((FinMap.values forceFailed).map Keeper.uid) compare }

def reportedState (fresh : KeepersInfo) (db : DB) : Option PostgresState :=
  match fresh[db.spec.keeperUID]? with
  | none => none
  | some ki =>
    match ki.postgresState with
    | none => none
    | some dbs => if dbs.uid = db.uid then some dbs else none

def mergeDBState (dbs : PostgresState) (db : DB) : DB :=
  let status := { db.status with
    listenAddress := dbs.listenAddress
    port := dbs.port
    currentGeneration := dbs.generation
  }
  { db with
    status :=
      if dbs.healthy then
        { status with
          systemID := dbs.systemID
          timelineID := dbs.timelineID
          xLogPos := dbs.xLogPos
          timelinesHistory := dbs.timelinesHistory
          pgParameters := dbs.pgParameters
          managedLogicalSlots := dbs.managedLogicalSlots
          curSynchronousStandbys := dbs.synchronousStandbys
          olderWalFile := dbs.olderWalFile
        }
      else
        status
  }

def updateDBMemory (s : Sentinel) (now : Time) (fresh : KeepersInfo) (db : DB) : Sentinel :=
  match reportedState fresh db with
  | none => s.setDBError now db.uid
  | some dbs =>
    let s :=
      if db.status.xLogPos = dbs.xLogPos then
        s.setDBNotIncreasingXLogPos db.uid
      else
        { s.cleanDBNotIncreasingXLogPos db.uid with
          dbIncreasingXLogPosObservedAt := s.dbIncreasingXLogPosObservedAt.insert db.uid now }
    if dbs.healthy then
      s.cleanDBError db.uid
    else
      s.setDBError now db.uid

def mergeReport (fresh : KeepersInfo) (db : DB) : DB :=
  match reportedState fresh db with
  | none => db
  | some dbs => mergeDBState dbs db

def updateDBHealth (s : Sentinel) (now : Time) (cd : ClusterData) (keepers : FinMap String Keeper)
    (db : DB) : DB :=
  let keeperHealthy := (keepers[db.spec.keeperUID]?).any (fun k => k.status.healthy)
  { db with status := { db.status with healthy := s.isDBHealthy now cd db && keeperHealthy } }

def mergedKeepers (now : Time) (fresh : KeepersInfo) (cd : ClusterData) : FinMap String Keeper :=
  (addNewKeepers now fresh cd.keepers).map (fun keeperUID k =>
    match fresh[keeperUID]? with
    | some ki => mergeKeeperInfo ki k
    | none => k)

def updateKeepersStatus (s : Sentinel) (now : Time) (cd : ClusterData) (keepersInfo : KeepersInfo)
    (firstRun : Bool)
    : Except Fault (Sentinel × ClusterData × FinMap String KeeperInfoHistory) :=
  if firstRun then
    .ok (s, cd, s.firstRunHistories cd keepersInfo)
  else
    let kihs := s.nextHistories now cd keepersInfo
    let fresh := s.freshKeepersInfo now cd keepersInfo
    let cd := { cd with keepers := mergedKeepers now fresh cd }
    let s := s.updateKeeperErrors now fresh cd.keepers
    let keepers := cd.keepers.map (fun _ k => s.updateKeeperHealth now cd k)
    let s := s.updateKeepersHealthMemory now cd
    let s := cd.dbs.foldl (fun s _ db => s.updateDBMemory now fresh db) s
    -- The keeper record of every database is dereferenced.
    if FinMap.anyValue cd.dbs (fun db => !keepers.contains db.spec.keeperUID) then
      .error .nilDeref
    else
      let dbs := cd.dbs.map (fun _ db => s.updateDBHealth now cd keepers (mergeReport fresh db))
      .ok (s, { cd with keepers, dbs }, kihs)

def activeProxiesInfos (s : Sentinel) (now : Time) (proxiesInfo : ProxiesInfo)
    : Sentinel × ProxiesInfo :=
  let isSilent (pi : ProxyInfo) : Bool :=
    match s.proxyInfoHistories[pi.uid]? with
    | none => false
    | some pih =>
      pih.proxyInfo.infoUID = pi.infoUID && decide (now - pih.timer > int64 (2 * pi.proxyTimeout))
  let pihs := s.proxyInfoHistories.filter (fun proxyUID _ => proxiesInfo.contains proxyUID)
  let pihs := proxiesInfo.foldl (fun pihs _ pi =>
    if (s.proxyInfoHistories[pi.uid]?).any (fun pih => pih.proxyInfo.infoUID = pi.infoUID) then
      pihs
    else
      pihs.insert pi.uid { proxyInfo := pi, timer := now }) pihs
  ({ s with proxyInfoHistories := pihs }, proxiesInfo.filter (fun _ pi => !isSilent pi))

end Sentinel
end Hysteron
