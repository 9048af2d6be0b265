import Hysteron.Sentinel.ClusterInit

/-!
The first part of an update in the normal phase: which database is wanted as the master, and how a
newly elected master takes over.
-/

namespace Hysteron

/--
Name of the synchronous standby that makes a master block while there are not enough real ones.
-/
def fakeStandbyName : String := "hysteronfakestandby"

namespace Sentinel

def removeOldKeepers (now : Time) (cd : ClusterData) : ClusterData :=
  { cd with
    keepers := cd.keepers.filter (fun _ k =>
      FinMap.anyValue cd.dbs (fun db => db.spec.keeperUID = k.uid) ||
        decide (now ≤ k.status.lastHealthyTime + cd.cluster.defSpec.deadKeeperRemovalInterval))
  }

inductive ManualSwitchOutcome where
  | noTarget
  | alreadyMaster
  | notEligible
  | switchTo (dbUID : String)
  deriving DecidableEq, Repr

def manualSwitchOutcome (env : Env) (s : Sentinel) (newcd : ClusterData) (curMasterDBUID : String)
    (curMasterDB : DB) : Except Fault ManualSwitchOutcome := do
  match newcd.cluster.status.manualSwitch with
  | none => return .noTarget
  | some req =>
    match newcd.keepers[req.targetKeeperUID]? with
    | none => return .noTarget
    | some targetKeeper =>
      match newcd.findDB (env.order .manualSwitchTarget) targetKeeper.uid with
      | none => return .noTarget
      | some targetDB =>
        if targetDB.uid = curMasterDBUID then
          return .alreadyMaster
        let candidates ← s.findBestNewMasters env .manualSwitch newcd curMasterDB
        if candidates.any (fun c => c.uid = targetDB.uid) then
          return .switchTo targetDB.uid
        else
          return .notEligible

structure Election where
  wantedMasterDBUID : String
  manualSwitchApplied : Bool
  sentinel : Sentinel

def masterOK (s : Sentinel) (now : Time) (clusterSpec : DefSpec) (curMasterDB : DB) : Bool :=
  curMasterDB.status.healthy &&
    s.dbConvergenceState now curMasterDB clusterSpec.convergenceTimeout ≠ .convergenceFailed

def electFailover (env : Env) (s : Sentinel) (newcd : ClusterData) (curMasterDBUID : String)
    (curMasterDB : DB) : Except Fault Election := do
  let failInterval := newcd.cluster.defSpec.failInterval
  let (s, best, clearBackoff) ← s.chooseBestNewMaster env newcd curMasterDB failInterval
  return {
    wantedMasterDBUID := (best.map DB.uid).getD curMasterDBUID
    manualSwitchApplied := false
    sentinel := if clearBackoff then s.clearLeaderRaceBackoff curMasterDBUID else s
  }

def electAutoFailback (env : Env) (s : Sentinel) (newcd : ClusterData) (curMasterDBUID : String)
    (curMasterDB : DB) : Except Fault Election := do
  let s := s.clearLeaderRaceBackoff curMasterDBUID
  let autoTarget ← s.chooseAutoFailbackTarget env newcd curMasterDB
  let s := if newcd.cluster.defSpec.unsafeAutoFailback then s.trackCandidates env.now newcd else s
  match autoTarget with
  | none =>
    return {
      wantedMasterDBUID := curMasterDBUID
      manualSwitchApplied := false
      sentinel := s
    }
  | some target =>
    return {
      wantedMasterDBUID := target.uid
      manualSwitchApplied := false
      sentinel := { s with autoFailbackLastSwitchAt := env.now }
    }

def electAutomatic (env : Env) (s : Sentinel) (newcd : ClusterData) (curMasterDBUID : String)
    (curMasterDB : DB) : Except Fault Election :=
  let clusterSpec := newcd.cluster.defSpec
  let tracked := s.trackDBConvergence env.now curMasterDB clusterSpec.convergenceTimeout
  if s.masterOK env.now clusterSpec curMasterDB then
    tracked.electAutoFailback env newcd curMasterDBUID curMasterDB
  else
    tracked.electFailover env newcd curMasterDBUID curMasterDB

def electManually (env : Env) (s : Sentinel) (newcd : ClusterData) (curMasterDBUID : String)
    (curMasterDB : DB) (wantedMasterDBUID : String) : Election :=
  let timeout := newcd.cluster.defSpec.convergenceTimeout
  let tracked := s.trackDBConvergence env.now curMasterDB timeout
  {
    wantedMasterDBUID
    manualSwitchApplied := true
    sentinel := tracked.clearLeaderRaceBackoff curMasterDBUID
  }

def elect (env : Env) (s : Sentinel) (newcd : ClusterData) (curMasterDBUID : String)
    (curMasterDB : DB) : Except Fault Election := do
  let outcome ← s.manualSwitchOutcome env newcd curMasterDBUID curMasterDB
  let searched := s.trackCandidates env.now newcd
  match outcome with
  | .noTarget => s.electAutomatic env newcd curMasterDBUID curMasterDB
  | .notEligible => searched.electAutomatic env newcd curMasterDBUID curMasterDB
  | .alreadyMaster => return s.electManually env newcd curMasterDBUID curMasterDB curMasterDBUID
  | .switchTo dbUID => return searched.electManually env newcd curMasterDBUID curMasterDB dbUID

def inheritSynchronousStandbys (clusterSpec : DefSpec) (oldMasterDB newMasterDB : DB) (spec : DBSpec)
    : DBSpec :=
  if syncRepl clusterSpec then
    let synchronousStandbys := oldMasterDB.spec.synchronousStandbys.elems.map
      (fun dbUID => if dbUID ≠ newMasterDB.uid then dbUID else oldMasterDB.uid)
    let fake := synchronousStandbys = [] ∧ clusterSpec.minSynchronousStandbys > 0
    { spec with
      synchronousReplication := true
      synchronousStandbys := some (Slices.sortStrings synchronousStandbys)
      externalSynchronousStandbys := some (if fake then [fakeStandbyName] else [])
    }
  else
    { spec with
      synchronousReplication := false
      synchronousStandbys := none
      externalSynchronousStandbys := none
    }

def Proxy.withoutMaster (proxy : Proxy) : Proxy :=
  if proxy.spec.masterDBUID ≠ "" then
    { proxy with
      spec := { proxy.spec with masterDBUID := "" }
      generation := proxy.generation + 1
    }
  else
    proxy

def promoteNewMaster (newcd : ClusterData) (curMasterDBUID wantedMasterDBUID : String)
    : Except Fault ClusterData :=
  let clusterSpec := newcd.cluster.defSpec
  match newcd.dbs[curMasterDBUID]? with
  | none => .error .nilDeref
  | some oldMasterDB =>
    match masterRole clusterSpec with
    | .error fault => .error fault
    | .ok (role, followConfig) =>
      match newcd.dbs[wantedMasterDBUID]? with
      | none => .error .nilDeref
      | some newMasterDB =>
        let spec := { newMasterDB.spec with role, followConfig }
        let spec := inheritSynchronousStandbys clusterSpec oldMasterDB newMasterDB spec
        let oldMasterDB := { oldMasterDB with spec := { oldMasterDB.spec with followers := some [] } }
        .ok { newcd with
          cluster := { newcd.cluster with
            status := { newcd.cluster.status with master := wantedMasterDBUID }
          }
          dbs := (newcd.dbs.insert curMasterDBUID oldMasterDB).insert wantedMasterDBUID
            { newMasterDB with spec }
          proxy := Proxy.withoutMaster newcd.proxy
        }

end Sentinel
end Hysteron
