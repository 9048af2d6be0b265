import Hysteron.Sentinel.Selection

/-!
The reset of the memory when leadership is gained, and the choice of a new master when the current
one has failed.
-/

namespace Hysteron
namespace Sentinel

def runLeadershipSanitySweep (s : Sentinel) (now : Time) (cd : ClusterData) : Sentinel :=
  let s : Sentinel := {
    lastLeadershipCount := s.lastLeadershipCount
    sleepInterval := s.sleepInterval
  }
  s.updateDBConvergenceInfos now cd

def isAdvancing (s : Sentinel) (now : Time) (window : Duration) (candidate : DB) : Bool :=
  match s.dbIncreasingXLogPosObservedAt[candidate.uid]? with
  | none => false
  | some lastIncreaseAt =>
    s.isDBIncreasingXLogPos candidate && decide (now - lastIncreaseAt < window)

def clearLeaderRaceBackoff (s : Sentinel) (masterUID : String) : Sentinel :=
  { s with leaderRaceBackoffTimers := s.leaderRaceBackoffTimers.erase masterUID }

/--
Apply a short backoff before a failover while candidates still show WAL progress. The first advancing
candidate decides, and the decision does not depend on which one it is.
-/
def shouldDelayLeaderRace (s : Sentinel) (now : Time) (failedMaster : DB) (candidates : List DB)
    (window : Duration) : Sentinel × Bool :=
  if failedMaster.uid = "" then
    (s, false)
  else if window ≤ 0 ∨ candidates = [] then
    (s.clearLeaderRaceBackoff failedMaster.uid, false)
  else if candidates.any (s.isAdvancing now window) then
    match s.leaderRaceBackoffTimers[failedMaster.uid]? with
    | none =>
      let timers := s.leaderRaceBackoffTimers.insert failedMaster.uid now
      ({ s with leaderRaceBackoffTimers := timers }, true)
    | some startedAt =>
      if now - startedAt < window then
        (s, true)
      else
        (s.clearLeaderRaceBackoff failedMaster.uid, false)
  else
    (s.clearLeaderRaceBackoff failedMaster.uid, false)

def pickNewMaster (newcd : ClusterData) (curMasterDB : DB) (bestNewMasters : List DB)
    : Option DB × Bool :=
  if !(curMasterDB.spec.synchronousReplication && newcd.cluster.defSpec.synchronousReplication) then
    (bestNewMasters.head?, true)
  else
    let commonSyncStandbys := Slices.commonElements
      curMasterDB.status.synchronousStandbys.elems curMasterDB.spec.synchronousStandbys.elems
    if commonSyncStandbys = [] then
      (none, false)
    else
      match bestNewMasters.find? (fun nm => commonSyncStandbys.contains nm.uid) with
      | some nm => (some nm, true)
      | none => (none, false)

def chooseBestNewMaster (env : Env) (s : Sentinel) (newcd : ClusterData) (curMasterDB : DB)
    (failInterval : Duration) : Except Fault (Sentinel × Option DB × Bool) := do
  let bestNewMasters ← s.findBestNewMasters env .failover newcd curMasterDB
  let s := s.trackCandidates env.now newcd
  if bestNewMasters = [] then
    return (s, none, true)
  if s.forceFailedKeeperUIDs.contains curMasterDB.spec.keeperUID then
    return (s, pickNewMaster newcd curMasterDB bestNewMasters)
  match s.shouldDelayLeaderRace env.now curMasterDB bestNewMasters failInterval with
  | (s, true) => return (s, none, false)
  | (s, false) => return (s, pickNewMaster newcd curMasterDB bestNewMasters)

end Sentinel
end Hysteron
