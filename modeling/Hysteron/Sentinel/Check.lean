import Hysteron.Cluster.Json
import Hysteron.Sentinel.State

/-!
One check of a sentinel: it reads the cluster data and the published infos, reconciles them and
writes the result back.
-/

namespace Hysteron
namespace Sentinel

structure Reconciliation where
  sentinel : Sentinel
  result : Except Fault (ClusterData × FinMap String KeeperInfoHistory)

def gainLeadership (s : Sentinel) (now : Time) (cd : ClusterData) (leadershipCount : Nat)
    : Sentinel :=
  if s.lastLeadershipCount ≠ leadershipCount then
    { s with lastLeadershipCount := leadershipCount }.runLeadershipSanitySweep now cd
  else
    s

def reconcile (env : Env) (s : Sentinel) (leadershipCount : Nat) (cd : ClusterData)
    (keepersInfo : KeepersInfo) (proxiesInfo : ProxiesInfo) : Reconciliation :=
  let firstRun := decide (s.lastLeadershipCount ≠ leadershipCount)
  let s := s.gainLeadership env.now cd leadershipCount
  match s.updateKeepersStatus env.now cd keepersInfo firstRun with
  | .error fault => ⟨s, .error fault⟩
  | .ok (s, newcd, kihs) =>
    let (s, active) := s.activeProxiesInfos env.now proxiesInfo
    match s.updateCluster env newcd active with
    | .error fault => ⟨s, .error fault⟩
    | .ok (s, newcd) => ⟨s, .ok (newcd, kihs)⟩

structure CheckInput where
  env : Env
  infosAvailable : Bool := true
  isLeader : Bool := true
  leadershipCount : Nat
  keepers : List KeeperInfo
  proxies : List ProxyInfo
  putOK : Bool := true
  publishOK : Bool := true

def CheckInput.keepersInfo (inp : CheckInput) : KeepersInfo :=
  getKeepersInfo (inp.keepers.map KeeperInfo.roundTrip)

def clusterSentinelCheck (inp : CheckInput) (s : Sentinel) (cd : ClusterData)
    : Sentinel × Option ClusterData :=
  if cd.formatVersion ≠ currentCDFormatVersion then
    (s, none)
  else if cd.cluster.spec.validate ≠ .ok () then
    (s, none)
  else
    let s := { s with sleepInterval := cd.cluster.defSpec.sleepInterval }
    if !inp.infosAvailable || !inp.isLeader then
      (s, none)
    else
      let r := s.reconcile inp.env inp.leadershipCount cd inp.keepersInfo
        (getProxiesInfo inp.proxies)
      match r.result with
      | .error _ => (r.sentinel, none)
      | .ok (newcd, kihs) =>
        if !inp.putOK || !inp.publishOK then
          (r.sentinel, some newcd)
        else
          -- The histories are saved only now, or the next run would take the infos as applied.
          let s := { r.sentinel with keeperInfoHistories := kihs }
          (s.updateDBConvergenceInfos inp.env.now newcd, some newcd)

end Sentinel
end Hysteron
