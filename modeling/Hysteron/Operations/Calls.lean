import Hysteron.Operations.Control
import Hysteron.Sentinel.Check
import Hysteron.Util.Register

/-!
The calls that change the cluster data in the store, as clients of the register that holds it: the
commands of an operator with their retries, the check of a sentinel, and the two calls that write a
whole document.
-/

namespace Hysteron
namespace Operations

def errNoClusterData : String := "no cluster data available"

def errPatchDataRequired : String := "patch data required"

def errClusterSpecDataRequired : String := "cluster specification data required"

def errNoMasterDatabase : String := "no master database available"

def errNoMasterKeeper : String := "no master keeper available"

def errClusterDataOverwriteRequiresYes : String :=
  "cluster data already available: pass --yes to overwrite"

def clusterMutateRetries : Nat := 3

def clusterDataMutateRetries : Nat := 3

def forceFailover (now : Time) (cd : ClusterData) : Except String ClusterData := do
  validatedClusterData now cd
  if cd.cluster.status.master = "" then
    .error errNoMasterDatabase
  else
    match cd.dbs[cd.cluster.status.master]? with
    | none => .error errNoMasterDatabase
    | some masterDB =>
      if masterDB.spec.keeperUID = "" then
        .error errNoMasterKeeper
      else if cd.keepers.contains masterDB.spec.keeperUID then
        return { cd with
          keepers := cd.keepers.modify masterDB.spec.keeperUID (fun k =>
            { k with status := { k.status with forceFail := true } })
        }
      else
        .error errNoMasterKeeper

def checkDocument (cd : ClusterData) : Except String ClusterData :=
  if cd.formatVersion ≠ currentCDFormatVersion then
    .error ("unsupported cluster data format version " ++ toString cd.formatVersion)
  else
    match cd.cluster.spec.validate with
    | .error e => .error ("cluster data validation failed: " ++ e)
    | .ok () => .ok cd

/--
Apply a patch to the cluster data. `patch` is the merge with its errors, among them that no cluster
and no spec are left.
-/
def patchClusterData (now : Time) (patch : ClusterData → Except String ClusterData)
    (cd : ClusterData) : Except String ClusterData := do
  validatedClusterData now cd
  let patched ← patch cd
  checkDocument patched

def replaceClusterSpec (now : Time) (next : ClusterSpec → Except String ClusterSpec)
    (cd : ClusterData) : Except String ClusterData := do
  validatedClusterData now cd
  let nextSpec ← next cd.cluster.spec
  updateClusterSpecification now nextSpec cd

inductive Call where
  | command (c : Command)
  | updateClusterSpecification (next : Option (ClusterSpec → Except String ClusterSpec))
  | patchClusterData (patch : Option (ClusterData → Except String ClusterData))
  | forceFailover
  | sentinelCheck (inp : Sentinel.CheckInput) (s : Sentinel) (uid : String)
    (initialClusterSpec : Option ClusterSpec)
  | initializeCluster (uid : String) (clusterSpec : Except String ClusterSpec) (force : Bool)
    (skipIfPresent : Bool)
  | writeClusterData (data : Except String ClusterData) (force : Bool)

def Command.checkArguments : Command → Except String Unit
  | .pauseCluster _ ttl => if ttl < 0 then .error errPauseTTLNegative else .ok ()
  | .requestManualSwitch targetKeeperUID _ =>
    if ClusterSpec.trimSpace targetKeeperUID = "" then .error errTargetKeeperUIDRequired else .ok ()
  | .reinitializeReplica _ targetKeeperUID =>
    if ClusterSpec.trimSpace targetKeeperUID = "" then .error errKeeperUIDRequired else .ok ()
  | .removeKeeper _ keeperUID => if keeperUID = "" then .error errKeeperUIDRequired else .ok ()
  | .failKeeper keeperUID => if keeperUID = "" then .error errKeeperUIDRequired else .ok ()
  | _ => .ok ()

/--
How often a call reads the cluster data. Two of the commands do not try again.
-/
def Call.tries : Call → Nat
  | .command (.removeKeeper _ _) => 1
  | .command (.failKeeper _) => 1
  | .command (.promoteCluster) => clusterDataMutateRetries
  | .command (.updateClusterSpecification _) => clusterDataMutateRetries
  | .command _ => clusterMutateRetries
  | .updateClusterSpecification _ => clusterDataMutateRetries
  | .patchClusterData _ => clusterDataMutateRetries
  | .forceFailover => clusterDataMutateRetries
  | .sentinelCheck _ _ _ _ => 1
  | .initializeCluster _ _ _ _ => 1
  | .writeClusterData _ _ => 1

def swapResult : Except String ClusterData → Register.Attempt ClusterData String
  | .error e => .fail e
  | .ok cd => .swap cd.roundTrip

def mutateStored (mutate : ClusterData → Except String ClusterData) : Option ClusterData →
    Register.Attempt ClusterData String
  | none => .fail errNoClusterData
  | some cd => swapResult (mutate cd)

def promoteStored (now : Time) : Option ClusterData → Register.Attempt ClusterData String
  | none => .fail errNoClusterData
  | some cd =>
    match promoteCluster now cd with
    | .error e => .fail e
    | .ok next => if cd.cluster.defSpec.role = .master then .done else .swap next.roundTrip

def guardOverwrite (now : Time) (force skipIfPresent : Bool) : Option ClusterData →
    Option (Register.Attempt ClusterData String)
  | none => none
  | some existing =>
    if existing.cluster.status.pauseActive now then
      some (.fail errClusterPaused)
    else if skipIfPresent then
      some .done
    else if !force then
      some (.fail errClusterDataOverwriteRequiresYes)
    else
      none

def putResult : Except String ClusterData → Register.Attempt ClusterData String
  | .error e => .fail e
  | .ok cd => .put cd.roundTrip

def initialDocument (uid : String) (clusterSpec : Except String ClusterSpec)
    : Except String ClusterData := do
  let spec ← clusterSpec
  match spec.validate with
  | .error e => .error ("invalid cluster spec: " ++ e)
  | .ok () => return newClusterData (newCluster uid spec)

def givenDocument (data : Except String ClusterData) : Except String ClusterData := do
  let cd ← data
  let cd := if cd.formatVersion = 0 then { cd with formatVersion := currentCDFormatVersion } else cd
  checkDocument cd

def Call.attempt (now : Time) (stored : Option ClusterData)
    : Call → Register.Attempt ClusterData String
  | .command .promoteCluster => promoteStored now stored
  | .command c =>
    match c.checkArguments with
    | .error e => .fail e
    | .ok () => mutateStored (c.run now) stored
  | .updateClusterSpecification none => .fail errClusterSpecDataRequired
  | .updateClusterSpecification (some next) => mutateStored (replaceClusterSpec now next) stored
  | .patchClusterData none => .fail errPatchDataRequired
  | .patchClusterData (some patch) => mutateStored (Operations.patchClusterData now patch) stored
  | .forceFailover => mutateStored (Operations.forceFailover now) stored
  | .sentinelCheck inp s uid initialClusterSpec =>
    match stored with
    | none =>
      match initialClusterSpec with
      | none => .done
      | some spec => .swap (newClusterData (newCluster uid spec)).roundTrip
    | some cd =>
      match (s.clusterSentinelCheck inp cd).2 with
      | none => .done
      | some newcd => .swap newcd.roundTrip
  | .initializeCluster uid clusterSpec force skipIfPresent =>
    (guardOverwrite now force skipIfPresent stored).getD
      (putResult (initialDocument uid clusterSpec))
  | .writeClusterData data force =>
    (guardOverwrite now force false stored).getD (putResult (givenDocument data))

def Call.program (call : Call) : Register.Program Time ClusterData String where
  tries := call.tries
  attempt := fun now stored => call.attempt now stored

end Operations
end Hysteron
