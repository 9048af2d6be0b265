import Hysteron.Cluster.Validate

/-!
The commands of an operator. Each one reads the cluster data, changes it and writes it back with a
compare-and-swap. Here a command maps the cluster data that it read to the one that it writes, or to
the text of its error, after which it writes nothing.
-/

namespace Hysteron
namespace Operations

def errClusterPaused : String := "cluster is paused; resume first"

def errPauseTTLNegative : String := "pause ttl must be >= 0"

def errTargetKeeperUIDRequired : String := "target keeper uid required"

def errKeeperUIDRequired : String := "keeper uid required"

def errTargetKeeperNotFound : String := "target keeper not found"

def errKeeperNotFound : String := "keeper doesn't exist"

def errTargetKeeperHasNoDB : String := "target keeper has no assigned database"

def errCannotReinitializeCurrentDB : String := "cannot reinitialize current master database"

def errKeeperAssignedMaster : String := "keeper assigned db is the current cluster master db"

def mutateClusterData (now : Time) (rejectWhenPaused : Bool)
    (mutate : ClusterData → Except String ClusterData) (cd : ClusterData)
    : Except String ClusterData :=
  if rejectWhenPaused && cd.cluster.status.pauseActive now then
    .error errClusterPaused
  else
    mutate cd

def setStatus (cd : ClusterData) (status : ClusterStatus) : ClusterData :=
  { cd with cluster := { cd.cluster with status } }

def pauseCluster (now : Time) (reason : String) (ttl : Duration) (cd : ClusterData)
    : Except String ClusterData :=
  if ttl < 0 then
    .error errPauseTTLNegative
  else
    mutateClusterData now false (fun cd =>
      .ok (setStatus cd { cd.cluster.status with
        paused := true
        pauseReason := ClusterSpec.trimSpace reason
        pauseUntil := if ttl > 0 then some (now + ttl) else none
      })) cd

def resumeCluster (now : Time) (cd : ClusterData) : Except String ClusterData :=
  mutateClusterData now false (fun cd =>
    .ok (setStatus cd { cd.cluster.status with
      paused := false
      pauseReason := ""
      pauseUntil := none
    })) cd

def requestManualSwitch (now : Time) (targetKeeperUID : String) (mode : ManualSwitchMode)
    (cd : ClusterData) : Except String ClusterData :=
  let targetKeeperUID := ClusterSpec.trimSpace targetKeeperUID
  if targetKeeperUID = "" then
    .error errTargetKeeperUIDRequired
  else
    mutateClusterData now true (fun cd =>
      if cd.keepers.contains targetKeeperUID then
        .ok (setStatus cd { cd.cluster.status with manualSwitch := some { targetKeeperUID, mode } })
      else
        .error errTargetKeeperNotFound) cd

def markForResync (masterDBUID : String) (db : DB) : DB :=
  { db with
    spec := { db.spec with
      initMode := .resync
      role := .standby
      followConfig := some { type := .internal, dbuid := masterDBUID }
    }
  }

def reinitializeReplica (order : VisitOrder String) (now : Time) (targetKeeperUID : String)
    (cd : ClusterData) : Except String ClusterData :=
  let targetKeeperUID := ClusterSpec.trimSpace targetKeeperUID
  if targetKeeperUID = "" then
    .error errKeeperUIDRequired
  else
    mutateClusterData now true (fun cd =>
      match cd.keepers[targetKeeperUID]? with
      | none => .error errKeeperNotFound
      | some targetKeeper =>
        match cd.findDB order targetKeeper.uid with
        | none => .error errTargetKeeperHasNoDB
        | some targetDB =>
          if targetDB.uid = cd.cluster.status.master then
            .error errCannotReinitializeCurrentDB
          else
            .ok (setStatus
              { cd with dbs := cd.dbs.modify targetDB.uid (markForResync cd.cluster.status.master) }
              { cd.cluster.status with manualSwitch := none })) cd

def validatedClusterData (now : Time) (cd : ClusterData) : Except String Unit :=
  if cd.formatVersion ≠ currentCDFormatVersion then
    .error ("unsupported cluster data format version " ++ toString cd.formatVersion)
  else
    match cd.cluster.spec.validate with
    | .error e => .error ("cluster data validation failed: " ++ e)
    | .ok () =>
      if cd.cluster.status.pauseActive now then
        .error errClusterPaused
      else
        .ok ()

def withMasterRole (c : Cluster) : Cluster :=
  { c with spec := { c.spec with role := some .master } }

def promoteCluster (now : Time) (cd : ClusterData) : Except String ClusterData := do
  validatedClusterData now cd
  if cd.cluster.defSpec.role = .master then
    return cd
  -- The spec is changed in place before it is checked against itself.
  match (withMasterRole cd.cluster).updateSpec (withMasterRole cd.cluster).spec with
  | .error e => .error ("cannot update cluster spec: " ++ e)
  | .ok cluster => return { cd with cluster }

def removeKeeper (order : VisitOrder String) (now : Time) (keeperUID : String) (cd : ClusterData)
    : Except String ClusterData := do
  if keeperUID = "" then
    .error errKeeperUIDRequired
  else
    validatedClusterData now cd
    match cd.keepers[keeperUID]? with
    | none => .error errKeeperNotFound
    | some keeperInfo =>
      match cd.findDB order keeperInfo.uid with
      | none => return { cd with keepers := cd.keepers.erase keeperUID }
      | some keeperDB =>
        if cd.cluster.status.master = keeperDB.uid then
          .error errKeeperAssignedMaster
        else
          return { cd with
            keepers := cd.keepers.erase keeperUID
            dbs := cd.dbs.erase keeperDB.uid
          }

def failKeeper (now : Time) (keeperUID : String) (cd : ClusterData) : Except String ClusterData := do
  if keeperUID = "" then
    .error errKeeperUIDRequired
  else
    validatedClusterData now cd
    if cd.keepers.contains keeperUID then
      return { cd with
        keepers := cd.keepers.modify keeperUID (fun k =>
          { k with status := { k.status with forceFail := true } })
      }
    else
      .error errKeeperNotFound

def updateClusterSpecification (now : Time) (nextSpec : ClusterSpec) (cd : ClusterData)
    : Except String ClusterData := do
  validatedClusterData now cd
  match cd.cluster.updateSpec nextSpec with
  | .error e => .error ("cannot update cluster spec: " ++ e)
  | .ok cluster => return { cd with cluster }

inductive Command where
  | pauseCluster (reason : String) (ttl : Duration)
  | resumeCluster
  | requestManualSwitch (targetKeeperUID : String) (mode : ManualSwitchMode)
  | reinitializeReplica (order : VisitOrder String) (targetKeeperUID : String)
  | promoteCluster
  | removeKeeper (order : VisitOrder String) (keeperUID : String)
  | failKeeper (keeperUID : String)
  | updateClusterSpecification (nextSpec : ClusterSpec)

def Command.run (now : Time) : Command → ClusterData → Except String ClusterData
  | .pauseCluster reason ttl => Operations.pauseCluster now reason ttl
  | .resumeCluster => Operations.resumeCluster now
  | .requestManualSwitch targetKeeperUID mode =>
    Operations.requestManualSwitch now targetKeeperUID mode
  | .reinitializeReplica order targetKeeperUID =>
    Operations.reinitializeReplica order now targetKeeperUID
  | .promoteCluster => Operations.promoteCluster now
  | .removeKeeper order keeperUID => Operations.removeKeeper order now keeperUID
  | .failKeeper keeperUID => Operations.failKeeper now keeperUID
  | .updateClusterSpecification nextSpec => Operations.updateClusterSpecification now nextSpec

end Operations
end Hysteron
