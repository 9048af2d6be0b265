import Hysteron.Sentinel.Lemmas.Election

/-!
What the last part of an update, which both phases share, does to each database.
-/

namespace Hysteron
namespace Sentinel

variable {now : Time} {cd newcd newcd' : ClusterData} {uid : String} {db : DB}

theorem dbType_of_getElem? (h : cd.dbs[uid]? = some db)
    : dbType cd uid
        =
      match db.spec.type with
      | some dt => .ok dt
      | none => .error (.error ("invalid db role in spec for db " ++ ClusterSpec.quoted uid)) := by
  unfold dbType
  generalize cd.dbs[uid]? = found at h ⊢
  subst h
  rfl

@[simp]
theorem dbSpecFromClusterSpec_keeps (clusterSpec : DefSpec) (dt : Except Fault DBType) (spec : DBSpec)
    : (dbSpecFromClusterSpec clusterSpec dt spec).keeperUID = spec.keeperUID
        ∧
      (dbSpecFromClusterSpec clusterSpec dt spec).initMode = spec.initMode
        ∧
      (dbSpecFromClusterSpec clusterSpec dt spec).role = spec.role
        ∧
      (dbSpecFromClusterSpec clusterSpec dt spec).synchronousReplication
        = spec.synchronousReplication
        ∧
      (dbSpecFromClusterSpec clusterSpec dt spec).synchronousStandbys = spec.synchronousStandbys
        ∧
      (dbSpecFromClusterSpec clusterSpec dt spec).externalSynchronousStandbys
        = spec.externalSynchronousStandbys := by
  unfold dbSpecFromClusterSpec
  dsimp only
  split <;> exact ⟨rfl, rfl, rfl, rfl, rfl, rfl⟩

theorem dbSpecFromClusterSpec_followConfig (clusterSpec : DefSpec) (dt : Except Fault DBType)
    (spec : DBSpec)
    : (dbSpecFromClusterSpec clusterSpec dt spec).followConfig
        =
      (commonDBSpec clusterSpec spec).followConfig := by
  unfold dbSpecFromClusterSpec
  dsimp only
  split <;> rfl

theorem commonDBSpec_followConfig_map (clusterSpec : DefSpec) (spec : DBSpec)
    : (commonDBSpec clusterSpec spec).followConfig.map (fun fc => (fc.type, fc.dbuid))
        =
      spec.followConfig.map (fun fc => (fc.type, fc.dbuid)) := by
  unfold commonDBSpec
  dsimp only
  split
  . next heq =>
    rw [heq]
    split <;> rfl
  . rfl

theorem dbSpecFromClusterSpec_followConfig_map (clusterSpec : DefSpec) (dt : Except Fault DBType)
    (spec : DBSpec)
    : (dbSpecFromClusterSpec clusterSpec dt spec).followConfig.map (fun fc => (fc.type, fc.dbuid))
        =
      spec.followConfig.map (fun fc => (fc.type, fc.dbuid)) := by
  rw [dbSpecFromClusterSpec_followConfig]
  exact commonDBSpec_followConfig_map clusterSpec spec

def finishSpec (newcd : ClusterData) (db : DB) : DBSpec :=
  dbSpecFromClusterSpec newcd.cluster.defSpec (dbType newcd db.uid) db.spec

def finishGeneration (cd newcd : ClusterData) (uid : String) (db : DB) : Int :=
  match cd.dbs[uid]? with
  | none => db.generation
  | some prevDB => if finishSpec newcd db ≠ prevDB.spec then db.generation + 1 else db.generation

structure Finished (cd newcd newcd' : ClusterData) : Prop where
  formatVersion : newcd'.formatVersion = newcd.formatVersion
  cluster : newcd'.cluster = newcd.cluster
  keepers : newcd'.keepers = newcd.keepers
  proxy : newcd'.proxy = newcd.proxy
  getElem?_dbs : ∀ (uid : String),
    ∃ (orphans : Option (FinMap String Time)),
      newcd'.dbs[uid]?
        =
      (newcd.dbs[uid]?).map (fun db => {
        uid := db.uid
        generation := finishGeneration cd newcd uid db
        spec := finishSpec newcd db
        status := { db.status with orphanMemberSlots := orphans }
      })

theorem getElem?_updateOrphanMemberSlots (now : Time) (cd newcd : ClusterData) (uid : String)
    : ∃ (orphans : DB → Option (FinMap String Time)),
        (updateOrphanMemberSlots now cd newcd).dbs[uid]?
          =
        (newcd.dbs[uid]?).map (fun db =>
          { db with status := { db.status with orphanMemberSlots := orphans db } }) := by
  unfold updateOrphanMemberSlots
  dsimp only
  split
  . exact ⟨fun db => db.status.orphanMemberSlots, by simp⟩
  . rw [Std.ExtTreeMap.getElem?_modify]
    split
    . next heq =>
      have heq : newcd.cluster.status.master = uid := by simpa using heq
      rw [← heq]
      exact ⟨_, rfl⟩
    . exact ⟨fun db => db.status.orphanMemberSlots, by simp⟩

theorem finishUpdate_finished (h : finishUpdate now cd newcd = .ok newcd')
    : Finished cd newcd newcd' := by
  simp only [finishUpdate, setDBSpecFromClusterSpec, Except.bind_eq_ok_iff, Except.pure_eq_ok,
    Except.ok.injEq] at h
  obtain ⟨mid, hmid, rfl⟩ := h
  split at hmid
  . cases hmid
  . cases hmid
    constructor
    case getElem?_dbs =>
      intro uid
      obtain ⟨orphans, horphans⟩ := getElem?_updateOrphanMemberSlots now cd
        { newcd with
          dbs := newcd.dbs.map (fun _ db =>
            { db with spec :=
              dbSpecFromClusterSpec newcd.cluster.defSpec (dbType newcd db.uid) db.spec }) }
        uid
      rw [Std.ExtTreeMap.getElem?_map] at horphans
      cases hdb : newcd.dbs[uid]? with
      | none =>
        refine ⟨none, ?_⟩
        simp [bumpGenerations, Std.ExtTreeMap.getElem?_map, horphans, hdb]
      | some db =>
        refine ⟨orphans { db with spec := finishSpec newcd db }, ?_⟩
        simp only [bumpGenerations, Std.ExtTreeMap.getElem?_map, horphans, hdb, Option.map_some,
          finishGeneration, finishSpec]
        cases cd.dbs[uid]? with
        | none => rfl
        | some prevDB =>
          by_cases hspec : dbSpecFromClusterSpec newcd.cluster.defSpec (dbType newcd db.uid) db.spec
            = prevDB.spec
          . simp [hspec]
          . simp [hspec]
    all_goals
      unfold bumpGenerations updateOrphanMemberSlots
      dsimp only
      split <;> rfl

theorem finishUpdate_eq_error_iff {fault : Fault}
    : finishUpdate now cd newcd = .error fault
        ↔
      fault = .nilDeref
        ∧
      newcd.cluster.defSpec.standbyConfig = none
        ∧
      ∃ (uid : String) (db : DB),
        newcd.dbs[uid]? = some db ∧ FollowConfig.isExternal db.spec.followConfig = true := by
  have hsome : (newcd.cluster.defSpec.standbyConfig.isNone
        && FinMap.anyValue newcd.dbs (fun db => FollowConfig.isExternal db.spec.followConfig)) = true
      ↔
      newcd.cluster.defSpec.standbyConfig = none
        ∧
      ∃ (uid : String) (db : DB),
        newcd.dbs[uid]? = some db ∧ FollowConfig.isExternal db.spec.followConfig = true := by
    rw [Bool.and_eq_true, FinMap.anyValue_iff, Option.isNone_iff_eq_none]
  rw [← hsome]
  unfold finishUpdate setDBSpecFromClusterSpec
  dsimp only
  split
  . next h => simp [h, eq_comm]
  . next h => simp [h]

end Sentinel
end Hysteron
