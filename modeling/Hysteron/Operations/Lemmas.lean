import Hysteron.Operations.Control
import Hysteron.Sentinel.Lemmas.Assignment

/-!
The effects of the commands on cluster data with a sound assignment.
-/

namespace Hysteron
namespace Operations

variable {cd cd' : ClusterData} {now : Time} {order : VisitOrder String}

theorem mutateClusterData_ok {reject : Bool} {mutate : ClusterData → Except String ClusterData}
    (h : mutateClusterData now reject mutate cd = .ok cd') : mutate cd = .ok cd' := by
  unfold mutateClusterData at h
  split at h
  . cases h
  . exact h

structure SpecUpdate (spec nextSpec : ClusterSpec) : Prop where
  valid : nextSpec.validate = .ok ()
  initMode : nextSpec.withDefaults.initMode = spec.withDefaults.initMode
  role : spec.withDefaults.role = .master → nextSpec.withDefaults.role ≠ .standby

theorem updateSpec_ok {c c' : Cluster} {nextSpec : ClusterSpec} (h : c.updateSpec nextSpec = .ok c')
    : SpecUpdate c.spec nextSpec ∧ c' = { c with spec := nextSpec } := by
  unfold Cluster.updateSpec at h
  split at h
  . cases h
  . next hvalid =>
    dsimp only at h
    split at h
    . cases h
    . next hmode =>
      split at h
      . cases h
      . next hrole =>
        cases h
        refine ⟨⟨hvalid, (not_not.mp hmode).symm, ?_⟩, rfl⟩
        intro hmaster hstandby
        simp [hmaster, hstandby] at hrole

theorem findDB_eq_some {keeperUID : String} {db : DB} (h : cd.findDB order keeperUID = some db)
    : (∃ (uid : String), cd.dbs[uid]? = some db) ∧ db.spec.keeperUID = keeperUID := by
  unfold ClusterData.findDB at h
  have hmem := List.mem_of_find?_eq_some h
  have hkeeper := List.find?_some h
  rw [FinMap.mem_valuesIn] at hmem
  exact ⟨hmem, by simpa using hkeeper⟩

theorem findDB_eq_none {keeperUID : String} (h : cd.findDB order keeperUID = none) {uid : String}
    {db : DB} (hdb : cd.dbs[uid]? = some db) : db.spec.keeperUID ≠ keeperUID := by
  unfold ClusterData.findDB at h
  rw [List.find?_eq_none] at h
  have := h db ((FinMap.mem_valuesIn order cd.dbs db).mpr ⟨uid, hdb⟩)
  simpa using this

theorem reinitializeReplica_ok {target : String} (h : cd.Assigned)
    (hrun : reinitializeReplica order now target cd = .ok cd')
    : ∃ (targetDB : DB),
        cd.dbs[targetDB.uid]? = some targetDB
          ∧
        targetDB.spec.keeperUID = ClusterSpec.trimSpace target
          ∧
        targetDB.uid ≠ cd.cluster.status.master
          ∧
        cd' = setStatus
          { cd with dbs := cd.dbs.modify targetDB.uid (markForResync cd.cluster.status.master) }
          { cd.cluster.status with manualSwitch := none } := by
  unfold reinitializeReplica at hrun
  dsimp only at hrun
  split at hrun
  . cases hrun
  . have hrun := mutateClusterData_ok hrun
    split at hrun
    . cases hrun
    . next keeper hkeeper =>
      split at hrun
      . cases hrun
      . next targetDB hfind =>
        split at hrun
        . cases hrun
        . next hne =>
          cases hrun
          obtain ⟨⟨uid, hdb⟩, hassigned⟩ := findDB_eq_some hfind
          rw [← h.keyed uid targetDB hdb] at hdb
          rw [h.keeperKeyed _ keeper hkeeper] at hassigned
          exact ⟨targetDB, hdb, hassigned, hne, rfl⟩

structure Removed (keeperUID : String) (cd cd' : ClusterData) : Prop where
  formatVersion : cd'.formatVersion = cd.formatVersion
  cluster : cd'.cluster = cd.cluster
  proxy : cd'.proxy = cd.proxy
  keepers : cd'.keepers = cd.keepers.erase keeperUID
  dbs : ∀ (uid : String) (db : DB), cd'.dbs[uid]? = some db ↔
    cd.dbs[uid]? = some db ∧ db.spec.keeperUID ≠ keeperUID
  master : ∀ (db : DB), cd.dbs[cd.cluster.status.master]? = some db →
    db.spec.keeperUID ≠ keeperUID

theorem removeKeeper_ok {keeperUID : String} (h : cd.Assigned)
    (hrun : removeKeeper order now keeperUID cd = .ok cd') : Removed keeperUID cd cd' := by
  unfold removeKeeper at hrun
  split at hrun
  . cases hrun
  . simp only [Except.bind_eq_ok_iff] at hrun
    obtain ⟨-, -, hrun⟩ := hrun
    split at hrun
    . cases hrun
    . next k hk =>
      rw [h.keeperKeyed keeperUID k hk] at hrun
      split at hrun
      . next hfind =>
        cases hrun
        refine ⟨rfl, rfl, rfl, rfl, ?_, fun db hdb => findDB_eq_none hfind hdb⟩
        intro uid db
        exact ⟨fun hdb => ⟨hdb, findDB_eq_none hfind hdb⟩, fun hdb => hdb.1⟩
      . next keeperDB hfind =>
        split at hrun
        . cases hrun
        . next hne =>
          cases hrun
          obtain ⟨⟨uid₀, hdb₀⟩, hkeeper₀⟩ := findDB_eq_some hfind
          have huid₀ := h.keyed uid₀ keeperDB hdb₀
          have honly (uid : String) (db : DB) (hdb : cd.dbs[uid]? = some db)
              : db.spec.keeperUID = keeperUID ↔ uid = keeperDB.uid := by
            constructor
            . intro heq
              rw [huid₀]
              exact h.exclusive uid uid₀ db keeperDB hdb hdb₀ (heq.trans hkeeper₀.symm)
            . intro heq
              rw [heq, huid₀, hdb₀] at hdb
              cases hdb
              exact hkeeper₀
          refine ⟨rfl, rfl, rfl, rfl, ?_, ?_⟩
          . intro uid db
            rw [Std.ExtTreeMap.getElem?_erase]
            by_cases heq : keeperDB.uid = uid
            . simp only [heq, compare_eq_iff_eq, ↓reduceIte, reduceCtorEq, false_iff, not_and,
                not_not]
              intro hdb
              exact (honly uid db hdb).mpr heq.symm
            . simp only [compare_eq_iff_eq, heq, ↓reduceIte, iff_self_and]
              intro hdb hkeeper
              exact heq ((honly uid db hdb).mp hkeeper).symm
          . intro db hdb hkeeper
            exact hne ((honly _ db hdb).mp hkeeper)

inductive Effect (cd : ClusterData) : Command → ClusterData → Prop where
  | status (c : Command) (status : ClusterStatus)
    (hphase : status.phase = cd.cluster.status.phase)
    (hmaster : status.master = cd.cluster.status.master)
    : Effect cd c (setStatus cd status)
  | spec (nextSpec : ClusterSpec) (hupdate : SpecUpdate cd.cluster.spec nextSpec)
    : Effect cd (.updateClusterSpecification nextSpec)
        { cd with cluster := { cd.cluster with spec := nextSpec } }
  | promoted : Effect cd .promoteCluster { cd with cluster := withMasterRole cd.cluster }
  | resync (order : VisitOrder String) (target : String) (targetDB : DB)
    (hdb : cd.dbs[targetDB.uid]? = some targetDB)
    (hkeeper : targetDB.spec.keeperUID = ClusterSpec.trimSpace target)
    (hne : targetDB.uid ≠ cd.cluster.status.master)
    : Effect cd (.reinitializeReplica order target) (setStatus
        { cd with dbs := cd.dbs.modify targetDB.uid (markForResync cd.cluster.status.master) }
        { cd.cluster.status with manualSwitch := none })
  | removed (c : Command) (keeperUID : String) (cd' : ClusterData) (h : Removed keeperUID cd cd')
    : Effect cd c cd'
  | failed (c : Command) (keeperUID : String)
    : Effect cd c { cd with
        keepers := cd.keepers.modify keeperUID (fun k =>
          { k with status := { k.status with forceFail := true } }) }

theorem effect_promoteCluster (h : promoteCluster now cd = .ok cd')
    : Effect cd .promoteCluster cd' := by
  unfold promoteCluster at h
  simp only [Except.bind_eq_ok_iff] at h
  obtain ⟨-, -, h⟩ := h
  split at h
  . cases h
    exact .status _ cd.cluster.status rfl rfl
  . split at h
    . cases h
    . next hupdate =>
      cases h
      obtain ⟨-, rfl⟩ := updateSpec_ok hupdate
      exact .promoted

theorem effect_updateClusterSpecification {nextSpec : ClusterSpec}
    (h : updateClusterSpecification now nextSpec cd = .ok cd')
    : Effect cd (.updateClusterSpecification nextSpec) cd' := by
  unfold updateClusterSpecification at h
  simp only [Except.bind_eq_ok_iff] at h
  obtain ⟨-, -, h⟩ := h
  split at h
  . cases h
  . next hupdate =>
    cases h
    obtain ⟨hspec, rfl⟩ := updateSpec_ok hupdate
    exact .spec nextSpec hspec

theorem effect_failKeeper {keeperUID : String} (h : failKeeper now keeperUID cd = .ok cd')
    : Effect cd (.failKeeper keeperUID) cd' := by
  unfold failKeeper at h
  split at h
  . cases h
  . simp only [Except.bind_eq_ok_iff] at h
    obtain ⟨-, -, h⟩ := h
    split at h
    . cases h
      exact .failed _ keeperUID
    . cases h

theorem command_effect (c : Command) (h : cd.Assigned) (hrun : c.run now cd = .ok cd')
    : Effect cd c cd' := by
  cases c with
  | pauseCluster reason ttl =>
    unfold Command.run pauseCluster at hrun
    dsimp only at hrun
    split at hrun
    . cases hrun
    . cases mutateClusterData_ok hrun
      exact .status _ _ rfl rfl
  | resumeCluster =>
    unfold Command.run resumeCluster at hrun
    cases mutateClusterData_ok hrun
    exact .status _ _ rfl rfl
  | requestManualSwitch target mode =>
    unfold Command.run requestManualSwitch at hrun
    dsimp only at hrun
    split at hrun
    . cases hrun
    . have hrun := mutateClusterData_ok hrun
      split at hrun
      . cases hrun
        exact .status _ _ rfl rfl
      . cases hrun
  | reinitializeReplica order target =>
    obtain ⟨targetDB, hdb, hkeeper, hne, rfl⟩ := reinitializeReplica_ok h hrun
    exact .resync order target targetDB hdb hkeeper hne
  | promoteCluster => exact effect_promoteCluster hrun
  | removeKeeper order keeperUID => exact .removed _ keeperUID cd' (removeKeeper_ok h hrun)
  | failKeeper keeperUID => exact effect_failKeeper hrun
  | updateClusterSpecification nextSpec => exact effect_updateClusterSpecification hrun

theorem Effect.db_cases {c : Command} {uid : String} {db' : DB} (h : Effect cd c cd')
    (hdb' : cd'.dbs[uid]? = some db')
    : ∃ (db : DB),
        cd.dbs[uid]? = some db
          ∧
        (db' = db
          ∨ (∃ (order : VisitOrder String) (target : String), c = .reinitializeReplica order target)
            ∧ uid ≠ cd.cluster.status.master
            ∧ db' = markForResync cd.cluster.status.master db) := by
  cases h with
  | status => exact ⟨db', hdb', .inl rfl⟩
  | spec => exact ⟨db', hdb', .inl rfl⟩
  | promoted => exact ⟨db', hdb', .inl rfl⟩
  | failed => exact ⟨db', hdb', .inl rfl⟩
  | removed _ _ _ h => exact ⟨db', ((h.dbs uid db').mp hdb').1, .inl rfl⟩
  | resync order target targetDB hdb _ hne =>
    simp only [setStatus, Std.ExtTreeMap.getElem?_modify, compare_eq_iff_eq] at hdb'
    split at hdb'
    . next heq =>
      rw [heq] at hdb'
      obtain ⟨db, hdb, rfl⟩ := Option.map_eq_some_iff.mp hdb'
      exact ⟨db, hdb, .inr ⟨⟨order, target, rfl⟩, heq ▸ hne, rfl⟩⟩
    . exact ⟨db', hdb', .inl rfl⟩

theorem Effect.master {c : Command} (h : Effect cd c cd')
    : cd'.cluster.status.master = cd.cluster.status.master := by
  cases h with
  | status _ status _ hmaster => exact hmaster
  | removed _ _ _ hremoved => rw [hremoved.cluster]
  | spec | promoted | resync | failed => rfl

theorem Effect.master_db {c : Command} (h : Effect cd c cd')
    : cd'.dbs[cd.cluster.status.master]? = cd.dbs[cd.cluster.status.master]? := by
  cases h with
  | status | spec | promoted | failed => rfl
  | resync _ _ _ _ _ hne =>
    simp only [setStatus, Std.ExtTreeMap.getElem?_modify, compare_eq_iff_eq]
    exact if_neg hne
  | removed _ _ _ hremoved =>
    ext masterDB
    rw [hremoved.dbs]
    exact and_iff_left_of_imp (hremoved.master masterDB)

theorem Effect.getElem?_master {c : Command} {masterDB : DB} (h : Effect cd c cd')
    (hmaster : cd'.dbs[cd'.cluster.status.master]? = some masterDB)
    : cd.dbs[cd.cluster.status.master]? = some masterDB := by
  rw [h.master, h.master_db] at hmaster
  exact hmaster

theorem Effect.mem_keepers {c : Command} {uid : String} (h : Effect cd c cd')
    (hmem : uid ∈ cd'.keepers) : uid ∈ cd.keepers := by
  cases h with
  | status => exact hmem
  | spec => exact hmem
  | promoted => exact hmem
  | failed => exact Std.ExtTreeMap.mem_modify.mp hmem
  | removed _ _ _ h =>
    rw [h.keepers, Std.ExtTreeMap.mem_erase] at hmem
    exact hmem.2
  | resync => exact hmem

theorem mem_keepers_command {uid : String} (c : Command) (h : cd.Assigned)
    (hrun : c.run now cd = .ok cd') (hmem : uid ∈ cd.keepers)
    : uid ∈ cd'.keepers ∨ ∃ (order : VisitOrder String), c = .removeKeeper order uid := by
  cases c with
  | pauseCluster reason ttl =>
    unfold Command.run pauseCluster at hrun
    dsimp only at hrun
    split at hrun
    . cases hrun
    . cases mutateClusterData_ok hrun
      exact .inl hmem
  | resumeCluster =>
    unfold Command.run resumeCluster at hrun
    cases mutateClusterData_ok hrun
    exact .inl hmem
  | requestManualSwitch target mode =>
    unfold Command.run requestManualSwitch at hrun
    dsimp only at hrun
    split at hrun
    . cases hrun
    . have hrun := mutateClusterData_ok hrun
      split at hrun
      . cases hrun
        exact .inl hmem
      . cases hrun
  | reinitializeReplica order target =>
    obtain ⟨targetDB, -, -, -, rfl⟩ := reinitializeReplica_ok h hrun
    exact .inl hmem
  | promoteCluster =>
    simp only [Command.run, promoteCluster, Except.bind_eq_ok_iff] at hrun
    obtain ⟨-, -, hrun⟩ := hrun
    split at hrun
    . cases hrun
      exact .inl hmem
    . split at hrun
      . cases hrun
      . cases hrun
        exact .inl hmem
  | removeKeeper order keeperUID =>
    by_cases heq : uid = keeperUID
    . exact .inr ⟨order, heq ▸ rfl⟩
    . rw [(removeKeeper_ok h hrun).keepers, Std.ExtTreeMap.mem_erase, Ne, compare_eq_iff_eq]
      exact .inl ⟨fun h => heq h.symm, hmem⟩
  | failKeeper keeperUID =>
    unfold Command.run failKeeper at hrun
    dsimp only at hrun
    split at hrun
    . cases hrun
    . simp only [Except.bind_eq_ok_iff] at hrun
      obtain ⟨-, -, hrun⟩ := hrun
      split at hrun
      . cases hrun
        exact .inl (Std.ExtTreeMap.mem_modify.mpr hmem)
      . cases hrun
  | updateClusterSpecification nextSpec =>
    simp only [Command.run, updateClusterSpecification, Except.bind_eq_ok_iff] at hrun
    obtain ⟨-, -, hrun⟩ := hrun
    split at hrun
    . cases hrun
    . cases hrun
      exact .inl hmem

end Operations
end Hysteron
