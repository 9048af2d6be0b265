import Hysteron.Keeper.SyncNames
import Hysteron.Safety.SyncListed

/-!
Whether a master blocks when it has too few synchronous standbys. It does after a change of its own
synchronous standbys. After an election it does only if the previous master had enough of them or
none at all.
-/

namespace Hysteron
namespace Sentinel

variable {env : Env} {s s' : Sentinel} {cd newcd : ClusterData} {pis : ProxiesInfo}
variable {masterDB masterDB' : DB} {uid : String}

def HasMinimum (newcd : ClusterData) (previous : List String) (masterDB : DB) : Prop :=
  fakeStandbyName ∈ masterDB.spec.externalSynchronousStandbys.elems
    ∨
  ∃ (standbys : List String),
    standbys.Nodup
      ∧
    newcd.cluster.defSpec.minSynchronousStandbys.toNat ≤ standbys.length
      ∧
    ∀ uid ∈ standbys,
      uid ∈ masterDB.spec.synchronousStandbys.elems
        ∧
      uid ≠ newcd.cluster.status.master
        ∧
      (uid ∈ newcd.dbs ∨ uid ∈ previous)

section Election

structure Elected (cd newcd : ClusterData) (masterDB masterDB' : DB) : Prop where
  new : newcd.dbs[newcd.cluster.status.master]? = some masterDB'
  old : cd.cluster.status.master ∈ newcd.dbs
  spec : newcd.cluster.spec = cd.cluster.spec
  replication : masterDB'.spec.synchronousReplication = true
  required : masterDB'.spec.synchronousStandbys.elems
    = rotated cd.cluster.status.master newcd.cluster.status.master
        masterDB.spec.synchronousStandbys.elems
  external : masterDB'.spec.externalSynchronousStandbys.elems
    = if masterDB.spec.synchronousStandbys.elems = []
        ∧ cd.cluster.defSpec.minSynchronousStandbys > 0 then [fakeStandbyName] else []

theorem elected_updateCluster (h : cd.Sound) (hsync : syncRepl cd.cluster.defSpec = true)
    (hmaster : cd.dbs[cd.cluster.status.master]? = some masterDB)
    (hphase : cd.cluster.status.phase = .normal)
    (hrun : s.updateCluster env cd pis = .ok (s', newcd))
    (hne : newcd.cluster.status.master ≠ cd.cluster.status.master)
    : ∃ (masterDB' : DB), Elected cd newcd masterDB masterDB' := by
  cases updateCluster_cases hrun with
  | paused _ heq =>
    rw [heq] at hne
    exact absurd rfl hne
  | initializing hphase' =>
    rw [hphase] at hphase'
    cases hphase'
  | normal _ base mid followed wanted _ hbase hmid hfollow hfinish =>
    have hfinished := finishUpdate_finished hfinish
    obtain ⟨oldMasterDB, followers, holdMaster, rfl⟩ := updateFollowers_cases hfollow
    have hcluster : newcd.cluster = mid.cluster := hfinished.cluster
    cases hmid with
    | kept =>
      rw [hcluster] at hne
      exact absurd hbase.master hne
    | reconciled _ _ _ _ _ _ _ _ hreconcile =>
      rw [hcluster, reconcileStandbys_cluster hreconcile] at hne
      exact absurd hbase.master hne
    | promoted wanted oldMasterDB' newMasterDB role followConfig _ hne' hpromotion =>
      have hwanted : newcd.cluster.status.master = wanted := by
        rw [hcluster, hpromotion.cluster]
      have hspec : base.cluster.defSpec = cd.cluster.defSpec := by
        unfold Cluster.defSpec
        rw [hbase.spec]
      obtain rfl : masterDB = oldMasterDB' := by
        have := hpromotion.old
        rw [hbase.dbs, hmaster] at this
        exact Option.some.inj this
      have hnew : newMasterDB.uid = wanted := by
        have := hpromotion.new
        rw [hbase.dbs] at this
        exact h.assigned.keyed _ _ this
      have hold : masterDB.uid = cd.cluster.status.master := h.assigned.keyed _ _ hmaster
      obtain ⟨orphans, hdb⟩ := hfinished.getElem?_dbs wanted
      rw [Std.ExtTreeMap.getElem?_insert, if_neg (by simpa using hne'.symm), hpromotion.getElem?_dbs,
        if_pos rfl, Option.map_some] at hdb
      subst hwanted
      refine ⟨_, hdb, ?_, ?_, ?_, ?_, ?_⟩
      . obtain ⟨orphans, hdb⟩ := hfinished.getElem?_dbs cd.cluster.status.master
        rw [Std.ExtTreeMap.mem_iff_isSome_getElem?, hdb, Std.ExtTreeMap.getElem?_insert_self]
        rfl
      . rw [hcluster, hpromotion.cluster]
        exact hbase.spec
      all_goals
        simp [finishSpec, promoted, inheritSynchronousStandbys, hspec, hsync, rotated, hnew, hold]

theorem Elected.hasMinimum_iff (h : Elected cd newcd masterDB masterDB')
    (hne : newcd.cluster.status.master ≠ cd.cluster.status.master)
    (hnodup : masterDB.spec.synchronousStandbys.elems.Nodup)
    (hothers : cd.cluster.status.master ∉ masterDB.spec.synchronousStandbys.elems)
    : HasMinimum newcd masterDB.spec.synchronousStandbys.elems masterDB'
        ↔
      cd.cluster.defSpec.minSynchronousStandbys.toNat
          ≤ masterDB.spec.synchronousStandbys.elems.length
        ∨
      masterDB.spec.synchronousStandbys.elems = [] := by
  have hmin : newcd.cluster.defSpec.minSynchronousStandbys
      = cd.cluster.defSpec.minSynchronousStandbys := by
    unfold Cluster.defSpec
    rw [h.spec]
  unfold HasMinimum
  rw [hmin, h.required, h.external]
  constructor
  . rintro (hfake | ⟨standbys, hstandbys, hlength, hmem⟩)
    . right
      by_contra hsome
      simp [hsome] at hfake
    . left
      have hsubset : standbys ⊆ rotated cd.cluster.status.master newcd.cluster.status.master
          masterDB.spec.synchronousStandbys.elems := fun uid huid => (hmem uid huid).1
      rw [← length_rotated cd.cluster.status.master newcd.cluster.status.master]
      exact hlength.trans (hstandbys.length_le_of_subset hsubset)
  . intro hcase
    by_cases hnone : masterDB.spec.synchronousStandbys.elems = []
        ∧ cd.cluster.defSpec.minSynchronousStandbys > 0
    . rw [if_pos hnone]
      exact .inl List.mem_cons_self
    . right
      refine ⟨rotated cd.cluster.status.master newcd.cluster.status.master
        masterDB.spec.synchronousStandbys.elems, nodup_rotated hnodup hothers, ?_, ?_⟩
      . rw [length_rotated]
        cases hcase with
        | inl hle => exact hle
        | inr hnil =>
          have hzero : ¬ cd.cluster.defSpec.minSynchronousStandbys > 0 :=
            fun hpos => hnone ⟨hnil, hpos⟩
          rw [gt_iff_lt, UInt16.lt_iff_toNat_lt] at hzero
          simp at hzero
          simp [hzero]
      . intro uid huid
        refine ⟨huid, ?_, ?_⟩
        . obtain rfl | ⟨-, hnew⟩ := mem_rotated huid
          . exact hne.symm
          . exact hnew
        . obtain rfl | ⟨hold, -⟩ := mem_rotated huid
          . exact .inl h.old
          . exact .inr hold

theorem Elected.waitsForAll (h : Elected cd newcd masterDB masterDB')
    (hplain : ∀ uid ∈ masterDB'.spec.synchronousStandbys.elems, ∀ c ∈ uid.toList,
      SyncStandbyNames.identCont c = true)
    : Keeper.WaitsForAll masterDB' := by
  refine Keeper.waitsForAll_of_plain h.replication hplain ?_
  intro name hname
  rw [h.external] at hname
  split at hname
  . exact List.mem_singleton.mp hname
  . cases hname

end Election

section Recomputation

variable {usable : ClusterData} {good : FinMap String DB} {best : List DB}

def Recomputes (s : Sentinel) (cd : ClusterData) (masterDB : DB) : Prop :=
  (knownStandbys masterDB).Perm masterDB.spec.synchronousStandbys.elems
    ∨
  ∃ uid ∈ masterDB.spec.synchronousStandbys.elems,
    uid ∉ knownStandbys masterDB ∧ ¬ ∃ (db : DB), GoodStandby (s.survivors cd) uid db

theorem SyncSetup.recomputed (hsetup : SyncSetup env s cd newcd masterDB masterDB' usable good best)
    (hsync : syncRepl cd.cluster.defSpec = true) (h : Recomputes s cd masterDB)
    : Recomputed env usable good best masterDB masterDB' := by
  obtain hcase | hcase := hsetup.cases hsync
  . exact hcase
  . obtain hsame | ⟨uid, huid, hmissing, hbad⟩ := h
    . exact absurd hsame hcase.differs
    . exact absurd ((hsetup.mem_good uid).mp (hcase.good uid huid hmissing).2) hbad

theorem Recomputed.mem_dbs (hsetup : SyncSetup env s cd newcd masterDB masterDB' usable good best)
    (hknown : cd.MasterKnown) (h : Recomputed env usable good best masterDB masterDB')
    (huid : uid ∈ masterDB'.spec.synchronousStandbys.elems) : uid ∈ newcd.dbs := by
  refine hsetup.kept uid huid ?_
  rw [h.required, Slice.elems_some, Std.ExtTreeSet.mem_toList] at huid
  obtain hdbs | ⟨standby, hbest, rfl⟩ :=
    (nextSynchronousStandbys_spec hsetup.keyed).known uid huid
  . exact hdbs
  . obtain ⟨db, hdb, -⟩ := hsetup.mem_best standby hbest
    exact hsetup.mem_dbs_of_good hknown hdb

theorem Recomputed.hasMinimum (hsetup : SyncSetup env s cd newcd masterDB masterDB' usable good best)
    (hknown : cd.MasterKnown) (hcluster : newcd.cluster.defSpec = cd.cluster.defSpec)
    (hkept : newcd.cluster.status.master = cd.cluster.status.master)
    (hothers : cd.cluster.status.master ∉ masterDB.spec.synchronousStandbys.elems)
    (h : Recomputed env usable good best masterDB masterDB')
    : HasMinimum newcd masterDB.spec.synchronousStandbys.elems masterDB' := by
  unfold HasMinimum
  rw [h.external, hsetup.defSpec, hcluster, hkept]
  split
  . exact .inl List.mem_cons_self
  . next hsize =>
    right
    refine ⟨masterDB'.spec.synchronousStandbys.elems, ?_, ?_, ?_⟩
    . rw [h.required, Slice.elems_some]
      exact Std.ExtTreeSet.distinct_toList.imp (fun hne heq => hne (compare_eq_iff_eq.mpr heq))
    . rw [h.required, Slice.elems_some, Std.ExtTreeSet.length_toList]
      exact Nat.le_of_not_lt hsize
    . intro uid huid
      refine ⟨huid, ?_, .inl (h.mem_dbs hsetup hknown huid)⟩
      rintro rfl
      obtain hold | ⟨db, hdb, -⟩ := h.origin hsetup huid
      . exact hothers (mem_knownStandbys.mp hold).1
      . exact hdb.ne_master hknown rfl

theorem Recomputed.waitsForAll (h : Recomputed env usable good best masterDB masterDB')
    (hplain : ∀ uid ∈ masterDB'.spec.synchronousStandbys.elems, ∀ c ∈ uid.toList,
      SyncStandbyNames.identCont c = true)
    : Keeper.WaitsForAll masterDB' := by
  refine Keeper.waitsForAll_of_plain h.replication hplain ?_
  intro name hname
  rw [h.external, Slice.elems_some] at hname
  split at hname
  . exact List.mem_singleton.mp hname
  . cases hname

end Recomputation

/--
After a change of the synchronous standbys of a settled master, the master blocks or has the minimum
of them. After an election this is so exactly if the old master listed the minimum, or none. In both
cases a commit waits for all that the master lists, if their names need no quotes.
-/
theorem sync_minimum_iff (env : Env) (s s' : Sentinel) (cd newcd : ClusterData) (pis : ProxiesInfo)
    (masterDB : DB) (h : cd.Sound) (hlisted : cd.SyncListed) (hfresh : env.Fresh cd.dbs)
    (hphase : cd.cluster.status.phase = .normal)
    (hpause : cd.cluster.status.pauseActive env.now = false)
    (hsync : syncRepl cd.cluster.defSpec = true)
    (hmaster : cd.dbs[cd.cluster.status.master]? = some masterDB)
    (hrun : s.updateCluster env cd pis = .ok (s', newcd))
    : (newcd.cluster.status.master ≠ cd.cluster.status.master →
        ∃ (masterDB' : DB),
          newcd.dbs[newcd.cluster.status.master]? = some masterDB'
            ∧
          (HasMinimum newcd masterDB.spec.synchronousStandbys.elems masterDB'
            ↔
           cd.cluster.defSpec.minSynchronousStandbys.toNat
              ≤ masterDB.spec.synchronousStandbys.elems.length
            ∨
           masterDB.spec.synchronousStandbys.elems = [])
            ∧
          ((∀ uid ∈ masterDB'.spec.synchronousStandbys.elems, ∀ c ∈ uid.toList,
              SyncStandbyNames.identCont c = true) →
            Keeper.WaitsForAll masterDB'))
        ∧
      (newcd.cluster.status.master = cd.cluster.status.master → Settled masterDB →
        Recomputes s cd masterDB →
        ∃ (masterDB' : DB),
          newcd.dbs[newcd.cluster.status.master]? = some masterDB'
            ∧
          HasMinimum newcd masterDB.spec.synchronousStandbys.elems masterDB'
            ∧
          ((∀ uid ∈ masterDB'.spec.synchronousStandbys.elems, ∀ c ∈ uid.toList,
              SyncStandbyNames.identCont c = true) →
            Keeper.WaitsForAll masterDB')) := by
  have hlists := hlisted masterDB hmaster
  constructor
  . intro hne
    obtain ⟨masterDB', helected⟩ := elected_updateCluster h hsync hmaster hphase hrun hne
    exact ⟨masterDB', helected.new, helected.hasMinimum_iff hne hlists.nodup hlists.others,
      helected.waitsForAll⟩
  . intro hkept hsettled hrecomputes
    obtain ⟨masterDB', usable, good, best, hsetup⟩ :=
      exists_syncSetup h hfresh hphase hpause hsync hmaster hsettled hkept hrun
    have hrecomputed := hsetup.recomputed hsync hrecomputes
    have hspec : newcd.cluster.defSpec = cd.cluster.defSpec := by
      unfold Cluster.defSpec
      rw [updateCluster_spec_of_normal hphase hrun]
    refine ⟨masterDB', ?_, hrecomputed.hasMinimum hsetup (h.master hphase) hspec hkept hlists.others,
      hrecomputed.waitsForAll⟩
    rw [hkept]
    exact hsetup.master

section Sample

def sampleTwoSpec : ClusterSpec where
  initMode := some .new
  synchronousReplication := some true
  minSynchronousStandbys := some 2
  maxSynchronousStandbys := some 2

def sampleFailedMaster : DB :=
  let masterDB := sampleSyncMaster ["b"] ["b"] []
  { masterDB with status := { masterDB.status with healthy := false } }

theorem syncListed_sampleSync (spec : ClusterSpec)
    : (sampleSync spec sampleFailedMaster 2).SyncListed := by
  intro masterDB hmaster
  change (sampleSync spec sampleFailedMaster 2).dbs["a"]? = some masterDB at hmaster
  rw [getElem?_sampleSync_master, Option.some.injEq] at hmaster
  subst hmaster
  change sampleFailedMaster.spec.ListsOthers "a"
  constructor <;> decide

theorem sync_minimum_iff_sample
    : ∃ (s' : Sentinel) (newcd : ClusterData) (masterDB' : DB),
        ({} : Sentinel).updateCluster (.simplest 0 1)
            (sampleSync sampleSyncSpec sampleFailedMaster 2) ∅
          = .ok (s', newcd)
          ∧
        newcd.dbs[newcd.cluster.status.master]? = some masterDB'
          ∧
        HasMinimum newcd ["b"] masterDB'
          ∧
        Keeper.synchronousStandbyNames masterDB' = ["hysteron_a"]
          ∧
        Keeper.WaitsForAll masterDB' := by
  have hrun : (({} : Sentinel).updateCluster (.simplest 0 1)
      (sampleSync sampleSyncSpec sampleFailedMaster 2) ∅).toOption.map
        (fun r => (r.2.cluster.status.master, (r.2.dbs["b"]?).map (fun masterDB =>
          (masterDB.spec.synchronousStandbys.elems, Keeper.synchronousStandbyNames masterDB))))
      = some ("b", some (["a"], ["hysteron_a"])) := by
    decide +kernel
  obtain ⟨⟨s', newcd⟩, hrun, hresult⟩ := Except.exists_ok_of_toOption_map hrun
  simp only [Prod.mk.injEq, Option.map_eq_some_iff] at hresult
  obtain ⟨hmaster, newDB, hnewDB, hrequired, hnames⟩ := hresult
  have hne : newcd.cluster.status.master ≠ "a" := by
    rw [hmaster]
    decide
  obtain ⟨masterDB', hmaster', hiff, hwaits⟩ := (sync_minimum_iff (.simplest 0 1) {} s' _ newcd ∅
    sampleFailedMaster (sound_sampleSync sampleSyncSpec 2 rfl rfl rfl) (syncListed_sampleSync _)
    (Env.fresh_simplest (by decide +kernel)) rfl rfl rfl (getElem?_sampleSync_master _ _ _) hrun).1 hne
  rw [hmaster, hnewDB] at hmaster'
  cases hmaster'
  refine ⟨s', newcd, newDB, hrun, hmaster ▸ hnewDB, hiff.mpr (.inl (by decide)), hnames, hwaits ?_⟩
  rw [hrequired]
  intro uid huid
  obtain rfl := List.mem_singleton.mp huid
  exact List.all_eq_true.mp (by decide)

/--
Two synchronous standbys are asked for, the failed master has one. The new master lists only the old
one and does not block.
-/
theorem elected_below_minimum
    : ∃ (env : Env) (s s' : Sentinel) (cd newcd : ClusterData) (pis : ProxiesInfo)
        (masterDB masterDB' : DB),
        cd.Sound
          ∧
        cd.SyncListed
          ∧
        env.Fresh cd.dbs
          ∧
        cd.cluster.spec.validate = .ok ()
          ∧
        cd.cluster.status.phase = .normal
          ∧
        cd.cluster.status.pauseActive env.now = false
          ∧
        syncRepl cd.cluster.defSpec = true
          ∧
        cd.dbs[cd.cluster.status.master]? = some masterDB
          ∧
        s.updateCluster env cd pis = .ok (s', newcd)
          ∧
        newcd.cluster.status.master ≠ cd.cluster.status.master
          ∧
        newcd.dbs[newcd.cluster.status.master]? = some masterDB'
          ∧
        ¬ HasMinimum newcd masterDB.spec.synchronousStandbys.elems masterDB' := by
  have hrun : (({} : Sentinel).updateCluster (.simplest 0 1)
      (sampleSync sampleTwoSpec sampleFailedMaster 2) ∅).toOption.map (fun r =>
        (r.2.cluster.status.master, r.2.cluster.defSpec.minSynchronousStandbys,
          (r.2.dbs["b"]?).map (fun masterDB => (masterDB.spec.synchronousStandbys.elems,
            masterDB.spec.externalSynchronousStandbys.elems))))
      = some ("b", 2, some (["a"], [])) := by
    decide +kernel
  obtain ⟨⟨s', newcd⟩, hrun, hresult⟩ := Except.exists_ok_of_toOption_map hrun
  simp only [Prod.mk.injEq, Option.map_eq_some_iff] at hresult
  obtain ⟨hmaster, hmin, masterDB', hmaster', hrequired, hexternal⟩ := hresult
  refine ⟨.simplest 0 1, {}, s', _, newcd, ∅, sampleFailedMaster, masterDB',
    sound_sampleSync sampleTwoSpec 2 rfl rfl rfl, syncListed_sampleSync _,
    Env.fresh_simplest (by decide +kernel), rfl, rfl, rfl, rfl, getElem?_sampleSync_master _ _ _,
    hrun, ?_, ?_, ?_⟩
  . rw [hmaster]
    decide
  . rw [hmaster]
    exact hmaster'
  . unfold HasMinimum
    rw [hrequired, hexternal, hmin]
    rintro (hfake | ⟨standbys, hnodup, hlength, hmem⟩)
    . cases hfake
    . have hsubset : standbys ⊆ ["a"] := fun uid huid => (hmem uid huid).1
      exact absurd (hlength.trans (hnodup.length_le_of_subset hsubset)) (by decide)

end Sample

end Sentinel
end Hysteron
