import Hysteron.Cluster.Json
import Hysteron.Operations.Lemmas
import Hysteron.Sentinel.Check
import Hysteron.Sentinel.Lemmas.Faults
import Hysteron.Sentinel.Lemmas.State
import Hysteron.Util.TransitionSystem

/-!
Cluster data stays well formed: whatever the sentinels and the operators do, in any order, keepers,
databases, the master and the proxies fit together.
-/

namespace Hysteron

namespace ClusterData

def MasterKnown (cd : ClusterData) : Prop :=
  ∃ (db : DB), cd.dbs[cd.cluster.status.master]? = some db ∧ db.spec.type = some .primaryLine

structure WellFormed (cd : ClusterData) : Prop where
  assigned : cd.Assigned
  master : cd.cluster.status.phase = .normal → cd.MasterKnown
  proxy : cd.proxy.spec.masterDBUID = ""
    ∨ cd.proxy.spec.masterDBUID = cd.cluster.status.master

structure BeingInitialized (cd : ClusterData) : Prop where
  proxy : cd.proxy.spec.masterDBUID = ""
  only : ∀ (uid : String) (db : DB), cd.dbs[uid]? = some db → uid = cd.cluster.status.master
  none : cd.cluster.status.master = "" → ∀ (uid : String), cd.dbs[uid]? = none
  master : cd.cluster.status.master ≠ "" → cd.MasterKnown

structure Sound (cd : ClusterData) : Prop extends cd.WellFormed where
  phase : cd.cluster.status.phase = .initializing ∨ cd.cluster.status.phase = .normal
  initializing : cd.cluster.status.phase = .initializing → cd.BeingInitialized

theorem Sound.type_master {cd : ClusterData} {masterDB : DB} (h : cd.Sound)
    (hmaster : cd.dbs[cd.cluster.status.master]? = some masterDB)
    : masterDB.spec.type = some .primaryLine := by
  have hknown : cd.MasterKnown := by
    obtain hphase | hphase := h.phase
    . refine (h.initializing hphase).master ?_
      intro hempty
      rw [(h.initializing hphase).none hempty] at hmaster
      cases hmaster
    . exact h.master hphase
  obtain ⟨db, hdb, hline⟩ := hknown
  rw [hmaster] at hdb
  cases hdb
  exact hline

structure Derived (cd cd' : ClusterData) : Prop where
  phase : cd'.cluster.status.phase = cd.cluster.status.phase
  master : cd'.cluster.status.master = cd.cluster.status.master
  proxy : cd'.proxy.spec.masterDBUID = cd.proxy.spec.masterDBUID
    ∨ (cd.cluster.status.phase = .normal
        ∧ cd'.proxy.spec.masterDBUID = cd.cluster.status.master)
  keeperKeyed : ∀ (uid : String) (k : Keeper), cd'.keepers[uid]? = some k → k.uid = uid
  registered : ∀ (uid : String) (db : DB), cd.dbs[uid]? = some db →
    cd'.dbs[uid]?.isSome = true → db.spec.keeperUID ∈ cd'.keepers
  dbs : ∀ (uid : String) (db' : DB), cd'.dbs[uid]? = some db' →
    ∃ (db : DB),
      cd.dbs[uid]? = some db
        ∧
      db'.uid = db.uid
        ∧
      db'.spec.keeperUID = db.spec.keeperUID
        ∧
      db'.spec.WellRoled
  masterKnown : cd.MasterKnown → cd'.MasterKnown

variable {cd cd' : ClusterData}

theorem Sound.of_derived (h : cd.Sound) (hd : cd.Derived cd') : cd'.Sound where
  assigned := h.assigned.of_derived hd.keeperKeyed hd.registered hd.dbs
  master := by
    intro hphase
    rw [hd.phase] at hphase
    exact hd.masterKnown (h.master hphase)
  proxy := by
    rw [hd.master]
    cases hd.proxy with
    | inl hproxy =>
      rw [hproxy]
      exact h.proxy
    | inr hproxy => exact .inr hproxy.2
  phase := by
    rw [hd.phase]
    exact h.phase
  initializing := by
    intro hphase
    rw [hd.phase] at hphase
    have hinit := h.initializing hphase
    constructor
    case proxy =>
      cases hd.proxy with
      | inl hproxy => rw [hproxy]; exact hinit.proxy
      | inr hproxy => exact absurd (hproxy.1.symm.trans hphase) (by simp)
    case only =>
      intro uid db' hdb'
      obtain ⟨db, hdb, -⟩ := hd.dbs uid db' hdb'
      rw [hd.master]
      exact hinit.only uid db hdb
    case none =>
      intro hempty uid
      rw [hd.master] at hempty
      cases hdb' : cd'.dbs[uid]? with
      | none => rfl
      | some db' =>
        obtain ⟨db, hdb, -⟩ := hd.dbs uid db' hdb'
        rw [hinit.none hempty uid] at hdb
        cases hdb
    case master =>
      intro hne
      rw [hd.master] at hne
      exact hd.masterKnown (hinit.master hne)

theorem Derived.of_map (h : cd.Assigned) (f : String → DB → DB) (g : String → Keeper → Keeper)
    (hphase : cd'.cluster.status.phase = cd.cluster.status.phase)
    (hmaster : cd'.cluster.status.master = cd.cluster.status.master)
    (hproxy : cd'.proxy.spec.masterDBUID = cd.proxy.spec.masterDBUID)
    (hdbs : ∀ (uid : String), cd'.dbs[uid]? = (cd.dbs[uid]?).map (f uid))
    (hkeepers : ∀ (uid : String), cd'.keepers[uid]? = (cd.keepers[uid]?).map (g uid))
    (hf : ∀ (uid : String) (db : DB), cd.dbs[uid]? = some db →
      (f uid db).uid = db.uid
        ∧
      (f uid db).spec.keeperUID = db.spec.keeperUID
        ∧
      (f uid db).spec.WellRoled
        ∧
      (uid = cd.cluster.status.master → (f uid db).spec.type = db.spec.type))
    (hg : ∀ (uid : String) (k : Keeper), cd.keepers[uid]? = some k → (g uid k).uid = k.uid)
    : cd.Derived cd' where
  phase := hphase
  master := hmaster
  proxy := .inl hproxy
  keeperKeyed := by
    intro uid k' hk'
    rw [hkeepers] at hk'
    obtain ⟨k, hk, rfl⟩ := Option.map_eq_some_iff.mp hk'
    rw [hg uid k hk]
    exact h.keeperKeyed uid k hk
  registered := by
    intro uid db hdb _
    have hmem := h.registered uid db hdb
    rw [Std.ExtTreeMap.mem_iff_isSome_getElem?] at hmem ⊢
    rw [hkeepers]
    simpa using hmem
  dbs := by
    intro uid db' hdb'
    rw [hdbs] at hdb'
    obtain ⟨db, hdb, rfl⟩ := Option.map_eq_some_iff.mp hdb'
    obtain ⟨huid, hkeeper, hrole, -⟩ := hf uid db hdb
    exact ⟨db, hdb, huid, hkeeper, hrole⟩
  masterKnown := by
    rintro ⟨db, hdb, htype⟩
    obtain ⟨-, -, -, hsame⟩ := hf _ db hdb
    refine ⟨f cd.cluster.status.master db, ?_, ?_⟩
    . rw [hmaster, hdbs, hdb]
      rfl
    . rw [hsame rfl]
      exact htype

theorem Derived.of_cluster (h : cd.Assigned) {cluster : Cluster}
    (hphase : cluster.status.phase = cd.cluster.status.phase)
    (hmaster : cluster.status.master = cd.cluster.status.master)
    : cd.Derived { cd with cluster } := by
  refine Derived.of_map h (fun _ db => db) (fun _ k => k) hphase hmaster rfl (by simp) (by simp) ?_ ?_
  . intro uid db hdb
    exact ⟨rfl, rfl, h.wellRoled uid db hdb, fun _ => rfl⟩
  . intro uid k _
    rfl

end ClusterData

variable {cd cd' : ClusterData}

theorem derived_roundTrip (h : cd.Assigned) : cd.Derived cd.roundTrip := by
  refine ClusterData.Derived.of_map h (fun _ db => db.roundTrip) (fun _ k => k) rfl rfl rfl ?_
    (by simp [ClusterData.roundTrip]) ?_ (fun _ _ _ => rfl)
  . intro uid
    simp [ClusterData.roundTrip, Std.ExtTreeMap.getElem?_map]
  . intro uid db hdb
    have hrole := h.wellRoled uid db hdb
    exact ⟨rfl, rfl, ⟨hrole.defined, hrole.follows⟩, fun _ => rfl⟩

section Commands

open Operations

variable {now : Time}

theorem wellRoled_markForResync (masterDBUID : String) (db : DB)
    : (markForResync masterDBUID db).spec.WellRoled where
  defined := by simp [markForResync]
  follows := by simp [markForResync]

theorem derived_resync {targetDB : DB} (h : cd.Assigned)
    (hne : targetDB.uid ≠ cd.cluster.status.master) {status : ClusterStatus}
    (hphase : status.phase = cd.cluster.status.phase)
    (hmaster : status.master = cd.cluster.status.master)
    : cd.Derived (setStatus
        { cd with dbs := cd.dbs.modify targetDB.uid (markForResync cd.cluster.status.master) }
        status) := by
  refine ClusterData.Derived.of_map h
    (fun uid db => if targetDB.uid = uid then markForResync cd.cluster.status.master db else db)
    (fun _ k => k) hphase hmaster rfl ?_ (by simp [setStatus]) ?_ (fun _ _ _ => rfl)
  . intro uid
    simp only [setStatus, Std.ExtTreeMap.getElem?_modify, compare_eq_iff_eq]
    split
    . next heq => rw [heq]
    . simp
  . intro uid db hdb
    split
    . next heq =>
      exact ⟨rfl, rfl, wellRoled_markForResync _ _, fun hmaster => absurd (heq.trans hmaster) hne⟩
    . exact ⟨rfl, rfl, h.wellRoled uid db hdb, fun _ => rfl⟩

theorem derived_removed {keeperUID : String} (h : cd.Assigned) (hremoved : Removed keeperUID cd cd')
    : cd.Derived cd' := by
  constructor
  case phase => rw [hremoved.cluster]
  case master => rw [hremoved.cluster]
  case proxy => exact .inl (by rw [hremoved.proxy])
  case keeperKeyed =>
    intro uid k hk
    rw [hremoved.keepers, Std.ExtTreeMap.getElem?_erase] at hk
    split at hk
    . cases hk
    . exact h.keeperKeyed uid k hk
  case registered =>
    intro uid db hdb hkept
    obtain ⟨db', hdb'⟩ := Option.isSome_iff_exists.mp hkept
    obtain ⟨hsame, hne⟩ := (hremoved.dbs uid db').mp hdb'
    rw [hdb] at hsame
    cases hsame
    rw [hremoved.keepers, Std.ExtTreeMap.mem_erase]
    exact ⟨by simpa using Ne.symm hne, h.registered uid db hdb⟩
  case dbs =>
    intro uid db hdb
    have hdb := ((hremoved.dbs uid db).mp hdb).1
    exact ⟨db, hdb, rfl, rfl, h.wellRoled uid db hdb⟩
  case masterKnown =>
    rintro ⟨db, hdb, htype⟩
    refine ⟨db, ?_, htype⟩
    rw [hremoved.cluster]
    exact (hremoved.dbs _ db).mpr ⟨hdb, hremoved.master db hdb⟩

theorem derived_failed (keeperUID : String) (h : cd.Assigned)
    : cd.Derived { cd with
        keepers := cd.keepers.modify keeperUID (fun k =>
          { k with status := { k.status with forceFail := true } }) } := by
  refine ClusterData.Derived.of_map h (fun _ db => db)
    (fun uid k => if keeperUID = uid then
      { k with status := { k.status with forceFail := true } } else k)
    rfl rfl rfl (by simp) ?_ ?_ ?_
  . intro uid
    simp only [Std.ExtTreeMap.getElem?_modify, compare_eq_iff_eq]
    split
    . next heq => rw [heq]
    . simp
  . intro uid db hdb
    exact ⟨rfl, rfl, h.wellRoled uid db hdb, fun _ => rfl⟩
  . intro uid k _
    split <;> rfl

theorem derived_command (c : Command) (h : cd.Assigned) (hrun : c.run now cd = .ok cd')
    : cd.Derived cd' := by
  cases command_effect c h hrun with
  | status _ status hphase hmaster => exact ClusterData.Derived.of_cluster h hphase hmaster
  | spec nextSpec _ => exact ClusterData.Derived.of_cluster h rfl rfl
  | promoted => exact ClusterData.Derived.of_cluster h rfl rfl
  | resync order target targetDB _ _ hne => exact derived_resync h hne rfl rfl
  | removed _ keeperUID _ hremoved => exact derived_removed h hremoved
  | failed _ keeperUID => exact derived_failed keeperUID h

end Commands

namespace Sentinel

variable {env : Env} {s s' : Sentinel} {now : Time} {newcd : ClusterData} {pis : ProxiesInfo}

section Observation

variable {keepersInfo : KeepersInfo} {firstRun : Bool} {kihs : FinMap String KeeperInfoHistory}

theorem derived_updateKeepersStatus (h : cd.Assigned) (hkeyed : KeepersInfo.Keyed keepersInfo)
    (hrun : s.updateKeepersStatus now cd keepersInfo firstRun = .ok (s', cd', kihs))
    : cd.Derived cd' := by
  cases firstRun with
  | true =>
    rw [(updateKeepersStatus_firstRun hrun).2]
    exact ClusterData.Derived.of_cluster h rfl rfl
  | false =>
    have hmerged := updateKeepersStatus_merged hrun
    have hfresh : KeepersInfo.Keyed (s.freshKeepersInfo now cd keepersInfo) :=
      keyed_freshKeepersInfo hkeyed
    constructor
    case phase => rw [hmerged.cluster]
    case master => rw [hmerged.cluster]
    case proxy => exact .inl (by rw [hmerged.proxy])
    case keeperKeyed =>
      intro uid k' hk'
      obtain ⟨k, huid, hold | ⟨ki, hki, rfl⟩⟩ := hmerged.keeper_cases hfresh hk'
      . rw [huid]
        exact h.keeperKeyed uid k hold
      . rw [huid]
        exact hfresh uid ki hki
    case registered =>
      intro uid db hdb _
      exact hmerged.mem_keepers hfresh (h.registered uid db hdb)
    case dbs =>
      intro uid db' hdb'
      rw [hmerged.getElem?_dbs] at hdb'
      obtain ⟨db, hdb, rfl⟩ := Option.map_eq_some_iff.mp hdb'
      have hrole := h.wellRoled uid db hdb
      simp only [updateDBHealth_mergeReport_keeps]
      exact ⟨db, hdb, rfl, rfl, hrole⟩
    case masterKnown =>
      rintro ⟨db, hdb, htype⟩
      have hdb' := hmerged.getElem?_dbs cd.cluster.status.master
      rw [hdb, Option.map_some] at hdb'
      refine ⟨_, by rw [hmerged.cluster]; exact hdb', ?_⟩
      simp only [updateDBHealth_mergeReport_keeps]
      exact htype

end Observation

section Finish

theorem wellRoled_dbSpecFromClusterSpec {clusterSpec : DefSpec} {dt : Except Fault DBType}
    {spec : DBSpec} (h : spec.WellRoled) : (dbSpecFromClusterSpec clusterSpec dt spec).WellRoled where
  defined := by
    simp only [dbSpecFromClusterSpec_keeps]
    exact h.defined
  follows := by
    simp only [dbSpecFromClusterSpec_keeps]
    intro hrole
    have hsome := h.follows hrole
    have hmap := dbSpecFromClusterSpec_followConfig_map clusterSpec dt spec
    have := congrArg Option.isSome hmap
    simp only [Option.isSome_map] at this
    rw [this]
    exact hsome

theorem isExternal_dbSpecFromClusterSpec (clusterSpec : DefSpec) (dt : Except Fault DBType)
    (spec : DBSpec)
    : FollowConfig.isExternal (dbSpecFromClusterSpec clusterSpec dt spec).followConfig
        =
      FollowConfig.isExternal spec.followConfig := by
  have hmap := dbSpecFromClusterSpec_followConfig_map clusterSpec dt spec
  have := congrArg (Option.any (fun x => decide (x.1 = FollowType.external))) hmap
  simp only [Option.any_map] at this
  exact this

@[simp]
theorem type_dbSpecFromClusterSpec (clusterSpec : DefSpec) (dt : Except Fault DBType) (spec : DBSpec)
    : (dbSpecFromClusterSpec clusterSpec dt spec).type = spec.type := by
  unfold DBSpec.type
  rw [isExternal_dbSpecFromClusterSpec]
  simp only [dbSpecFromClusterSpec_keeps]

theorem Finished.derived (hassigned : newcd.Assigned) (h : Finished cd newcd cd')
    : newcd.Derived cd' := by
  -- The orphan slots are all that the last part changes beside spec and generation.
  have hdb (uid : String) (db : DB) (hdb : newcd.dbs[uid]? = some db)
      : ∃ (db' : DB), cd'.dbs[uid]? = some db' ∧ db'.uid = db.uid
        ∧ db'.spec = finishSpec newcd db := by
    obtain ⟨orphans, heq⟩ := h.getElem?_dbs uid
    rw [hdb] at heq
    exact ⟨_, heq, rfl, rfl⟩
  constructor
  case phase => rw [h.cluster]
  case master => rw [h.cluster]
  case proxy => exact .inl (by rw [h.proxy])
  case keeperKeyed => rw [h.keepers]; exact hassigned.keeperKeyed
  case registered =>
    intro uid db hdb _
    rw [h.keepers]
    exact hassigned.registered uid db hdb
  case dbs =>
    intro uid db' hdb'
    obtain ⟨orphans, heq⟩ := h.getElem?_dbs uid
    rw [hdb'] at heq
    obtain ⟨db, hdb, rfl⟩ := Option.map_eq_some_iff.mp heq.symm
    refine ⟨db, hdb, rfl, ?_, wellRoled_dbSpecFromClusterSpec (hassigned.wellRoled uid db hdb)⟩
    simp only [finishSpec, dbSpecFromClusterSpec_keeps]
  case masterKnown =>
    rintro ⟨db, hmaster, htype⟩
    obtain ⟨db', hdb', -, hspec⟩ := hdb _ db hmaster
    refine ⟨db', by rw [h.cluster]; exact hdb', ?_⟩
    rw [hspec, finishSpec, type_dbSpecFromClusterSpec]
    exact htype

theorem sound_finishUpdate (h : newcd.Sound) (hfinish : finishUpdate now cd newcd = .ok cd')
    : cd'.Sound :=
  h.of_derived ((finishUpdate_finished hfinish).derived h.assigned)

end Finish

section Normal

variable {base : ClusterData}

theorem derived_base (h : cd.Assigned) (hbase : Base now cd base) : cd.Derived base where
  phase := hbase.phase
  master := hbase.master
  proxy := .inl (by rw [hbase.proxy])
  keeperKeyed := by
    intro uid k hk
    rw [hbase.keepers, removeOldKeepers, FinMap.getElem?_filter_eq_some] at hk
    exact h.keeperKeyed uid k hk.1
  registered := by
    intro uid db hdb _
    have hmem := h.registered uid db hdb
    rw [Std.ExtTreeMap.mem_iff_isSome_getElem?] at hmem
    obtain ⟨k, hk⟩ := Option.isSome_iff_exists.mp hmem
    have huid := h.keeperKeyed _ k hk
    -- A keeper with a database is never old.
    have hused : FinMap.anyValue cd.dbs (fun db => db.spec.keeperUID = k.uid) = true := by
      rw [FinMap.anyValue_iff]
      exact ⟨uid, db, hdb, by simp [huid]⟩
    rw [hbase.keepers, removeOldKeepers, Std.ExtTreeMap.mem_iff_isSome_getElem?,
      Option.isSome_iff_exists]
    refine ⟨k, ?_⟩
    rw [FinMap.getElem?_filter_eq_some]
    exact ⟨hk, by simp [hused]⟩
  dbs := by
    intro uid db hdb
    rw [hbase.dbs] at hdb
    exact ⟨db, hdb, rfl, rfl, h.wellRoled uid db hdb⟩
  masterKnown := by
    rintro ⟨db, hdb, htype⟩
    refine ⟨db, ?_, htype⟩
    rw [hbase.master, hbase.dbs]
    exact hdb

@[simp]
theorem inheritSynchronousStandbys_keeps (clusterSpec : DefSpec) (oldMasterDB newMasterDB : DB)
    (spec : DBSpec)
    : (inheritSynchronousStandbys clusterSpec oldMasterDB newMasterDB spec).keeperUID = spec.keeperUID
        ∧
      (inheritSynchronousStandbys clusterSpec oldMasterDB newMasterDB spec).initMode = spec.initMode
        ∧
      (inheritSynchronousStandbys clusterSpec oldMasterDB newMasterDB spec).role = spec.role
        ∧
      (inheritSynchronousStandbys clusterSpec oldMasterDB newMasterDB spec).followConfig
        = spec.followConfig := by
  unfold inheritSynchronousStandbys
  split <;> exact ⟨rfl, rfl, rfl, rfl⟩

theorem sound_promotion {curMasterDBUID wantedMasterDBUID : String} {oldMasterDB newMasterDB : DB}
    {role : Role} {followConfig : Option FollowConfig} (h : base.Sound)
    (hphase : base.cluster.status.phase = .normal)
    (hp : Promotion base newcd curMasterDBUID wantedMasterDBUID oldMasterDB newMasterDB role
      followConfig)
    : newcd.Sound := by
  have hline := masterRole_primaryLine
    (promoted base.cluster.defSpec role followConfig oldMasterDB newMasterDB).spec
    (by simpa [promoted] using hp.masterRole)
  have hnormal : newcd.cluster.status.phase = .normal := by
    rw [hp.cluster]
    exact hphase
  constructor
  case phase => exact .inr hnormal
  case initializing =>
    intro hinit
    exact absurd (hinit.symm.trans hnormal) (by simp)
  case toWellFormed =>
    constructor
    case proxy =>
      refine .inl ?_
      rw [hp.proxy]
      unfold Proxy.withoutMaster
      split
      . rfl
      . next hnone => simpa using hnone
    case master =>
      intro _
      refine ⟨promoted base.cluster.defSpec role followConfig oldMasterDB newMasterDB, ?_, hline.2⟩
      rw [hp.getElem?_dbs, hp.cluster]
      simp
    case assigned =>
      refine h.assigned.of_derived_keepers hp.keepers ?_
      intro uid db' hdb'
      rw [hp.getElem?_dbs] at hdb'
      split at hdb'
      . next heq =>
        cases hdb'
        exact ⟨newMasterDB, heq ▸ hp.new, rfl, by simp [promoted], hline.1⟩
      . split at hdb'
        . next heq =>
          cases hdb'
          have hrole := h.assigned.wellRoled _ _ hp.old
          exact ⟨oldMasterDB, heq ▸ hp.old, rfl, rfl, hrole.defined, hrole.follows⟩
        . exact ⟨db', hdb', rfl, rfl, h.assigned.wellRoled uid db' hdb'⟩

theorem updateProxy_masterDBUID (masterDBUID : String) (pis : ProxiesInfo) (proxy : Proxy)
    : (updateProxy masterDBUID pis proxy).spec.masterDBUID = proxy.spec.masterDBUID
        ∨
      (updateProxy masterDBUID pis proxy).spec.masterDBUID = masterDBUID := by
  unfold updateProxy
  dsimp only
  split
  . split
    . exact .inl rfl
    . exact .inr rfl
  . split
    . exact .inl rfl
    . exact .inl rfl

theorem confirmMasterRole_cases (clusterSpec : DefSpec) (masterDB : DB)
    : (confirmMasterRole clusterSpec masterDB).uid = masterDB.uid
        ∧
      (confirmMasterRole clusterSpec masterDB).spec.keeperUID = masterDB.spec.keeperUID
        ∧
      (masterDB.spec.WellRoled → (confirmMasterRole clusterSpec masterDB).spec.WellRoled)
        ∧
      (masterDB.spec.type = some .primaryLine →
        (confirmMasterRole clusterSpec masterDB).spec.type = some .primaryLine) := by
  unfold confirmMasterRole
  split
  . exact ⟨rfl, rfl, fun _ => ⟨by simp, by simp⟩, fun _ => rfl⟩
  . exact ⟨rfl, rfl, id, id⟩

theorem derived_confirmMaster {masterDB : DB} (h : base.Sound)
    (hphase : base.cluster.status.phase = .normal)
    (hmaster : base.dbs[base.cluster.status.master]? = some masterDB)
    : base.Derived (confirmMaster base base.cluster.status.master masterDB pis) := by
  obtain ⟨huid, hkeeper, hrole, htype⟩ :=
    confirmMasterRole_cases base.cluster.defSpec masterDB
  constructor
  case phase => rfl
  case master => rfl
  case proxy =>
    cases updateProxy_masterDBUID base.cluster.status.master pis base.proxy with
    | inl hsame => exact .inl hsame
    | inr hset => exact .inr ⟨hphase, hset⟩
  case keeperKeyed => exact h.assigned.keeperKeyed
  case registered =>
    intro uid db hdb _
    exact h.assigned.registered uid db hdb
  case dbs =>
    intro uid db' hdb'
    rw [getElem?_confirmMaster] at hdb'
    split at hdb'
    . next heq =>
      cases hdb'
      exact ⟨masterDB, heq ▸ hmaster, huid, hkeeper, hrole (h.assigned.wellRoled _ _ hmaster)⟩
    . exact ⟨db', hdb', rfl, rfl, h.assigned.wellRoled uid db' hdb'⟩
  case masterKnown =>
    rintro ⟨db, hdb, hline⟩
    rw [hmaster] at hdb
    cases hdb
    refine ⟨confirmMasterRole base.cluster.defSpec masterDB, ?_, htype hline⟩
    rw [getElem?_confirmMaster]
    exact if_pos rfl

theorem derived_updateFollowers {curMasterDBUID wantedMasterDBUID : String} (h : newcd.Assigned)
    (hfollow : updateFollowers newcd curMasterDBUID wantedMasterDBUID = .ok cd')
    : newcd.Derived cd' := by
  obtain ⟨masterDB, followers, hmaster, rfl⟩ := updateFollowers_cases hfollow
  refine ClusterData.Derived.of_map h
    (fun uid db => if uid = curMasterDBUID then
      { db with spec := { db.spec with followers := some followers } } else db)
    (fun _ k => k) rfl rfl rfl ?_ (by simp) ?_ (fun _ _ _ => rfl)
  . intro uid
    rw [Std.ExtTreeMap.getElem?_insert]
    by_cases heq : uid = curMasterDBUID
    . simp [heq, hmaster]
    . simp [heq, Ne.symm heq]
  . intro uid db hdb
    have hrole := h.wellRoled uid db hdb
    split
    . exact ⟨rfl, rfl, ⟨hrole.defined, hrole.follows⟩, fun _ => rfl⟩
    . exact ⟨rfl, rfl, hrole, fun _ => rfl⟩

theorem fresh_confirmMaster {masterDBUID : String} {masterDB : DB} (hfresh : env.Fresh base.dbs)
    (hmaster : base.dbs[masterDBUID]? = some masterDB)
    : env.Fresh (confirmMaster base masterDBUID masterDB pis).dbs where
  ne_empty := hfresh.ne_empty
  injective := hfresh.injective
  not_mem := by
    intro n hmem
    rw [confirmMaster, Std.ExtTreeMap.mem_insert] at hmem
    cases hmem with
    | inl heq =>
      have heq : masterDBUID = env.uidFn n := by simpa using heq
      exact hfresh.ne_of_getElem? hmaster n heq.symm
    | inr hmem => exact hfresh.not_mem n hmem

theorem sound_reconcileStandbys {curMasterDB : DB} (h : newcd.Sound)
    (hphase : newcd.cluster.status.phase = .normal)
    (hmaster : newcd.cluster.status.master = cd.cluster.status.master) (hfresh : env.Fresh newcd.dbs)
    (hcur : cd.dbs[cd.cluster.status.master]? = some curMasterDB)
    (huid : curMasterDB.uid = cd.cluster.status.master)
    (hrun : s.reconcileStandbys env cd newcd cd.cluster.status.master curMasterDB = .ok (s', cd'))
    : cd'.Sound := by
  obtain ⟨masterDB, hdb, hline⟩ := h.master hphase
  rw [hmaster] at hdb
  have hrec : Reconciled env cd.cluster.status.master newcd cd' :=
    reconcileStandbys_reconciled h.assigned.keyed h.assigned.typed hfresh hcur huid hdb hline hrun
  have hnormal : cd'.cluster.status.phase = .normal := by
    rw [hrec.cluster]
    exact hphase
  constructor
  case phase => exact .inr hnormal
  case initializing =>
    intro hinit
    exact absurd (hinit.symm.trans hnormal) (by simp)
  case toWellFormed =>
    constructor
    case assigned => exact assigned_reconcileStandbys h.assigned hrun
    case proxy =>
      rw [hrec.proxy, hrec.cluster]
      exact h.proxy
    case master =>
      intro _
      obtain ⟨cd₁, good, best, -, hsetup⟩ := hrec.master
      rw [hdb, Option.map_some] at hsetup
      refine ⟨_, by rw [hrec.cluster, hmaster]; exact hsetup, ?_⟩
      rw [(setupSynchronousStandbys_same good best).type]
      exact hline

theorem sound_confirmMaster {masterDB : DB} (h : cd.Sound)
    (hphase : cd.cluster.status.phase = .normal) (hbase : Base now cd base)
    (hmaster : base.dbs[cd.cluster.status.master]? = some masterDB)
    : ∃ (confirmed : DB),
        (confirmMaster base cd.cluster.status.master masterDB pis).dbs[cd.cluster.status.master]?
          = some confirmed
          ∧
        confirmed.spec.type = some .primaryLine
          ∧
        (confirmMaster base cd.cluster.status.master masterDB pis).Sound := by
  have hsound : base.Sound := h.of_derived (derived_base h.assigned hbase)
  have hnormal : base.cluster.status.phase = .normal := hbase.phase.trans hphase
  -- The master of `cd` and of `base` is the same, and the lemmas speak of that of `base`.
  rw [← hbase.master] at hmaster ⊢
  have hconfirm : (confirmMaster base base.cluster.status.master masterDB pis).Sound :=
    hsound.of_derived (derived_confirmMaster hsound hnormal hmaster)
  obtain ⟨confirmed, hdb, hline⟩ := hconfirm.master hnormal
  exact ⟨confirmed, hdb, hline, hconfirm⟩

theorem reconciled_confirmMaster {masterDB curMasterDB : DB} (h : cd.Sound)
    (hphase : cd.cluster.status.phase = .normal) (hfresh : env.Fresh cd.dbs)
    (hbase : Base now cd base) (hmaster : base.dbs[cd.cluster.status.master]? = some masterDB)
    (hcur : cd.dbs[cd.cluster.status.master]? = some curMasterDB)
    (hreconcile : s.reconcileStandbys env cd
      (confirmMaster base cd.cluster.status.master masterDB pis) cd.cluster.status.master
      curMasterDB = .ok (s', newcd))
    : Reconciled env cd.cluster.status.master
        (confirmMaster base cd.cluster.status.master masterDB pis) newcd := by
  obtain ⟨confirmed, hconfirmed, hline, hsound⟩ := sound_confirmMaster h hphase hbase hmaster
  exact reconcileStandbys_reconciled hsound.assigned.keyed hsound.assigned.typed
    (fresh_confirmMaster (hbase.dbs ▸ hfresh) hmaster) hcur (h.assigned.keyed _ _ hcur) hconfirmed
    hline hreconcile

theorem sound_normalCase {wanted : String} (h : cd.Sound)
    (hphase : cd.cluster.status.phase = .normal) (hfresh : env.Fresh cd.dbs)
    (hbase : Base env.now cd base) (hmid : NormalCase env cd base pis wanted newcd)
    : newcd.Sound := by
  have hnormal : base.cluster.status.phase = .normal := hbase.phase.trans hphase
  cases hmid with
  | promoted _ _ _ _ _ _ _ hpromotion =>
    exact sound_promotion (h.of_derived (derived_base h.assigned hbase)) hnormal hpromotion
  | kept masterDB hmaster =>
    obtain ⟨-, -, -, hsound⟩ := sound_confirmMaster h hphase hbase hmaster
    exact hsound
  | reconciled masterDB curMasterDB s s' _ hmaster hcur _ hreconcile =>
    obtain ⟨-, -, -, hsound⟩ := sound_confirmMaster h hphase hbase hmaster
    refine sound_reconcileStandbys hsound hnormal hbase.master ?_ hcur
      (h.assigned.keyed _ _ hcur) hreconcile
    exact fresh_confirmMaster (hbase.dbs ▸ hfresh) hmaster

end Normal

section Init

theorem assigned_addInitialMaster {db : DB} (h : cd.Assigned)
    (hnone : ∀ (uid : String), cd.dbs[uid]? = none) (hdb : InitialDB env cd db)
    : (addInitialMaster cd db).Assigned := by
  obtain ⟨key, k, hk, hkeeper⟩ := hdb.keeper
  have hinsert := h.insert hdb.wellRoled
    (by
      rw [hkeeper, h.keeperKeyed key k hk, Std.ExtTreeMap.mem_iff_isSome_getElem?]
      simp [hk])
    (by
      intro uid db' hdb'
      rw [hnone uid] at hdb'
      cases hdb')
  exact ⟨hinsert.keyed, hinsert.keeperKeyed, hinsert.registered, hinsert.exclusive,
    hinsert.wellRoled⟩

theorem sound_chosen {db : DB} (h : cd.Sound) (hphase : cd.cluster.status.phase = .initializing)
    (hmaster : cd.cluster.status.master = "") (hfresh : env.Fresh cd.dbs)
    (hdb : InitialDB env cd db)
    : (addInitialMaster cd db).Sound := by
  have hinit := h.initializing hphase
  have hne : db.uid ≠ "" := by
    rw [hdb.uid]
    exact hfresh.ne_empty 0
  have hknown : (addInitialMaster cd db).MasterKnown :=
    ⟨db, by simp [addInitialMaster], hdb.primaryLine⟩
  constructor
  case phase => exact .inl hphase
  case toWellFormed =>
    exact ⟨assigned_addInitialMaster h.assigned (hinit.none hmaster) hdb, fun _ => hknown,
      .inl hinit.proxy⟩
  case initializing =>
    intro _
    constructor
    case proxy => exact hinit.proxy
    case master => exact fun _ => hknown
    case none => exact fun hempty => absurd hempty hne
    case only =>
      intro uid db' hdb'
      simp only [addInitialMaster, Std.ExtTreeMap.getElem?_insert, compare_eq_iff_eq] at hdb'
      split at hdb'
      . next heq => exact heq.symm
      . rw [hinit.none hmaster uid] at hdb'
        cases hdb'

theorem sound_completed {db : DB} (h : cd.Sound)
    (hphase : cd.cluster.status.phase = .initializing) (hmaster : cd.cluster.status.master ≠ "")
    (hdb : cd.dbs[cd.cluster.status.master]? = some db)
    : (completeInit cd cd.cluster.defSpec cd.cluster.status.master db).Sound := by
  have hinit := h.initializing hphase
  have hrole := h.assigned.wellRoled _ db hdb
  constructor
  case phase => exact .inr rfl
  case initializing =>
    intro hcontra
    cases hcontra
  case toWellFormed =>
    constructor
    case proxy => exact .inl hinit.proxy
    case master =>
      intro _
      obtain ⟨db', hdb', htype⟩ := hinit.master hmaster
      rw [hdb] at hdb'
      cases hdb'
      exact ⟨_, Std.ExtTreeMap.getElem?_insert_self, htype⟩
    case assigned =>
      refine h.assigned.of_derived_keepers rfl ?_
      intro uid db' hdb'
      simp only [completeInit, Std.ExtTreeMap.getElem?_insert, compare_eq_iff_eq] at hdb'
      split at hdb'
      . next heq =>
        cases hdb'
        exact ⟨db, heq ▸ hdb, rfl, rfl, hrole.defined, hrole.follows⟩
      . exact ⟨db', hdb', rfl, rfl, h.assigned.wellRoled uid db' hdb'⟩

theorem sound_restarted (h : cd.Sound) (hphase : cd.cluster.status.phase = .initializing)
    : { cd with
        dbs := ∅
        cluster := { cd.cluster with status := { cd.cluster.status with master := "" } }
        : ClusterData }.Sound := by
  have hinit := h.initializing hphase
  constructor
  case phase => exact .inl hphase
  case initializing =>
    intro _
    exact ⟨hinit.proxy, by simp, by simp, by simp⟩
  case toWellFormed =>
    constructor
    case proxy => exact .inl hinit.proxy
    case master =>
      intro hnormal
      exact absurd (hphase.symm.trans hnormal) (by simp)
    case assigned =>
      refine h.assigned.of_derived_keepers rfl ?_
      intro uid db' hdb'
      simp at hdb'

theorem sound_initCase (h : cd.Sound) (hphase : cd.cluster.status.phase = .initializing)
    (hfresh : env.Fresh cd.dbs) (hmid : InitCase env cd newcd) : newcd.Sound := by
  cases hmid with
  | chosen db hmaster hdb => exact sound_chosen h hphase hmaster hfresh hdb
  | awaited => exact h
  | completed db hmaster hdb => exact sound_completed h hphase hmaster hdb
  | restarted => exact sound_restarted h hphase

end Init

theorem sound_updateCluster (h : cd.Sound) (hfresh : env.Fresh cd.dbs)
    (hrun : s.updateCluster env cd pis = .ok (s', cd')) : cd'.Sound := by
  cases updateCluster_cases hrun with
  | paused _ heq => exact heq ▸ h
  | initializing hphase mid hmid hfinish =>
    exact sound_finishUpdate (sound_initCase h hphase hfresh hmid) hfinish
  | normal hphase base mid followed _ _ hbase hmid hfollow hfinish =>
    have hsound := sound_normalCase h hphase hfresh hbase hmid
    exact sound_finishUpdate (hsound.of_derived (derived_updateFollowers hsound.assigned hfollow))
      hfinish

section Faults

variable {fault : Fault}

theorem normalCase_curMaster {base mid : ClusterData} {wanted : String} (h : cd.Sound)
    (hphase : cd.cluster.status.phase = .normal) (hfresh : env.Fresh cd.dbs)
    (hbase : Base env.now cd base) (hmid : NormalCase env cd base pis wanted mid)
    : ∃ (db : DB), mid.dbs[cd.cluster.status.master]? = some db := by
  have hsound := sound_normalCase h hphase hfresh hbase hmid
  -- A master that stays is the master of a sound state.
  have hstays (hcluster : mid.cluster = base.cluster)
      : ∃ (db : DB), mid.dbs[cd.cluster.status.master]? = some db := by
    obtain ⟨db, hdb, -⟩ := hsound.master (by rw [hcluster, hbase.phase, hphase])
    rw [hcluster, hbase.master] at hdb
    exact ⟨db, hdb⟩
  cases hmid with
  | promoted _ oldMasterDB _ _ _ _ hne hpromotion =>
    refine ⟨demoted oldMasterDB, ?_⟩
    rw [hpromotion.getElem?_dbs]
    simp [Ne.symm hne]
  | kept => exact hstays rfl
  | reconciled masterDB curMasterDB s s' _ hmaster hcur _ hreconcile =>
    have hcluster := reconcileStandbys_cluster hreconcile
    rw [confirmMaster] at hcluster
    exact hstays hcluster

theorem updateNormal_error (h : cd.Sound) (hphase : cd.cluster.status.phase = .normal)
    (hfresh : env.Fresh cd.dbs) (herror : s.updateNormal env cd pis = .error fault)
    : fault = .nilDeref
        ∧
      cd.cluster.defSpec.role = .standby
        ∧
      cd.cluster.defSpec.standbyConfig = none := by
  obtain ⟨curMasterDB, hcur, -⟩ := h.master hphase
  unfold updateNormal at herror
  dsimp only at herror
  rw [hcur] at herror
  simp only [Except.bind_eq_error_iff, Except.pure_eq_ok, reduceCtorEq, and_false, exists_false,
    or_false] at herror
  have hbase₀ : Base env.now cd (removeOldKeepers env.now cd) :=
    ⟨rfl, rfl, rfl, rfl, rfl, rfl, rfl, rfl⟩
  have hold := (h.of_derived (derived_base h.assigned hbase₀)).assigned
  cases herror with
  | inl helect =>
    obtain ⟨election, hok⟩ : ∃ election, s.elect env (removeOldKeepers env.now cd)
        cd.cluster.status.master curMasterDB = .ok election := elect_isOk hold.registered _
    rw [hok] at helect
    cases helect
  | inr happlied =>
    obtain ⟨election, helect, happlied⟩ := happlied
    have hbase := base_clearManualSwitch env.now election cd
    have hassigned := (h.of_derived (derived_base h.assigned hbase)).assigned
    have hdbs : (clearManualSwitch election (removeOldKeepers env.now cd)).dbs = cd.dbs := hbase.dbs
    have hspec : (clearManualSwitch election (removeOldKeepers env.now cd)).cluster.defSpec
        = cd.cluster.defSpec := by
      unfold Cluster.defSpec
      rw [hbase.spec]
    cases happlied with
    | inl hfail =>
      rw [← hspec]
      refine applyElection_error hassigned.registered (hdbs ▸ hcur) ?_ hfail
      rw [hdbs]
      exact elect_mem hold.keyed helect
    | inr hfollow =>
      obtain ⟨⟨sm, mid⟩, happly, hfollow⟩ := hfollow
      obtain ⟨db, hdb⟩ :=
        normalCase_curMaster h hphase hfresh hbase (applyElection_cases hcur happly)
      simp [updateFollowers, hdb] at hfollow

theorem updateCluster_error (h : cd.Sound) (hfresh : env.Fresh cd.dbs)
    (herror : s.updateCluster env cd pis = .error fault) : InitFault cd fault ∨ fault = .nilDeref := by
  unfold updateCluster at herror
  split at herror
  . next hphase =>
    simp only [Except.bind_eq_error_iff, Except.pure_eq_ok, reduceCtorEq, and_false, exists_false,
      or_false] at herror
    cases herror with
    | inl hinit =>
      refine .inl (initCluster_error ?_ hinit)
      intro hne
      obtain ⟨db, hdb, -⟩ := (h.initializing hphase).master hne
      exact ⟨db, hdb⟩
    | inr hfinish =>
      obtain ⟨⟨sm, mid⟩, -, hfinish⟩ := hfinish
      exact .inr (finishUpdate_eq_error_iff.mp hfinish).1
  . next hphase =>
    split at herror
    . cases herror
    . simp only [Except.bind_eq_error_iff, Except.pure_eq_ok, reduceCtorEq, and_false,
        exists_false, or_false] at herror
      cases herror with
      | inl hnormal => exact .inr (updateNormal_error h hphase hfresh hnormal).1
      | inr hfinish =>
        obtain ⟨⟨sm, mid⟩, -, hfinish⟩ := hfinish
        exact .inr (finishUpdate_eq_error_iff.mp hfinish).1
  . next name hphase =>
    cases h.phase with
    | inl hinit => exact absurd (hphase.symm.trans hinit) (by simp)
    | inr hnormal => exact absurd (hphase.symm.trans hnormal) (by simp)

theorem append_ne_append {a b x y : String} (n : Nat) (ha : n ≤ a.toList.length)
    (hb : n ≤ b.toList.length) (hne : a.toList.take n ≠ b.toList.take n) : a ++ x ≠ b ++ y := by
  intro heq
  have htake := congrArg (fun (s : String) => s.toList.take n) heq
  simp only [String.toList_append, List.take_append_of_le_length ha,
    List.take_append_of_le_length hb] at htake
  exact hne htake

theorem not_initFault_missingMasterDB (master : String) : ¬ InitFault cd (missingMasterDB master) := by
  generalize hf : missingMasterDB master = fault
  intro h
  unfold missingMasterDB at hf
  cases h with
  | noKeepers =>
    exact append_ne_append 2 (by decide) (by decide) (by decide) (Fault.error.inj hf)
  | noKeeperState keeperUID =>
    rw [String.append_assoc] at hf
    exact append_ne_append 2 (by decide) (by decide) (by decide) (Fault.error.inj hf)
  | unknownInitMode name =>
    exact append_ne_append 2 (by decide) (by decide) (by decide) (Fault.error.inj hf)
  | incompleteSpec _ => cases hf

theorem not_initFault_missingCurMasterDB (master : String)
    : ¬ InitFault cd (missingCurMasterDB master) := by
  generalize hf : missingCurMasterDB master = fault
  intro h
  unfold missingCurMasterDB at hf
  rw [String.append_assoc] at hf
  cases h with
  | noKeepers =>
    exact append_ne_append 2 (by decide) (by decide) (by decide) (Fault.error.inj hf)
  | noKeeperState keeperUID =>
    rw [String.append_assoc] at hf
    exact append_ne_append 2 (by decide) (by decide) (by decide) (Fault.error.inj hf)
  | unknownInitMode name =>
    exact append_ne_append 2 (by decide) (by decide) (by decide) (Fault.error.inj hf)
  | incompleteSpec _ => cases hf

end Faults

end Sentinel

section System

inductive ClusterStep : ClusterData → ClusterData → Prop where
  | command (now : Time) (c : Operations.Command) {cd cd' : ClusterData}
    (h : c.run now cd = .ok cd') : ClusterStep cd cd'
  | updateKeepersStatus (s s' : Sentinel) (now : Time) (published : List KeeperInfo)
    (firstRun : Bool) (kihs : FinMap String KeeperInfoHistory) {cd cd' : ClusterData}
    (h : s.updateKeepersStatus now cd (getKeepersInfo published) firstRun = .ok (s', cd', kihs))
    : ClusterStep cd cd'
  | updateCluster (env : Env) (s s' : Sentinel) (pis : ProxiesInfo) {cd cd' : ClusterData}
    (hfresh : env.Fresh cd.dbs) (h : s.updateCluster env cd pis = .ok (s', cd'))
    : ClusterStep cd cd'
  | stored (cd : ClusterData) : ClusterStep cd cd.roundTrip

def clusterDataSystem : TransitionSystem ClusterData where
  init cd := ∃ (uid : String) (spec : ClusterSpec), cd = newClusterData (newCluster uid spec)
  step := ClusterStep

theorem sound_newClusterData (uid : String) (spec : ClusterSpec)
    : (newClusterData (newCluster uid spec)).Sound := by
  constructor
  case phase => exact .inl rfl
  case initializing =>
    intro _
    exact ⟨rfl, by simp [newClusterData], by simp [newClusterData], by simp [newClusterData, newCluster]⟩
  case toWellFormed =>
    constructor
    case proxy => exact .inl rfl
    case master =>
      intro hnormal
      cases hnormal
    case assigned => constructor <;> simp [newClusterData, ClusterData.Keyed]

theorem sound_clusterStep (h : cd.Sound) (hstep : ClusterStep cd cd') : cd'.Sound := by
  cases hstep with
  | command now c hrun => exact h.of_derived (derived_command c h.assigned hrun)
  | updateKeepersStatus s s' now published firstRun kihs hrun =>
    exact h.of_derived
      (Sentinel.derived_updateKeepersStatus h.assigned (keyed_getKeepersInfo published) hrun)
  | updateCluster env s s' pis hfresh hrun => exact Sentinel.sound_updateCluster h hfresh hrun
  | stored => exact h.of_derived (derived_roundTrip h.assigned)

theorem sound_inductive : clusterDataSystem.Inductive ClusterData.Sound where
  init := by
    rintro _ ⟨uid, spec, rfl⟩
    exact sound_newClusterData uid spec
  step := fun _ _ h hstep => sound_clusterStep h hstep

/--
Every reachable cluster data is well formed, and an update of it never misses the master.
-/
theorem clusterData_wellFormed (h : clusterDataSystem.Reachable cd)
    : cd.WellFormed
        ∧
      ∀ (env : Env) (s : Sentinel) (pis : ProxiesInfo) (master : String), env.Fresh cd.dbs →
        s.updateCluster env cd pis ≠ .error (Sentinel.missingCurMasterDB master)
          ∧
        s.updateCluster env cd pis ≠ .error (Sentinel.missingMasterDB master) := by
  have hsound := sound_inductive.of_reachable h
  refine ⟨hsound.toWellFormed, ?_⟩
  intro env s pis master hfresh
  constructor
  . intro herror
    cases Sentinel.updateCluster_error hsound hfresh herror with
    | inl hinit => exact Sentinel.not_initFault_missingCurMasterDB master hinit
    | inr hnil => cases hnil
  . intro herror
    cases Sentinel.updateCluster_error hsound hfresh herror with
    | inl hinit => exact Sentinel.not_initFault_missingMasterDB master hinit
    | inr hnil => cases hnil

def observed (s : Sentinel) (now : Time) (published : List KeeperInfo) (cd : ClusterData)
    : ClusterData :=
  match s.updateKeepersStatus now cd (getKeepersInfo published) false with
  | .ok (_, cd', _) => cd'
  | .error _ => cd

def updated (env : Env) (s : Sentinel) (pis : ProxiesInfo) (cd : ClusterData) : ClusterData :=
  match s.updateCluster env cd pis with
  | .ok (_, cd') => cd'
  | .error _ => cd

theorem reachable_observed {s : Sentinel} {now : Time} {published : List KeeperInfo}
    (h : clusterDataSystem.Reachable cd)
    : clusterDataSystem.Reachable (observed s now published cd) := by
  unfold observed
  split
  . next hok => exact h.step (.updateKeepersStatus s _ now published false _ hok)
  . exact h

theorem reachable_updated {env : Env} {s : Sentinel} {pis : ProxiesInfo}
    (hfresh : env.Fresh cd.dbs) (h : clusterDataSystem.Reachable cd)
    : clusterDataSystem.Reachable (updated env s pis cd) := by
  unfold updated
  split
  . next hok => exact h.step (.updateCluster env s _ pis hfresh hok)
  . exact h

def sampleInitialized : ClusterData :=
  let cd := newClusterData (newCluster "cluster" { initMode := some .new })
  let ki : KeeperInfo := { infoUID := "1", uid := "k1", clusterUID := "cluster" }
  let state : PostgresState := { uid := "d", generation := 1, healthy := true }
  let cd := updated (.simplest 1) {} ∅ (observed {} 1 [ki] cd)
  updated (.simplest 2 1) {} ∅
    (observed {} 2 [{ ki with infoUID := "2", postgresState := some state }] cd)

theorem clusterData_wellFormed_sample
    : sampleInitialized.cluster.status.phase = .normal
        ∧
      sampleInitialized.WellFormed
        ∧
      (Env.simplest 3 1).Fresh sampleInitialized.dbs
        ∧
      ({} : Sentinel).updateCluster (.simplest 3 1) sampleInitialized ∅
        ≠ .error (Sentinel.missingCurMasterDB "d") := by
  have hreach : clusterDataSystem.Reachable sampleInitialized :=
    reachable_updated (Env.fresh_simplest (by decide +kernel)) (reachable_observed
      (reachable_updated (Env.fresh_simplest (by decide +kernel)) (reachable_observed
        (.init ⟨"cluster", { initMode := some .new }, rfl⟩))))
  have hfresh : (Env.simplest 3 1).Fresh sampleInitialized.dbs :=
    Env.fresh_simplest (by decide +kernel)
  obtain ⟨hwell, herrors⟩ := clusterData_wellFormed hreach
  exact ⟨by decide +kernel, hwell, hfresh, (herrors _ {} ∅ "d" hfresh).1⟩

end System

end Hysteron
