import Hysteron.Cluster.Validated
import Hysteron.Sentinel.Lemmas.GoodStandbys
import Hysteron.Sentinel.Lemmas.SyncSet
import Hysteron.Safety.SyncElection
import Hysteron.Safety.WellFormed

/-!
How the synchronous standbys of a master that stays change in an update.
-/

namespace Hysteron
namespace Sentinel

variable {env : Env} {s s' : Sentinel} {cd base newcd newcd' : ClusterData} {pis : ProxiesInfo}
variable {uid masterDBUID : String} {db masterDB : DB}

section Setup

theorem mem_resizeStandbys {standbys : DBsByStatus} (hkeyed : newcd.Keyed)
    (hmaster : newcd.dbs[masterDBUID]? = some masterDB)
    (hsync : uid ∈ masterDB.spec.synchronousStandbys.elems) (h : uid ∈ newcd.dbs)
    : uid ∈ (resizeStandbys env masterDBUID standbys newcd).dbs := by
  unfold resizeStandbys
  dsimp only
  split
  . rw [hmaster]
    obtain ⟨db, hdb⟩ := Option.isSome_iff_exists.mp (Std.ExtTreeMap.mem_iff_isSome_getElem?.mp h)
    rw [Std.ExtTreeMap.mem_iff_isSome_getElem?, Option.isSome_iff_exists]
    refine ⟨db, (FinMap.getElem?_filter_eq_some _ _ _ _).mpr ⟨hdb, ?_⟩⟩
    have hcontains : masterDB.spec.synchronousStandbys.elems.contains uid = true := by
      simpa using hsync
    rw [hkeyed uid db hdb, hcontains]
    -- Those in excess are none of the synchronous ones.
    simp only [Bool.not_true, Bool.and_false, Bool.false_and, Bool.not_false, Bool.true_and,
      Bool.not_eq_true', List.contains_eq_mem, List.mem_map, decide_eq_false_iff_not, not_exists,
      not_and]
    intro db' hmem huid
    have := (List.mem_filter.mp (List.mem_of_mem_take hmem)).2
    rw [huid] at this
    simp [hsync] at this
  . exact mem_addStandbysOn_iff.mpr (.inl h)

theorem updateCluster_settled (hphase : cd.cluster.status.phase = .normal)
    (hpause : cd.cluster.status.pauseActive env.now = false)
    (hmaster : cd.dbs[cd.cluster.status.master]? = some masterDB) (hsettled : Settled masterDB)
    (hkept : newcd.cluster.status.master = cd.cluster.status.master)
    (hrun : s.updateCluster env cd pis = .ok (s', newcd))
    : ∃ (election : Election) (base mid followed : ClusterData) (s₁ : Sentinel),
        s.elect env (removeOldKeepers env.now cd) cd.cluster.status.master masterDB = .ok election
          ∧
        Base env.now cd base
          ∧
        election.sentinel.reconcileStandbys env cd
          (confirmMaster base cd.cluster.status.master masterDB pis) cd.cluster.status.master masterDB
          = .ok (s₁, mid)
          ∧
        updateFollowers mid cd.cluster.status.master cd.cluster.status.master = .ok followed
          ∧
        finishUpdate env.now cd followed = .ok newcd := by
  unfold updateCluster at hrun
  rw [hphase] at hrun
  simp only [hpause, Bool.false_eq_true, if_false, Except.bind_eq_ok_iff, Except.pure_eq_ok,
    Except.ok.injEq, Prod.mk.injEq] at hrun
  obtain ⟨⟨sm, followed⟩, hnormal, newcd', hfinish, -, rfl⟩ := hrun
  obtain ⟨curMasterDB, election, mid, hcur, helect, happly, hfollow⟩ := updateNormal_cases hnormal
  rw [hmaster] at hcur
  cases hcur
  have hbase := base_clearManualSwitch env.now election cd
  have hwanted : election.wantedMasterDBUID = cd.cluster.status.master := by
    rw [← applyElection_master hbase.master happly, ← updateFollowers_cluster hfollow,
      ← finishUpdate_cluster hfinish]
    exact hkept
  rw [hwanted] at hfollow
  unfold applyElection at happly
  rw [if_pos hwanted] at happly
  obtain ⟨masterDB', hmaster', hcase⟩ := keepMaster_cases happly
  rw [hbase.dbs, hmaster] at hmaster'
  cases hmaster'
  obtain ⟨hunsettled, -⟩ | ⟨-, hreconcile⟩ := hcase
  . exact absurd hsettled hunsettled
  . exact ⟨election, _, mid, followed, sm, helect, hbase, hreconcile, hfollow, hfinish⟩

def survivors (s : Sentinel) (cd : ClusterData) : ClusterData :=
  s.removeUnusableDBs cd cd cd.cluster.status.master

theorem GoodStandby.ne_master (hmaster : cd.MasterKnown) (h : GoodStandby (s.survivors cd) uid db)
    : uid ≠ cd.cluster.status.master := by
  rintro rfl
  obtain ⟨masterDB, hmaster, hline⟩ := hmaster
  have hdb := getElem?_removeUnusableDBs h.known
  rw [hmaster] at hdb
  cases hdb
  rw [h.replica] at hline
  cases hline

structure SameSync (db db' : DB) : Prop where
  replication : db'.spec.synchronousReplication = db.spec.synchronousReplication
  required : db'.spec.synchronousStandbys = db.spec.synchronousStandbys
  external : db'.spec.externalSynchronousStandbys = db.spec.externalSynchronousStandbys
  known : db'.status.synchronousStandbys = db.status.synchronousStandbys

section Stored

variable {usable : ClusterData} {standbys : DBsByStatus} {best : List DB} {confirmed : DB}
variable {followed : ClusterData}

theorem stored_reconciledStandbys (hkeyed : usable.Keyed)
    (hstandbys : s.validStandbysByStatus env.now usable = .ok standbys)
    (hne : ∀ n, env.uidFn n ≠ masterDBUID) (hconfirmed : usable.dbs[masterDBUID]? = some confirmed)
    (hline : confirmed.spec.type = some .primaryLine)
    (hfollow : updateFollowers
      (followMaster masterDBUID (reconciledStandbys env masterDBUID standbys best usable))
      masterDBUID masterDBUID = .ok followed)
    (hfinish : finishUpdate env.now cd followed = .ok newcd)
    : (∃ (masterDB : DB),
        newcd.dbs[masterDBUID]? = some masterDB
          ∧
        SameSync (setupSynchronousStandbys env (cleanInitMode standbys.good usable) standbys.good best
          confirmed) masterDB)
        ∧
      ∀ (uid : String),
        uid ∈ newcd.dbs ↔ uid ∈ (reconciledStandbys env masterDBUID standbys best usable).dbs := by
  have hsetup
      : (reconciledStandbys env masterDBUID standbys best usable).dbs[masterDBUID]?
        = some (setupSynchronousStandbys env (cleanInitMode standbys.good usable) standbys.good best
          confirmed) :=
    getElem?_reconciledStandbys_master hkeyed hstandbys hne hconfirmed hline
  obtain ⟨masterDB, followers, hmaster, rfl⟩ := updateFollowers_cases hfollow
  rw [getElem?_followMaster_master hkeyed hstandbys hne hconfirmed hline] at hmaster
  cases hmaster
  have hfinished := finishUpdate_finished hfinish
  constructor
  . obtain ⟨orphans, hdb⟩ := hfinished.getElem?_dbs masterDBUID
    rw [Std.ExtTreeMap.getElem?_insert_self, Option.map_some] at hdb
    refine ⟨_, hdb, ?_⟩
    constructor
    case known => rfl
    all_goals simp [finishSpec]
  . intro uid
    obtain ⟨orphans, hdb⟩ := hfinished.getElem?_dbs uid
    rw [Std.ExtTreeMap.mem_iff_isSome_getElem?, hdb, Option.isSome_map,
      ← Std.ExtTreeMap.mem_iff_isSome_getElem?, Std.ExtTreeMap.mem_insert, compare_eq_iff_eq]
    have hmem : masterDBUID ∈ (reconciledStandbys env masterDBUID standbys best usable).dbs :=
      Std.ExtTreeMap.mem_iff_isSome_getElem?.mpr (by rw [hsetup]; rfl)
    simp only [followMaster, Std.ExtTreeMap.mem_map]
    constructor
    . rintro (rfl | h)
      . exact hmem
      . exact h
    . exact .inr

end Stored

structure SyncSetup (env : Env) (s : Sentinel) (cd newcd : ClusterData) (masterDB masterDB' : DB)
    (usable : ClusterData) (good : FinMap String DB) (best : List DB) : Prop where
  keyed : usable.Keyed
  defSpec : usable.cluster.defSpec = cd.cluster.defSpec
  mem_dbs : ∀ (uid : String), uid ≠ cd.cluster.status.master →
    (uid ∈ usable.dbs ↔ uid ∈ (s.survivors cd).dbs)
  mem_good : ∀ (uid : String), uid ∈ good ↔ ∃ (db : DB), GoodStandby (s.survivors cd) uid db
  mem_best : ∀ standby ∈ best, ∃ (db : DB),
    GoodStandby (s.survivors cd) standby.uid db
      ∧
    db.status.timelineID = masterDB.status.timelineID
      ∧
    canBeSynchronousReplica usable standby = canBeSynchronousReplica cd db
  master : newcd.dbs[cd.cluster.status.master]? = some masterDB'
  stored : ∃ (confirmed : DB),
    SameSync masterDB confirmed
      ∧
    confirmed.status = masterDB.status
      ∧
    SameSync (setupSynchronousStandbys env usable good best confirmed) masterDB'
  kept : ∀ uid ∈ masterDB'.spec.synchronousStandbys.elems, uid ∈ usable.dbs → uid ∈ newcd.dbs
  remaining : ∀ uid ∈ newcd.dbs, uid ∈ cd.dbs → uid ∈ usable.dbs

theorem exists_syncSetup (h : cd.Sound) (hfresh : env.Fresh cd.dbs)
    (hphase : cd.cluster.status.phase = .normal)
    (hpause : cd.cluster.status.pauseActive env.now = false)
    (hsync : syncRepl cd.cluster.defSpec = true)
    (hmaster : cd.dbs[cd.cluster.status.master]? = some masterDB) (hsettled : Settled masterDB)
    (hkept : newcd.cluster.status.master = cd.cluster.status.master)
    (hrun : s.updateCluster env cd pis = .ok (s', newcd))
    : ∃ (masterDB' : DB) (usable : ClusterData) (good : FinMap String DB) (best : List DB),
        SyncSetup env s cd newcd masterDB masterDB' usable good best := by
  obtain ⟨election, base, mid, followed, s₁, helect, hbase, hreconcile, hfollow, hfinish⟩ :=
    updateCluster_settled hphase hpause hmaster hsettled hkept hrun
  simp only [reconcileStandbys, Except.bind_eq_ok_iff, Except.pure_eq_ok, Except.ok.injEq,
    Prod.mk.injEq] at hreconcile
  obtain ⟨standbys, hstandbys, best, hbest, -, rfl⟩ := hreconcile
  have hcount := (unaffected_dbNotIncreasingXLogPos.unaffectedAt _).elect helect
  rw [removeUnusableDBs_congr hcount] at hstandbys hbest hfollow
  have hassigned := h.assigned
  have hknown := h.master hphase
  have huid := hassigned.keyed _ masterDB hmaster
  generalize husable : s.removeUnusableDBs cd (confirmMaster base cd.cluster.status.master masterDB pis)
    cd.cluster.status.master = usable at hstandbys hbest hfollow
  have hkeyed : usable.Keyed := by
    rw [← husable]
    exact keyed_removeUnusableDBs (keyed_confirmMaster hassigned hbase hmaster pis)
  have hrole : cd.cluster.defSpec.role = .master := by
    simp only [syncRepl, Bool.and_eq_true, decide_eq_true_eq] at hsync
    exact hsync.2
  have hspec : base.cluster.defSpec = cd.cluster.defSpec := by
    unfold Cluster.defSpec
    rw [hbase.spec]
  have hconfirmed : usable.dbs[cd.cluster.status.master]?
      = some (confirmMasterRole cd.cluster.defSpec masterDB) := by
    rw [← husable, getElem?_removeUnusableDBs_master (keyed_confirmMaster hassigned hbase hmaster pis)
      hmaster huid, getElem?_confirmMaster, if_pos rfl, hspec]
  have hconfirm : confirmMasterRole cd.cluster.defSpec masterDB
      = { masterDB with spec := { masterDB.spec with role := .master, followConfig := none } } := by
    unfold confirmMasterRole
    rw [if_pos hrole]
  have hline : (confirmMasterRole cd.cluster.defSpec masterDB).spec.type = some .primaryLine := by
    rw [hconfirm]
    rfl
  -- The master is none of the good standbys, since it is confirmed as a master.
  have hgood (uid : String) (db : DB) : GoodStandby usable uid db
      ↔ GoodStandby (s.survivors cd) uid db := by
    by_cases hne : uid = cd.cluster.status.master
    . subst hne
      constructor
      . intro hdb
        have := hdb.known
        rw [hconfirmed] at this
        cases this
        have := hdb.replica
        rw [hconfirm] at this
        cases this
      . intro hdb
        exact absurd rfl (hdb.ne_master hknown)
    . rw [← husable]
      exact goodStandby_removeUnusableDBs hassigned hbase hmaster hne
  obtain ⟨⟨masterDB', hmaster', hsame⟩, hmem⟩ := stored_reconciledStandbys hkeyed hstandbys
    (fun n => hfresh.ne_of_getElem? hmaster n) hconfirmed hline hfollow hfinish
  refine ⟨masterDB', cleanInitMode standbys.good usable, standbys.good, best, ?_⟩
  constructor
  case keyed => exact keyed_cleanInitMode hkeyed
  case defSpec =>
    rw [← husable]
    exact hspec
  case mem_dbs =>
    intro uid hne
    simp only [cleanInitMode, Std.ExtTreeMap.mem_map]
    rw [← husable, Std.ExtTreeMap.mem_iff_isSome_getElem?,
      getElem?_removeUnusableDBs_confirmMaster hassigned hbase hmaster s pis hne,
      ← Std.ExtTreeMap.mem_iff_isSome_getElem?]
    rfl
  case mem_good =>
    intro uid
    rw [mem_good_iff hkeyed hstandbys]
    exact exists_congr (fun db => hgood uid db)
  case mem_best =>
    intro standby hmem
    obtain ⟨hclean, hnear⟩ := (mem_findBestStandbys_iff (keyed_cleanInitMode hkeyed) hbest).mp hmem
    obtain ⟨db, hdb, hstatus, hkeeperUID⟩ := goodStandby_cleanInitMode hclean
    simp only [isNearMaster, Bool.and_eq_true, decide_eq_true_eq] at hnear
    have hdb := (hgood _ _).mp hdb
    refine ⟨db, hdb, ?_, ?_⟩
    . rw [← hstatus]
      exact hnear.1
    . have hcd := getElem?_removeUnusableDBs hdb.known
      unfold canBeSynchronousReplica
      rw [hclean.known, hassigned.keyed _ db hcd, hcd]
      dsimp only
      have hkeepers : (cleanInitMode standbys.good usable).keepers[standby.spec.keeperUID]?
          = cd.keepers[db.spec.keeperUID]? := by
        rw [← husable, hkeeperUID]
        exact (congrArg (fun keepers => keepers[db.spec.keeperUID]?) hbase.keepers).trans
          (getElem?_removeOldKeepers hassigned hcd env.now)
      rw [hkeepers]
  case master => exact hmaster'
  case stored =>
    refine ⟨_, ?_, by rw [hconfirm], hsame⟩
    rw [hconfirm]
    constructor <;> rfl
  case kept =>
    intro uid hrequired husable
    rw [hmem]
    rw [hsame.required] at hrequired
    refine mem_resizeStandbys (keyed_updateSynchronousStandbys (keyed_cleanInitMode hkeyed)) ?_
      hrequired ?_
    . exact getElem?_updateSynchronousStandbys_master hkeyed hstandbys hconfirmed hline
    . exact Std.ExtTreeMap.mem_modify.mpr husable
  case remaining =>
    intro uid hnew hold
    rw [hmem, Std.ExtTreeMap.mem_iff_isSome_getElem?, Option.isSome_iff_exists] at hnew
    obtain ⟨db, hdb⟩ := hnew
    obtain hdb | ⟨n, keeper, -, huid, -⟩ := getElem?_resizeStandbys hdb
    . have := Std.ExtTreeMap.mem_iff_isSome_getElem?.mpr (Option.isSome_of_eq_some hdb)
      exact Std.ExtTreeMap.mem_modify.mp this
    . rw [huid] at hold
      exact absurd hold (hfresh.not_mem n)

end Setup

section Transition

variable {masterDB' : DB} {usable : ClusterData} {good : FinMap String DB} {best : List DB}

theorem SyncSetup.cases (hsetup : SyncSetup env s cd newcd masterDB masterDB' usable good best)
    (hsync : syncRepl cd.cluster.defSpec = true)
    : Recomputed env usable good best masterDB masterDB'
        ∨
      Awaited usable good masterDB masterDB' := by
  obtain ⟨confirmed, hconfirmed, hstatus, hstored⟩ := hsetup.stored
  have hknown : knownStandbys confirmed = knownStandbys masterDB := by
    unfold knownStandbys
    rw [hstatus, hconfirmed.required]
  rw [← hsetup.defSpec] at hsync
  have hcases : Recomputed env usable good best confirmed
      (setupSynchronousStandbys env usable good best confirmed) ∨ Awaited usable good confirmed
      (setupSynchronousStandbys env usable good best confirmed) := setupSynchronousStandbys_cases hsync
  obtain h | h := hcases
  . obtain ⟨hcause, hreplication, hrequired, hexternal, hknown'⟩ := h
    rw [hknown, hconfirmed.required] at hcause
    rw [hknown] at hrequired hexternal hknown'
    left
    constructor
    case cause => exact hcause
    case replication => rw [hstored.replication, hreplication]
    case required => rw [hstored.required, hrequired]
    case external => rw [hstored.external, hexternal]
    case known => rw [hstored.known]; exact hknown'
  . obtain ⟨hdiffers, hgood, hreplication, hrequired, hexternal, hknown'⟩ := h
    rw [hknown, hconfirmed.required] at hdiffers hgood
    right
    constructor
    case differs => exact hdiffers
    case good => exact hgood
    case replication => rw [hstored.replication, hreplication, hconfirmed.replication]
    case required => rw [hstored.required, hrequired, hconfirmed.required]
    case external => rw [hstored.external, hexternal, hconfirmed.external]
    case known => rw [hstored.known, hknown', hknown]

structure SyncTransition (s : Sentinel) (cd newcd : ClusterData) (masterDB masterDB' : DB)
    : Prop where
  sorted : masterDB'.spec.synchronousStandbys.elems.Pairwise (· < ·)
  others : cd.cluster.status.master ∉ masterDB'.spec.synchronousStandbys.elems
  added : ∀ uid ∈ masterDB'.spec.synchronousStandbys.elems,
    uid ∉ masterDB.spec.synchronousStandbys.elems →
      ∃ (db : DB),
        GoodStandby (s.survivors cd) uid db
          ∧
        db.status.timelineID = masterDB.status.timelineID
          ∧
        canBeSynchronousReplica cd db = true
          ∧
        uid ∈ newcd.dbs
  merged : (∀ uid ∈ masterDB'.spec.synchronousStandbys.elems,
      uid ∈ masterDB.spec.synchronousStandbys.elems)
    ∨ ∀ uid ∈ knownStandbys masterDB, uid ∈ cd.dbs → uid ∈ newcd.dbs →
      uid ∈ masterDB'.spec.synchronousStandbys.elems
  awaited : (∃ uid ∈ masterDB.spec.synchronousStandbys.elems, uid ∉ knownStandbys masterDB) →
    (∀ uid ∈ masterDB.spec.synchronousStandbys.elems, uid ∉ knownStandbys masterDB →
      ∃ (db : DB), GoodStandby (s.survivors cd) uid db) →
      masterDB'.spec.synchronousStandbys = masterDB.spec.synchronousStandbys
  known : ∀ uid ∈ masterDB'.status.synchronousStandbys.elems,
    uid ∈ masterDB'.spec.synchronousStandbys.elems
  kept : (∃ uid ∈ knownStandbys masterDB, ∃ (db : DB), GoodStandby (s.survivors cd) uid db) →
    ∃ uid ∈ masterDB'.status.synchronousStandbys.elems,
      uid ∈ masterDB'.spec.synchronousStandbys.elems
        ∧
      (∃ (db : DB), GoodStandby (s.survivors cd) uid db)
        ∧
      uid ∈ newcd.dbs

theorem SyncSetup.mem_dbs_of_good
    (hsetup : SyncSetup env s cd newcd masterDB masterDB' usable good best) (hknown : cd.MasterKnown)
    (hdb : GoodStandby (s.survivors cd) uid db) : uid ∈ usable.dbs :=
  (hsetup.mem_dbs uid (hdb.ne_master hknown)).mpr
    (Std.ExtTreeMap.mem_iff_isSome_getElem?.mpr (Option.isSome_of_eq_some hdb.known))

theorem Awaited.transition (hsetup : SyncSetup env s cd newcd masterDB masterDB' usable good best)
    (hknown : cd.MasterKnown) (hsorted : masterDB.spec.synchronousStandbys.elems.Pairwise (· < ·))
    (hothers : cd.cluster.status.master ∉ masterDB.spec.synchronousStandbys.elems)
    (h : Awaited usable good masterDB masterDB')
    : SyncTransition s cd newcd masterDB masterDB' := by
  constructor
  case sorted =>
    rw [h.required]
    exact hsorted
  case others =>
    rw [h.required]
    exact hothers
  case added =>
    intro uid hmem hnot
    rw [h.required] at hmem
    exact absurd hmem hnot
  case merged =>
    left
    intro uid hmem
    rw [h.required] at hmem
    exact hmem
  case awaited => exact fun _ _ => h.required
  case known =>
    intro uid hmem
    rw [h.known, Slice.elems_some] at hmem
    rw [h.required]
    exact (mem_knownStandbys.mp hmem).1
  case kept =>
    rintro ⟨uid, hmem, db, hdb⟩
    have hrequired : uid ∈ masterDB'.spec.synchronousStandbys.elems := by
      rw [h.required]
      exact (mem_knownStandbys.mp hmem).1
    refine ⟨uid, ?_, hrequired, ⟨db, hdb⟩, ?_⟩
    . rw [h.known, Slice.elems_some]
      exact hmem
    . exact hsetup.kept uid hrequired (hsetup.mem_dbs_of_good hknown hdb)

theorem Recomputed.origin (hsetup : SyncSetup env s cd newcd masterDB masterDB' usable good best)
    (h : Recomputed env usable good best masterDB masterDB')
    (huid : uid ∈ masterDB'.spec.synchronousStandbys.elems)
    : uid ∈ knownStandbys masterDB
        ∨
      ∃ (db : DB),
        GoodStandby (s.survivors cd) uid db
          ∧
        db.status.timelineID = masterDB.status.timelineID
          ∧
        canBeSynchronousReplica cd db = true := by
  rw [h.required, Slice.elems_some, Std.ExtTreeSet.mem_toList] at huid
  obtain hold | ⟨standby, hbest, rfl, hcan⟩ :=
    (nextSynchronousStandbys_spec hsetup.keyed).origin uid huid
  . exact .inl (by simpa using hold)
  . obtain ⟨db, hdb, htimeline, heq⟩ := hsetup.mem_best standby hbest
    exact .inr ⟨db, hdb, htimeline, heq ▸ hcan⟩

theorem Recomputed.transition (hsetup : SyncSetup env s cd newcd masterDB masterDB' usable good best)
    (hknown : cd.MasterKnown) (hmax : 0 < cd.cluster.defSpec.maxSynchronousStandbys.toNat)
    (hothers : cd.cluster.status.master ∉ masterDB.spec.synchronousStandbys.elems)
    (h : Recomputed env usable good best masterDB masterDB')
    : SyncTransition s cd newcd masterDB masterDB' := by
  have horigin {uid : String} (huid : uid ∈ masterDB'.spec.synchronousStandbys.elems) :=
    h.origin hsetup huid
  obtain ⟨hcause, -, hrequired, -, known, hperm, hstatus⟩ := h
  have hnext : NextStandbys usable good best
      (Std.ExtTreeSet.ofList (knownStandbys masterDB) compare)
      (nextSynchronousStandbys env usable good best
        (Std.ExtTreeSet.ofList (knownStandbys masterDB) compare)) :=
    nextSynchronousStandbys_spec hsetup.keyed
  generalize nextSynchronousStandbys env usable good best
    (Std.ExtTreeSet.ofList (knownStandbys masterDB) compare) = next at hnext hrequired hstatus
  have hmem (uid : String) : uid ∈ masterDB'.spec.synchronousStandbys.elems ↔ uid ∈ next := by
    rw [hrequired, Slice.elems_some, Std.ExtTreeSet.mem_toList]
  have hprev (uid : String) : uid ∈ Std.ExtTreeSet.ofList (knownStandbys masterDB) compare
      ↔ uid ∈ knownStandbys masterDB := by
    simp
  constructor
  case sorted =>
    rw [hrequired, Slice.elems_some]
    exact Std.ExtTreeSet.ordered_toList.imp (fun h => compare_lt_iff_lt.mp h)
  case others =>
    intro h
    obtain h | ⟨db, hdb, -⟩ := horigin h
    . exact hothers (mem_knownStandbys.mp h).1
    . exact hdb.ne_master hknown rfl
  case added =>
    intro uid h hnot
    obtain hold | ⟨db, hdb, htimeline, hcan⟩ := horigin h
    . exact absurd (mem_knownStandbys.mp hold).1 hnot
    . exact ⟨db, hdb, htimeline, hcan, hsetup.kept uid h (hsetup.mem_dbs_of_good hknown hdb)⟩
  case merged =>
    obtain h | h := hnext.merged
    . left
      intro uid huid
      exact (mem_knownStandbys.mp ((hprev uid).mp (h uid ((hmem uid).mp huid)))).1
    . right
      intro uid huid hold hnew
      exact (hmem uid).mpr (h uid ((hprev uid).mpr huid) (hsetup.remaining uid hnew hold))
  case awaited =>
    rintro ⟨uid, huid, hmissing⟩ hgood
    exfalso
    obtain hsame | ⟨uid', huid', hmissing', hbad⟩ := hcause
    . exact hmissing (hsame.mem_iff.mpr huid)
    . obtain ⟨db, hdb⟩ := hgood uid' huid' hmissing'
      exact hbad ⟨hsetup.mem_dbs_of_good hknown hdb, (hsetup.mem_good uid').mpr ⟨db, hdb⟩⟩
  case known =>
    intro uid h
    rw [hstatus, Slice.elems_some, Slices.mem_commonElements] at h
    rw [hmem, ← Std.ExtTreeSet.mem_toList]
    exact h.2
  case kept =>
    rintro ⟨uid, huid, db, hdb⟩
    rw [← hsetup.defSpec] at hmax
    obtain ⟨uid', hnew, hold, hdbs, hgood⟩ := hnext.kept hmax ⟨uid, (hprev uid).mpr huid,
      hsetup.mem_dbs_of_good hknown hdb, (hsetup.mem_good uid).mpr ⟨db, hdb⟩⟩
    refine ⟨uid', ?_, (hmem uid').mpr hnew, (hsetup.mem_good uid').mp hgood,
      hsetup.kept uid' ((hmem uid').mpr hnew) hdbs⟩
    rw [hstatus, Slice.elems_some, Slices.mem_commonElements]
    exact ⟨hperm.mem_iff.mpr ((hprev uid').mp hold), Std.ExtTreeSet.mem_toList.mpr hnew⟩

theorem maxSynchronousStandbys_of_validate {spec : ClusterSpec} (h : spec.validate = .ok ())
    : 0 < spec.withDefaults.maxSynchronousStandbys.toNat :=
  UInt16.le_iff_toNat_le.mp (ClusterSpec.validTimings_of_validate h).maxSynchronousStandbys

/--
In every update that keeps a settled master with synchronous replication, its synchronous standbys
change by the law of `SyncTransition`.
-/
theorem syncTransition_updateCluster (env : Env) (s s' : Sentinel) (cd newcd : ClusterData)
    (pis : ProxiesInfo) (masterDB : DB) (h : cd.Sound) (hfresh : env.Fresh cd.dbs)
    (hvalid : cd.cluster.spec.validate = .ok ())
    (hphase : cd.cluster.status.phase = .normal)
    (hpause : cd.cluster.status.pauseActive env.now = false)
    (hsync : syncRepl cd.cluster.defSpec = true)
    (hmaster : cd.dbs[cd.cluster.status.master]? = some masterDB) (hsettled : Settled masterDB)
    (hsorted : masterDB.spec.synchronousStandbys.elems.Pairwise (· < ·))
    (hothers : cd.cluster.status.master ∉ masterDB.spec.synchronousStandbys.elems)
    (hrun : s.updateCluster env cd pis = .ok (s', newcd))
    (hkept : newcd.cluster.status.master = cd.cluster.status.master)
    : ∃ (masterDB' : DB),
        newcd.dbs[cd.cluster.status.master]? = some masterDB'
          ∧
        SyncTransition s cd newcd masterDB masterDB' := by
  have hmax := maxSynchronousStandbys_of_validate hvalid
  have hknown := h.master hphase
  obtain ⟨masterDB', usable, good, best, hsetup⟩ :=
    exists_syncSetup h hfresh hphase hpause hsync hmaster hsettled hkept hrun
  refine ⟨masterDB', hsetup.master, ?_⟩
  obtain hcase | hcase := hsetup.cases hsync
  . exact hcase.transition hsetup hknown hmax hothers
  . exact hcase.transition hsetup hknown hsorted hothers

end Transition

section Sample

def sampleSyncMaster (required known reported : List String) : DB :=
  { sampleMaster with
    spec := { sampleMaster.spec with synchronousStandbys := some required }
    status := { sampleMaster.status with
      synchronousStandbys := some known
      curSynchronousStandbys := some reported
    }
  }

def sampleSync (spec : ClusterSpec) (masterDB : DB) (generation : Int) : ClusterData where
  formatVersion := currentCDFormatVersion
  cluster := {
    uid := "cluster"
    generation := initialGeneration
    spec
    status := { phase := .normal, master := "a" }
  }
  keepers := (Std.ExtTreeMap.empty.insert "k1" (sampleKeeper "k1")).insert "k2" (sampleKeeper "k2")
  dbs := (Std.ExtTreeMap.empty.insert "a" masterDB).insert "b"
    { sampleStandby "b" "k2" with generation }
  proxy := {}

theorem getElem?_sampleSync {spec : ClusterSpec} {generation : Int}
    (h : (sampleSync spec masterDB generation).dbs[uid]? = some db)
    : (uid = "a" ∧ db = masterDB) ∨ (uid = "b" ∧ db = { sampleStandby "b" "k2" with generation }) := by
  simp only [sampleSync, Std.ExtTreeMap.getElem?_insert, compare_eq_iff_eq] at h
  split at h
  . next heq => exact .inr ⟨heq.symm, (Option.some.inj h).symm⟩
  . split at h
    . next heq => exact .inl ⟨heq.symm, (Option.some.inj h).symm⟩
    . simp at h

theorem getElem?_sampleSync_master (spec : ClusterSpec) (masterDB : DB) (generation : Int)
    : (sampleSync spec masterDB generation).dbs["a"]? = some masterDB := by
  simp only [sampleSync, Std.ExtTreeMap.getElem?_insert, compare_eq_iff_eq]
  rw [if_neg (by decide), if_pos trivial]

theorem sound_sampleSync (spec : ClusterSpec) (generation : Int) (huid : masterDB.uid = "a")
    (hkeeper : masterDB.spec.keeperUID = "k1") (hrole : masterDB.spec.role = .master)
    : (sampleSync spec masterDB generation).Sound := by
  have hmaster := getElem?_sampleSync_master spec masterDB generation
  constructor
  case toWellFormed =>
    constructor
    case assigned =>
      constructor
      case keyed =>
        intro uid db h
        obtain ⟨rfl, rfl⟩ | ⟨rfl, rfl⟩ := getElem?_sampleSync h
        . exact huid
        . rfl
      case keeperKeyed =>
        intro uid k h
        simp only [sampleSync, Std.ExtTreeMap.getElem?_insert, compare_eq_iff_eq] at h
        split at h
        . next heq => rw [← Option.some.inj h, ← heq]; rfl
        . split at h
          . next heq => rw [← Option.some.inj h, ← heq]; rfl
          . simp at h
      case registered =>
        intro uid db h
        obtain ⟨rfl, rfl⟩ | ⟨rfl, rfl⟩ := getElem?_sampleSync h
        . simp [hkeeper, sampleSync]
        . simp [sampleStandby, sampleSync]
      case exclusive =>
        intro uid uid' db db' h h' heq
        obtain ⟨rfl, rfl⟩ | ⟨rfl, rfl⟩ := getElem?_sampleSync h
        all_goals
          obtain ⟨rfl, rfl⟩ | ⟨rfl, rfl⟩ := getElem?_sampleSync h'
          all_goals first | rfl | simp [hkeeper, sampleStandby] at heq
      case wellRoled =>
        intro uid db h
        obtain ⟨rfl, rfl⟩ | ⟨rfl, rfl⟩ := getElem?_sampleSync h
        . constructor <;> simp [hrole]
        . constructor <;> simp [sampleStandby]
    case master =>
      intro _
      refine ⟨masterDB, hmaster, ?_⟩
      unfold DBSpec.type
      rw [hrole]
    case proxy => exact .inl rfl
  case phase => exact .inr rfl
  case initializing =>
    intro h
    cases h

def sampleSyncSpec : ClusterSpec := { initMode := some .new, synchronousReplication := some true }

theorem syncTransition_updateCluster_sample
    : ∃ (s' : Sentinel) (newcd : ClusterData) (masterDB' : DB),
        ({} : Sentinel).updateCluster (.simplest 0 1)
            (sampleSync sampleSyncSpec (sampleSyncMaster ["b"] [] ["b"]) 2) ∅
          = .ok (s', newcd)
          ∧
        SyncTransition {} (sampleSync sampleSyncSpec (sampleSyncMaster ["b"] [] ["b"]) 2) newcd
          (sampleSyncMaster ["b"] [] ["b"]) masterDB' := by
  have hrun : (({} : Sentinel).updateCluster (.simplest 0 1)
      (sampleSync sampleSyncSpec (sampleSyncMaster ["b"] [] ["b"]) 2) ∅).toOption.map
        (fun r => r.2.cluster.status.master) = some "a" := by
    decide +kernel
  obtain ⟨⟨s', newcd⟩, hrun, hmaster⟩ := Except.exists_ok_of_toOption_map hrun
  obtain ⟨masterDB', -, h⟩ := syncTransition_updateCluster (.simplest 0 1) {} s' _ newcd ∅
    (sampleSyncMaster ["b"] [] ["b"]) (sound_sampleSync sampleSyncSpec 2 rfl rfl rfl)
    (Env.fresh_simplest (by decide +kernel)) rfl rfl rfl rfl
    (getElem?_sampleSync_master _ _ _) ⟨rfl, rfl⟩ (by decide) (by decide) hrun hmaster
  exact ⟨s', newcd, masterDB', hrun, h⟩

/--
A required standby that is missing has not failed and is still there, but it is converging. It is not
awaited.
-/
theorem converging_not_awaited
    : ∃ (env : Env) (s s' : Sentinel) (cd newcd : ClusterData) (pis : ProxiesInfo)
        (masterDB masterDB' : DB),
        cd.Sound
          ∧
        env.Fresh cd.dbs
          ∧
        cd.cluster.spec.validate = .ok ()
          ∧
        cd.cluster.status.phase = .normal
          ∧
        cd.cluster.status.pauseActive env.now = false
          ∧
        syncRepl cd.cluster.defSpec = true
          ∧
        cd.dbs[cd.cluster.status.master]? = some masterDB
          ∧
        Settled masterDB
          ∧
        masterDB.spec.synchronousStandbys.elems.Pairwise (· < ·)
          ∧
        cd.cluster.status.master ∉ masterDB.spec.synchronousStandbys.elems
          ∧
        s.updateCluster env cd pis = .ok (s', newcd)
          ∧
        newcd.cluster.status.master = cd.cluster.status.master
          ∧
        newcd.dbs[cd.cluster.status.master]? = some masterDB'
          ∧
        (∃ uid ∈ masterDB.spec.synchronousStandbys.elems, uid ∉ knownStandbys masterDB)
          ∧
        (∀ uid ∈ masterDB.spec.synchronousStandbys.elems, uid ∉ knownStandbys masterDB →
          uid ∈ newcd.dbs ∧ s.dbStatus env.now (s.survivors cd) uid = .ok .converging)
          ∧
        masterDB'.spec.synchronousStandbys.elems ≠ masterDB.spec.synchronousStandbys.elems := by
  have hrun : (({} : Sentinel).updateCluster (.simplest 0 1)
      (sampleSync sampleSyncSpec (sampleSyncMaster ["b"] [] []) 3) ∅).toOption.map
        (fun r => (r.2.cluster.status.master, r.2.dbs["b"]?.isSome,
          r.2.dbs["a"]?.map (fun masterDB => masterDB.spec.synchronousStandbys)))
      = some ("a", true, some (some [])) := by
    decide +kernel
  obtain ⟨⟨s', newcd⟩, hrun, hresult⟩ := Except.exists_ok_of_toOption_map hrun
  simp only [Prod.mk.injEq, Option.map_eq_some_iff] at hresult
  obtain ⟨hmaster, hstandby, masterDB', hmaster', hrequired⟩ := hresult
  refine ⟨.simplest 0 1, {}, s', _, newcd, ∅, sampleSyncMaster ["b"] [] [], masterDB',
    sound_sampleSync sampleSyncSpec 3 rfl rfl rfl, Env.fresh_simplest (by decide +kernel), rfl, rfl,
    rfl, rfl, getElem?_sampleSync_master _ _ _, ⟨rfl, rfl⟩, by decide, by decide, hrun, hmaster,
    hmaster', by decide, ?_, ?_⟩
  . intro uid hmem _
    obtain rfl : uid = "b" := by simpa [sampleSyncMaster] using hmem
    exact ⟨Std.ExtTreeMap.mem_iff_isSome_getElem?.mpr hstandby, by decide +kernel⟩
  . rw [hrequired]
    decide

end Sample

end Sentinel
end Hysteron
