import Hysteron.Sentinel.Lemmas.Assignment

/-!
The cases of an update, phase by phase, with what each of them does to the cluster data.
-/

namespace Hysteron
namespace Sentinel

variable {env : Env} {s s' : Sentinel} {cd newcd newcd' : ClusterData} {pis : ProxiesInfo}
variable {uid masterDBUID curMasterDBUID wantedMasterDBUID : String} {db masterDB curMasterDB : DB}

def demoted (db : DB) : DB :=
  { db with spec := { db.spec with followers := some [] } }

def promoted (clusterSpec : DefSpec) (role : Role) (followConfig : Option FollowConfig)
    (oldMasterDB newMasterDB : DB) : DB :=
  { newMasterDB with
    spec := inheritSynchronousStandbys clusterSpec oldMasterDB newMasterDB
      { newMasterDB.spec with role, followConfig } }

structure Promotion (newcd newcd' : ClusterData) (curMasterDBUID wantedMasterDBUID : String)
    (oldMasterDB newMasterDB : DB) (role : Role) (followConfig : Option FollowConfig) : Prop where
  old : newcd.dbs[curMasterDBUID]? = some oldMasterDB
  new : newcd.dbs[wantedMasterDBUID]? = some newMasterDB
  masterRole : masterRole newcd.cluster.defSpec = .ok (role, followConfig)
  formatVersion : newcd'.formatVersion = newcd.formatVersion
  cluster : newcd'.cluster = { newcd.cluster with
    status := { newcd.cluster.status with master := wantedMasterDBUID } }
  keepers : newcd'.keepers = newcd.keepers
  proxy : newcd'.proxy = Proxy.withoutMaster newcd.proxy
  getElem?_dbs : ∀ (uid : String),
    newcd'.dbs[uid]?
      =
    if uid = wantedMasterDBUID then
      some (promoted newcd.cluster.defSpec role followConfig oldMasterDB newMasterDB)
    else if uid = curMasterDBUID then
      some (demoted oldMasterDB)
    else
      newcd.dbs[uid]?

theorem promoteNewMaster_promotion
    (h : promoteNewMaster newcd curMasterDBUID wantedMasterDBUID = .ok newcd')
    : ∃ (oldMasterDB newMasterDB : DB) (role : Role) (followConfig : Option FollowConfig),
        Promotion newcd newcd' curMasterDBUID wantedMasterDBUID oldMasterDB newMasterDB role
          followConfig := by
  unfold promoteNewMaster at h
  dsimp only at h
  split at h
  . cases h
  . next oldMasterDB hold =>
    split at h
    . cases h
    . next role followConfig hrole =>
      split at h
      . cases h
      . next newMasterDB hnew =>
        cases h
        refine ⟨oldMasterDB, newMasterDB, role, followConfig, hold, hnew, hrole, rfl, rfl, rfl, rfl, ?_⟩
        intro uid
        simp only [Std.ExtTreeMap.getElem?_insert, compare_eq_iff_eq]
        by_cases hw : uid = wantedMasterDBUID
        . simp [hw, promoted]
        . by_cases hc : uid = curMasterDBUID
          . subst hc
            simp [hw, demoted, Ne.symm hw]
          . simp [hw, hc, Ne.symm hw, Ne.symm hc]

def Settled (masterDB : DB) : Prop :=
  masterDB.status.healthy = true ∧ masterDB.status.currentGeneration = masterDB.generation

theorem keepMaster_cases
    (h : s.keepMaster env cd newcd masterDBUID curMasterDB pis = .ok (s', newcd'))
    : ∃ (masterDB : DB),
        newcd.dbs[masterDBUID]? = some masterDB
          ∧
        ((¬ Settled masterDB ∧ newcd' = confirmMaster newcd masterDBUID masterDB pis)
          ∨
        (Settled masterDB
          ∧
        s.reconcileStandbys env cd (confirmMaster newcd masterDBUID masterDB pis) masterDBUID
          curMasterDB = .ok (s', newcd'))) := by
  unfold keepMaster at h
  split at h
  . cases h
  . next masterDB hmaster =>
    refine ⟨masterDB, hmaster, ?_⟩
    split at h
    . next hready =>
      simp only [Bool.and_eq_true, decide_eq_true_eq, dbConvergenceState_eq_converged_iff] at hready
      exact .inr ⟨hready, h⟩
    . next hready =>
      simp only [Bool.and_eq_true, decide_eq_true_eq, dbConvergenceState_eq_converged_iff] at hready
      simp only [Except.ok.injEq, Prod.mk.injEq] at h
      exact .inl ⟨hready, h.2.symm⟩

theorem getElem?_confirmMaster
    : (confirmMaster newcd masterDBUID masterDB pis).dbs[uid]?
        =
      if uid = masterDBUID then
        some (confirmMasterRole newcd.cluster.defSpec masterDB)
      else
        newcd.dbs[uid]? := by
  simp only [confirmMaster, Std.ExtTreeMap.getElem?_insert, compare_eq_iff_eq]
  by_cases h : uid = masterDBUID
  . simp [h]
  . simp [h, Ne.symm h]

theorem updateFollowers_cases
    (h : updateFollowers newcd curMasterDBUID wantedMasterDBUID = .ok newcd')
    : ∃ (masterDB : DB) (followers : List String),
        newcd.dbs[curMasterDBUID]? = some masterDB
          ∧
        newcd' = { newcd with
          dbs := newcd.dbs.insert curMasterDBUID
            { masterDB with spec := { masterDB.spec with followers := some followers } } } := by
  unfold updateFollowers at h
  split at h
  . cases h
  . next masterDB hmaster =>
    cases h
    exact ⟨masterDB, _, hmaster, rfl⟩

section Init

structure InitialDB (env : Env) (cd : ClusterData) (db : DB) : Prop where
  uid : db.uid = env.uidFn 0
  generation : db.generation = initialGeneration
  status : db.status = {}
  keeper : ∃ (key : String) (k : Keeper), cd.keepers[key]? = some k ∧ db.spec.keeperUID = k.uid
  wellRoled : db.spec.WellRoled
  primaryLine : db.spec.type = some .primaryLine
  synchronousReplication : db.spec.synchronousReplication = false
  synchronousStandbys : db.spec.synchronousStandbys = none
  external : FollowConfig.isExternal db.spec.followConfig = true →
    cd.cluster.defSpec.standbyConfig.isSome = true
  standby : cd.cluster.defSpec.initMode = some .pitr → cd.cluster.defSpec.role = .standby →
    db.spec.role = .standby

def Initialized (db : DB) : Prop :=
  db.status.healthy = true ∧ db.status.currentGeneration = db.generation

inductive InitCase (env : Env) (cd : ClusterData) : ClusterData → Prop where
  | chosen (db : DB) (hmaster : cd.cluster.status.master = "") (hdb : InitialDB env cd db)
    : InitCase env cd (addInitialMaster cd db)
  | awaited (db : DB) (hmaster : cd.cluster.status.master ≠ "")
    (hdb : cd.dbs[cd.cluster.status.master]? = some db) (hready : ¬ Initialized db)
    : InitCase env cd cd
  | completed (db : DB) (hmaster : cd.cluster.status.master ≠ "")
    (hdb : cd.dbs[cd.cluster.status.master]? = some db) (hready : Initialized db)
    : InitCase env cd (completeInit cd cd.cluster.defSpec cd.cluster.status.master db)
  | restarted (hmaster : cd.cluster.status.master ≠ "") (db : DB)
    (hdb : cd.dbs[cd.cluster.status.master]? = some db) (hready : ¬ Initialized db)
    : InitCase env cd { cd with
        dbs := ∅
        cluster := { cd.cluster with status := { cd.cluster.status with master := "" } } }

theorem findInitialKeeper_registered {k : Keeper} (h : findInitialKeeper env cd = .ok k)
    : ∃ (key : String), cd.keepers[key]? = some k := by
  unfold findInitialKeeper at h
  split at h
  . cases h
  . split at h
    . cases h
    . next key _ =>
      split at h
      . cases h
      . next hk =>
        cases h
        exact ⟨key, hk⟩

theorem initialKeeper_registered {k : Keeper} (h : initialKeeper env cd = .ok k)
    : ∃ (key : String), cd.keepers[key]? = some k := by
  unfold initialKeeper at h
  split at h
  . cases h
  . cases h
  . next hk =>
    cases h
    exact findInitialKeeper_registered hk

theorem masterRole_cases {clusterSpec : DefSpec} {role : Role} {followConfig : Option FollowConfig}
    (h : masterRole clusterSpec = .ok (role, followConfig))
    : (clusterSpec.role ≠ .standby ∧ role = .master ∧ followConfig = none)
        ∨
      (role = .standby
        ∧
      FollowConfig.isExternal followConfig = true
        ∧
      clusterSpec.standbyConfig.isSome = true) := by
  unfold masterRole at h
  split at h
  . unfold externalFollowConfig at h
    cases hconfig : clusterSpec.standbyConfig with
    | none => simp [hconfig] at h
    | some standbyConfig =>
      simp only [hconfig, Except.ok.injEq, Prod.mk.injEq] at h
      obtain ⟨rfl, rfl⟩ := h
      exact .inr ⟨rfl, rfl, rfl⟩
  . next hrole =>
    cases h
    exact .inl ⟨hrole, rfl, rfl⟩

theorem masterRole_primaryLine {clusterSpec : DefSpec} (spec : DBSpec)
    (h : masterRole clusterSpec = .ok (spec.role, spec.followConfig))
    : spec.WellRoled ∧ spec.type = some .primaryLine := by
  cases masterRole_cases h with
  | inl hmaster =>
    obtain ⟨-, hrole, -⟩ := hmaster
    exact ⟨⟨by simp [hrole], by simp [hrole]⟩, by simp [DBSpec.type, hrole]⟩
  | inr hstandby =>
    obtain ⟨hrole, hexternal, -⟩ := hstandby
    refine ⟨⟨by simp [hrole], fun _ => ?_⟩, by simp [DBSpec.type, hrole, hexternal]⟩
    cases hfollow : spec.followConfig with
    | none => simp [hfollow, FollowConfig.isExternal] at hexternal
    | some _ => rfl

theorem not_initialized_of_state {now : Time} {db : DB} {timeout : Duration}
    (h : s.dbConvergenceState now db timeout ≠ .converged) : ¬ Initialized db :=
  fun hready => h (dbConvergenceState_eq_converged_iff.mpr hready.2)

theorem awaitInitialDB_cases (hmaster : cd.cluster.status.master ≠ "")
    (h : s.awaitInitialDB env cd = .ok (s', newcd))
    : InitCase env cd newcd := by
  unfold awaitInitialDB at h
  dsimp only at h
  split at h
  . cases h
  . next db hdb =>
    simp only [Except.ok.injEq, Prod.mk.injEq] at h
    rw [← h.2]
    unfold applyInitialDBConvergence
    split
    . next hstate =>
      rw [dbConvergenceState_eq_converged_iff] at hstate
      split
      . next hhealthy => exact .completed db hmaster hdb ⟨hhealthy, hstate⟩
      . next hhealthy => exact .awaited db hmaster hdb (fun hready => hhealthy hready.1)
    . next hstate =>
      exact .awaited db hmaster hdb (not_initialized_of_state (by rw [hstate]; decide))
    . next hstate =>
      exact .restarted hmaster db hdb (not_initialized_of_state (by rw [hstate]; decide))

theorem initNew_cases (hmode : cd.cluster.defSpec.initMode = some .new)
    (h : s.initNew env cd = .ok (s', newcd)) : InitCase env cd newcd := by
  unfold initNew at h
  dsimp only at h
  split at h
  . next hmaster =>
    split at h
    . cases h
    . next k hk =>
      obtain ⟨key, hkey⟩ := initialKeeper_registered hk
      cases h
      exact .chosen _ hmaster {
        uid := rfl
        generation := rfl
        status := rfl
        keeper := ⟨key, k, hkey, rfl⟩
        wellRoled := ⟨by simp, by simp⟩
        primaryLine := rfl
        synchronousReplication := rfl
        synchronousStandbys := rfl
        external := by simp [FollowConfig.isExternal]
        standby := by simp [hmode]
      }
  . next hmaster => exact awaitInitialDB_cases hmaster h

theorem initExisting_cases (hmode : cd.cluster.defSpec.initMode = some .existing)
    (h : s.initExisting env cd = .ok (s', newcd)) : InitCase env cd newcd := by
  unfold initExisting at h
  dsimp only at h
  split at h
  . next hmaster =>
    split at h
    . cases h
    . split at h
      . cases h
      . next k hk =>
        cases h
        exact .chosen _ hmaster {
          uid := rfl
          generation := rfl
          status := rfl
          keeper := ⟨_, k, hk, rfl⟩
          wellRoled := ⟨by simp, by simp⟩
          primaryLine := rfl
          synchronousReplication := rfl
          synchronousStandbys := rfl
          external := by simp [FollowConfig.isExternal]
          standby := by simp [hmode]
        }
  . next hmaster =>
    split at h
    . cases h
    . next db hdb =>
      split at h
      . next hhealthy =>
        cases h
        exact .awaited db hmaster hdb (fun hready => by simp [hready.1] at hhealthy)
      . next hhealthy =>
        split at h
        . next hstate =>
          cases h
          exact .completed db hmaster hdb
            ⟨by simpa using hhealthy, dbConvergenceState_eq_converged_iff.mp hstate⟩
        . next hstate =>
          cases h
          exact .awaited db hmaster hdb (not_initialized_of_state hstate)

theorem initPITR_cases (h : s.initPITR env cd = .ok (s', newcd)) : InitCase env cd newcd := by
  unfold initPITR at h
  dsimp only at h
  split at h
  . next hmaster =>
    split at h
    . cases h
    . next k hk =>
      split at h
      . cases h
      . next role followConfig hrole =>
        obtain ⟨key, hkey⟩ := initialKeeper_registered hk
        cases h
        have hline := masterRole_primaryLine {
            keeperUID := k.uid
            initMode := .pitr
            pitrConfig := cd.cluster.defSpec.pitrConfig
            role
            followConfig
            followers := some []
            includeConfig := cd.cluster.defSpec.mergePgParameters
          } hrole
        exact .chosen _ hmaster {
          uid := rfl
          generation := rfl
          status := rfl
          keeper := ⟨key, k, hkey, rfl⟩
          wellRoled := hline.1
          primaryLine := hline.2
          synchronousReplication := rfl
          synchronousStandbys := rfl
          external := by
            intro hexternal
            cases masterRole_cases hrole with
            | inl hmaster => simp [FollowConfig.isExternal, hmaster.2.2] at hexternal
            | inr hstandby => exact hstandby.2.2
          standby := by
            intro _ hstandby
            cases masterRole_cases hrole with
            | inl hmaster => exact absurd hstandby hmaster.1
            | inr hrole => exact hrole.1
        }
  . next hmaster => exact awaitInitialDB_cases hmaster h

theorem initCluster_cases (h : s.initCluster env cd = .ok (s', newcd)) : InitCase env cd newcd := by
  unfold initCluster at h
  split at h
  . cases h
  . next hmode => exact initNew_cases hmode h
  . next hmode => exact initExisting_cases hmode h
  . exact initPITR_cases h
  . cases h

end Init

/--
The transitions of the normal phase with the master that they leave, before the followers of the old
master are updated. They start from the cluster data without old keepers, in which an applied manual
switch has been cleared.
-/
inductive NormalCase (env : Env) (cd base : ClusterData) (pis : ProxiesInfo)
    : String → ClusterData → Prop where
  | promoted (wantedMasterDBUID : String) (oldMasterDB newMasterDB : DB) (role : Role)
    (followConfig : Option FollowConfig) (newcd : ClusterData)
    (hne : wantedMasterDBUID ≠ cd.cluster.status.master)
    (hpromotion : Promotion base newcd cd.cluster.status.master wantedMasterDBUID oldMasterDB
      newMasterDB role followConfig)
    : NormalCase env cd base pis wantedMasterDBUID newcd
  | kept (masterDB : DB) (hmaster : base.dbs[cd.cluster.status.master]? = some masterDB)
    (hunsettled : ¬ Settled masterDB)
    : NormalCase env cd base pis cd.cluster.status.master
        (confirmMaster base cd.cluster.status.master masterDB pis)
  | reconciled (masterDB curMasterDB : DB) (s s' : Sentinel) (newcd : ClusterData)
    (hmaster : base.dbs[cd.cluster.status.master]? = some masterDB)
    (hcur : cd.dbs[cd.cluster.status.master]? = some curMasterDB) (hsettled : Settled masterDB)
    (hreconcile : s.reconcileStandbys env cd
      (confirmMaster base cd.cluster.status.master masterDB pis) cd.cluster.status.master
      curMasterDB = .ok (s', newcd))
    : NormalCase env cd base pis cd.cluster.status.master newcd

theorem normalCase_spec {base : ClusterData} {wanted : String}
    (h : NormalCase env cd base pis wanted newcd) : newcd.cluster.spec = base.cluster.spec := by
  cases h with
  | promoted _ _ _ _ _ _ _ hpromotion => rw [hpromotion.cluster]
  | kept => rfl
  | reconciled _ _ _ _ _ _ _ _ hreconcile =>
    rw [reconcileStandbys_cluster hreconcile]
    rfl

theorem applyElection_cases {election : Election}
    (hcur : cd.dbs[cd.cluster.status.master]? = some curMasterDB)
    (h : applyElection env election cd newcd cd.cluster.status.master curMasterDB pis
      = .ok (s', newcd'))
    : NormalCase env cd newcd pis election.wantedMasterDBUID newcd' := by
  unfold applyElection at h
  split at h
  . next hkeep =>
    rw [hkeep]
    obtain ⟨masterDB, hmaster, ⟨hunsettled, hkept⟩ | ⟨hsettled, hreconcile⟩⟩ := keepMaster_cases h
    . rw [hkept]
      exact .kept masterDB hmaster hunsettled
    . exact .reconciled masterDB curMasterDB _ _ newcd' hmaster hcur hsettled hreconcile
  . next hne =>
    split at h
    . cases h
    . next mid hpromote =>
      cases h
      obtain ⟨oldMasterDB, newMasterDB, role, followConfig, hpromotion⟩ :=
        promoteNewMaster_promotion hpromote
      exact .promoted _ oldMasterDB newMasterDB role followConfig newcd' hne hpromotion

structure Base (now : Time) (cd base : ClusterData) : Prop where
  formatVersion : base.formatVersion = cd.formatVersion
  uid : base.cluster.uid = cd.cluster.uid
  spec : base.cluster.spec = cd.cluster.spec
  phase : base.cluster.status.phase = cd.cluster.status.phase
  master : base.cluster.status.master = cd.cluster.status.master
  keepers : base.keepers = (removeOldKeepers now cd).keepers
  dbs : base.dbs = cd.dbs
  proxy : base.proxy = cd.proxy

theorem base_clearManualSwitch (now : Time) (election : Election) (cd : ClusterData)
    : Base now cd (clearManualSwitch election (removeOldKeepers now cd)) := by
  unfold clearManualSwitch
  split <;> constructor <;> rfl

def Elects (env : Env) (s : Sentinel) (cd : ClusterData) (dbUID : String) : Prop :=
  ∃ (curMasterDB : DB) (election : Election),
    cd.dbs[cd.cluster.status.master]? = some curMasterDB
      ∧
    s.elect env (removeOldKeepers env.now cd) cd.cluster.status.master curMasterDB = .ok election
      ∧
    election.wantedMasterDBUID = dbUID

inductive UpdateCase (env : Env) (s : Sentinel) (cd : ClusterData) (pis : ProxiesInfo)
    (newcd : ClusterData) : Prop where
  | paused (hphase : cd.cluster.status.phase = .normal) (heq : newcd = cd)
  | initializing (hphase : cd.cluster.status.phase = .initializing) (mid : ClusterData)
    (hmid : InitCase env cd mid) (hfinish : finishUpdate env.now cd mid = .ok newcd)
  | normal (hphase : cd.cluster.status.phase = .normal)
    (base mid followed : ClusterData) (wantedMasterDBUID : String)
    (helects : Elects env s cd wantedMasterDBUID) (hbase : Base env.now cd base)
    (hmid : NormalCase env cd base pis wantedMasterDBUID mid)
    (hfollow : updateFollowers mid cd.cluster.status.master wantedMasterDBUID = .ok followed)
    (hfinish : finishUpdate env.now cd followed = .ok newcd)

theorem updateNormal_normalCase (h : s.updateNormal env cd pis = .ok (s', newcd))
    : ∃ (base mid : ClusterData) (wantedMasterDBUID : String),
        Elects env s cd wantedMasterDBUID
          ∧
        Base env.now cd base
          ∧
        NormalCase env cd base pis wantedMasterDBUID mid
          ∧
        updateFollowers mid cd.cluster.status.master wantedMasterDBUID = .ok newcd := by
  obtain ⟨curMasterDB, election, mid, hcur, helect, happly, hfollow⟩ := updateNormal_cases h
  exact ⟨_, mid, election.wantedMasterDBUID, ⟨curMasterDB, election, hcur, helect, rfl⟩,
    base_clearManualSwitch env.now election cd, applyElection_cases hcur happly, hfollow⟩

theorem updateCluster_cases (h : s.updateCluster env cd pis = .ok (s', newcd))
    : UpdateCase env s cd pis newcd := by
  unfold updateCluster at h
  split at h
  . next hphase =>
    simp only [Except.bind_eq_ok_iff, Except.pure_eq_ok, Except.ok.injEq, Prod.mk.injEq] at h
    obtain ⟨⟨sm, mid⟩, hinit, newcd', hfinish, -, rfl⟩ := h
    exact .initializing hphase mid (initCluster_cases hinit) hfinish
  . next hphase =>
    split at h
    . cases h
      exact .paused hphase rfl
    . simp only [Except.bind_eq_ok_iff, Except.pure_eq_ok, Except.ok.injEq, Prod.mk.injEq] at h
      obtain ⟨⟨sm, followed⟩, hnormal, newcd', hfinish, -, rfl⟩ := h
      obtain ⟨base, mid, wanted, helects, hbase, hmid, hfollow⟩ := updateNormal_normalCase hnormal
      exact .normal hphase base mid followed wanted helects hbase hmid hfollow hfinish
  . cases h

theorem updateCluster_spec_of_normal (hphase : cd.cluster.status.phase = .normal)
    (h : s.updateCluster env cd pis = .ok (s', newcd)) : newcd.cluster.spec = cd.cluster.spec := by
  cases updateCluster_cases h with
  | paused _ heq => rw [heq]
  | initializing hphase' =>
    rw [hphase] at hphase'
    cases hphase'
  | normal _ base mid followed wanted _ hbase hmid hfollow hfinish =>
    rw [finishUpdate_cluster hfinish, updateFollowers_cluster hfollow, normalCase_spec hmid,
      hbase.spec]

end Sentinel
end Hysteron
