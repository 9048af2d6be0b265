import Hysteron.Safety.Commits

/-!
Nil pointers in a check. Merging the published state never dereferences one. Copying the cluster spec
into the databases does, when a database still follows an external server and the operator has
removed the configuration for that, and the main result says exactly when this happens.
-/

namespace Hysteron

section Validation

variable {spec : ClusterSpec}

theorem ClusterSpec.reject_eq_ok {c : Bool} {message : String} (h : reject c message = .ok ())
    : c = false := by
  cases c with
  | false => rfl
  | true => cases h

structure ClusterSpec.Complete (spec : DefSpec) : Prop where
  initMode : spec.initMode = some .new ∨ spec.initMode = some .existing ∨ spec.initMode = some .pitr
  existing : spec.initMode = some .existing → spec.existingConfig.isSome = true
  role : spec.role = .master ∨ (spec.role = .standby ∧ spec.standbyConfig.isSome = true)

theorem ClusterSpec.complete_of_validate (h : spec.validate = .ok ())
    : ClusterSpec.Complete spec.withDefaults := by
  unfold validate at h
  simp only [Except.bind_eq_ok_iff] at h
  obtain ⟨-, -, h⟩ := h
  split at h
  . cases h
  . next initMode hmode =>
    simp only [Except.bind_eq_ok_iff] at h
    obtain ⟨_, -, _, hinit, hrole⟩ := h
    constructor
    case initMode =>
      rw [hmode]
      cases initMode with
      | new => exact .inl rfl
      | existing => exact .inr (.inl rfl)
      | pitr => exact .inr (.inr rfl)
      | unknown name => cases hinit
    case existing =>
      rw [hmode]
      intro heq
      cases heq
      unfold validateInitMode at hinit
      dsimp only at hinit
      split at hinit
      . cases hinit
      . next hconfig => simp [hconfig]
    case role =>
      unfold validateRole at hrole
      simp only [Except.bind_eq_ok_iff] at hrole
      obtain ⟨_, -, hrole⟩ := hrole
      split at hrole
      . next hmaster => exact .inl hmaster
      . next hstandby =>
        refine .inr ⟨hstandby, ?_⟩
        have hsome := reject_eq_ok hrole
        simpa using hsome
      . cases hrole

end Validation

namespace Sentinel

variable {env : Env} {s s' : Sentinel} {now : Time} {cd newcd base mid followed : ClusterData}
variable {pis : ProxiesInfo} {uid : String} {curMasterDB : DB}

theorem updateKeepersStatus_isOk {keepersInfo : KeepersInfo} (h : cd.Assigned)
    (hkeyed : KeepersInfo.Keyed keepersInfo) (firstRun : Bool)
    : ∃ (result : Sentinel × ClusterData × FinMap String KeeperInfoHistory),
        s.updateKeepersStatus now cd keepersInfo firstRun = .ok result := by
  unfold updateKeepersStatus
  split
  . exact ⟨_, rfl⟩
  . dsimp only
    split
    . next hmissing =>
      rw [FinMap.anyValue_iff] at hmissing
      obtain ⟨uid, db, hdb, hkeeper⟩ := hmissing
      have hmem := h.registered uid db hdb
      rw [Std.ExtTreeMap.mem_iff_isSome_getElem?] at hmem
      rw [Std.ExtTreeMap.contains_eq_isSome_getElem?, Std.ExtTreeMap.getElem?_map,
        getElem?_mergedKeepers (keyed_freshKeepersInfo hkeyed)] at hkeeper
      simp [hmem] at hkeeper
    . exact ⟨_, rfl⟩

def External (cd : ClusterData) (uid : String) : Prop :=
  ∃ (db : DB), cd.dbs[uid]? = some db ∧ FollowConfig.isExternal db.spec.followConfig = true

theorem finishUpdate_eq_nilDeref_iff
    : finishUpdate now cd newcd = .error .nilDeref
        ↔
      newcd.cluster.defSpec.standbyConfig = none ∧ ∃ (uid : String), External newcd uid := by
  rw [finishUpdate_eq_error_iff]
  simp only [true_and]
  rfl

section Normal

theorem external_updateFollowers {curMasterDBUID wantedMasterDBUID : String}
    (h : updateFollowers mid curMasterDBUID wantedMasterDBUID = .ok followed)
    : External followed uid ↔ External mid uid := by
  obtain ⟨masterDB, followers, hmaster, rfl⟩ := updateFollowers_cases h
  unfold External
  dsimp only
  rw [Std.ExtTreeMap.getElem?_insert]
  by_cases heq : curMasterDBUID = uid
  . simp [← heq, hmaster]
  . simp [heq]

theorem external_promotion {curMasterDBUID wantedMasterDBUID : String}
    {oldMasterDB newMasterDB : DB} {role : Role} {followConfig : Option FollowConfig}
    (hp : Promotion base mid curMasterDBUID wantedMasterDBUID oldMasterDB newMasterDB role
      followConfig)
    (hnone : base.cluster.defSpec.standbyConfig = none)
    : External mid uid ↔ uid ≠ wantedMasterDBUID ∧ External base uid := by
  have hfollow : followConfig = none := by
    cases masterRole_cases hp.masterRole with
    | inl hmaster => exact hmaster.2.2
    | inr hstandby => simp [hnone] at hstandby
  unfold External
  rw [hp.getElem?_dbs]
  by_cases hw : uid = wantedMasterDBUID
  . simp [hw, promoted, hfollow, FollowConfig.isExternal]
  . by_cases hc : uid = curMasterDBUID
    . have hold := hp.old
      rw [← hc] at hold
      rw [if_neg hw, if_pos hc, hold]
      simp [hw, demoted]
    . simp [hw, hc]

theorem external_confirmMaster {masterDBUID : String} {masterDB : DB}
    (hrole : base.cluster.defSpec.role = .master)
    : External (confirmMaster base masterDBUID masterDB pis) uid
        ↔
      uid ≠ masterDBUID ∧ External base uid := by
  unfold External
  rw [getElem?_confirmMaster]
  by_cases h : uid = masterDBUID
  . simp [h, confirmMasterRole, hrole, FollowConfig.isExternal]
  . simp [h]

theorem external_reconciled {masterDBUID : String} (h : Reconciled env masterDBUID newcd mid)
    (hexternal : External mid uid) : uid = masterDBUID ∧ External newcd masterDBUID := by
  obtain ⟨db', hdb', hexternal⟩ := hexternal
  by_cases heq : uid = masterDBUID
  . subst heq
    obtain ⟨cd₁, good, best, -, hsetup⟩ := h.master
    rw [hdb'] at hsetup
    obtain ⟨db, hdb, rfl⟩ := Option.map_eq_some_iff.mp hsetup.symm
    rw [(setupSynchronousStandbys_same good best).followConfig] at hexternal
    exact ⟨rfl, db, hdb, hexternal⟩
  . exfalso
    cases h.standby uid db' heq hdb' with
    | inl hold =>
      obtain ⟨db, -, -, rfl | rfl⟩ := hold
      . simp [followerOf, FollowConfig.isExternal] at hexternal
      . simp [followerOf, FollowConfig.isExternal] at hexternal
    | inr hnew =>
      obtain ⟨n, keeper, -, rfl⟩ := hnew
      simp [followerOf, FollowConfig.isExternal] at hexternal

theorem elects_unique {wanted wanted' : String} (h : Elects env s cd wanted)
    (h' : Elects env s cd wanted') : wanted = wanted' := by
  obtain ⟨curMasterDB, election, hcur, helect, rfl⟩ := h
  obtain ⟨curMasterDB', election', hcur', helect', rfl⟩ := h'
  rw [hcur] at hcur'
  cases hcur'
  rw [helect] at helect'
  cases helect'
  rfl

theorem external_updateNormal (h : cd.Sound) (hphase : cd.cluster.status.phase = .normal)
    (hfresh : env.Fresh cd.dbs) (hrole : cd.cluster.defSpec.role = .master)
    (hnone : cd.cluster.defSpec.standbyConfig = none)
    (hcur : cd.dbs[cd.cluster.status.master]? = some curMasterDB)
    (hrun : s.updateNormal env cd pis = .ok (s', followed))
    : followed.cluster.defSpec = cd.cluster.defSpec
        ∧
      ∃ (wanted : String),
        Elects env s cd wanted
          ∧
        ∀ (uid : String), External followed uid
          ↔
          uid ≠ wanted ∧ External cd uid
            ∧ ¬ (wanted = cd.cluster.status.master ∧ Settled curMasterDB) := by
  obtain ⟨base, mid, wanted, helects, hbase, hmid, hfollow⟩ := updateNormal_normalCase hrun
  have hspec : base.cluster.defSpec = cd.cluster.defSpec := by
    unfold Cluster.defSpec
    rw [hbase.spec]
  have hexternal (uid : String) : External base uid ↔ External cd uid := by
    unfold External
    rw [hbase.dbs]
  rw [← hspec] at hrole hnone ⊢
  rw [updateFollowers_cluster hfollow]
  simp only [external_updateFollowers hfollow]
  cases hmid with
  | promoted _ oldMasterDB newMasterDB role followConfig _ hne hpromotion =>
    refine ⟨by rw [hpromotion.cluster]; rfl, wanted, helects, ?_⟩
    intro uid
    rw [external_promotion hpromotion hnone, hexternal]
    simp [hne]
  | kept masterDB hmaster hunsettled =>
    rw [hbase.dbs, hcur] at hmaster
    cases hmaster
    refine ⟨rfl, _, helects, ?_⟩
    intro uid
    rw [external_confirmMaster hrole, hexternal]
    simp [hunsettled]
  | reconciled masterDB _ s₁ s₂ _ hmaster hcur' hsettled hreconcile =>
    refine ⟨by rw [reconcileStandbys_cluster hreconcile]; rfl, _, helects, ?_⟩
    intro uid
    have hmaster' := hmaster
    rw [hbase.dbs, hcur] at hmaster'
    cases hmaster'
    rw [hcur] at hcur'
    cases hcur'
    simp only [hsettled, and_self, not_true_eq_false, and_false, iff_false]
    have hrec := reconciled_confirmMaster h hphase hfresh hbase hmaster hcur hreconcile
    intro hcontra
    have hmasterExternal := (external_reconciled hrec hcontra).2
    rw [external_confirmMaster hrole] at hmasterExternal
    exact hmasterExternal.1 rfl

end Normal

section Init

def InitTimedOut (env : Env) (s : Sentinel) (cd : ClusterData) (db : DB) : Prop :=
  cd.cluster.defSpec.initMode ≠ some .existing
    ∧
  s.dbConvergenceState env.now db cd.cluster.defSpec.initTimeout = .convergenceFailed

theorem completeInit_standbyConfig (cd : ClusterData) (masterDBUID : String) (db : DB)
    : (completeInit cd cd.cluster.defSpec masterDBUID db).cluster.spec.standbyConfig
        =
      cd.cluster.spec.standbyConfig := by
  unfold completeInit
  dsimp only
  split <;> rfl

theorem external_completeInit {masterDBUID : String} {db : DB}
    (hdb : cd.dbs[masterDBUID]? = some db)
    : External (completeInit cd cd.cluster.defSpec masterDBUID db) uid ↔ External cd uid := by
  unfold External completeInit
  dsimp only
  rw [Std.ExtTreeMap.getElem?_insert]
  by_cases heq : masterDBUID = uid
  . simp [← heq, hdb]
  . simp [heq]

theorem applyInitialDBConvergence_standbyConfig (cd : ClusterData) (masterDBUID : String) (db : DB)
    (state : ConvergenceState)
    : (applyInitialDBConvergence cd cd.cluster.defSpec masterDBUID db
        state).cluster.spec.standbyConfig
        =
      cd.cluster.spec.standbyConfig := by
  unfold applyInitialDBConvergence
  split
  . split
    . exact completeInit_standbyConfig cd masterDBUID db
    . rfl
  . rfl
  . rfl

theorem external_applyInitialDBConvergence {masterDBUID : String} {db : DB}
    {state : ConvergenceState} (hdb : cd.dbs[masterDBUID]? = some db)
    : External (applyInitialDBConvergence cd cd.cluster.defSpec masterDBUID db state) uid
        ↔
      External cd uid ∧ state ≠ .convergenceFailed := by
  unfold applyInitialDBConvergence
  split
  . split
    . simpa using external_completeInit hdb
    . simp
  . simp
  . simp [External]

theorem external_initCluster {db : DB} (env : Env) (s : Sentinel)
    (hmaster : cd.cluster.status.master ≠ "")
    (hdb : cd.dbs[cd.cluster.status.master]? = some db)
    (hcomplete : ClusterSpec.Complete cd.cluster.defSpec)
    : ∃ (s' : Sentinel) (mid : ClusterData),
        s.initCluster env cd = .ok (s', mid)
          ∧
        mid.cluster.spec.standbyConfig = cd.cluster.spec.standbyConfig
          ∧
        ∀ (uid : String), External mid uid ↔ External cd uid ∧ ¬ InitTimedOut env s cd db := by
  have hawait : ∃ (s' : Sentinel) (mid : ClusterData),
      s.awaitInitialDB env cd = .ok (s', mid)
        ∧
      mid.cluster.spec.standbyConfig = cd.cluster.spec.standbyConfig
        ∧
      ∀ (uid : String), External mid uid ↔ External cd uid
        ∧ s.dbConvergenceState env.now db cd.cluster.defSpec.initTimeout ≠ .convergenceFailed := by
    unfold awaitInitialDB
    dsimp only
    rw [hdb]
    exact ⟨_, _, rfl, applyInitialDBConvergence_standbyConfig _ _ _ _,
      fun uid => external_applyInitialDBConvergence hdb⟩
  unfold initCluster InitTimedOut
  rcases hcomplete.initMode with hmode | hmode | hmode
  . rw [hmode]
    simpa [initNew, hmaster] using hawait
  . rw [hmode]
    simp only [initExisting, hmaster, ↓reduceIte, hdb, ne_eq, not_true_eq_false, false_and,
      not_false_eq_true, and_true]
    split
    . exact ⟨_, _, rfl, rfl, fun _ => Iff.rfl⟩
    . split
      . exact ⟨_, _, rfl, completeInit_standbyConfig _ _ _, fun uid => external_completeInit hdb⟩
      . exact ⟨_, _, rfl, rfl, fun _ => Iff.rfl⟩
  . rw [hmode]
    simpa [initPITR, hmaster] using hawait

end Init

def ExternalDBKept (env : Env) (s : Sentinel) (cd : ClusterData) : Prop :=
  ∃ (uid : String) (db : DB),
    cd.dbs[uid]? = some db
      ∧
    FollowConfig.isExternal db.spec.followConfig = true
      ∧
    match cd.cluster.status.phase with
    | .initializing => ¬ InitTimedOut env s cd db
    | .normal =>
      cd.cluster.status.pauseActive env.now = false
        ∧
      ∃ (curMasterDB : DB) (wanted : String),
        cd.dbs[cd.cluster.status.master]? = some curMasterDB
          ∧
        Elects env s cd wanted
          ∧
        uid ≠ wanted
          ∧
        ¬ (wanted = cd.cluster.status.master ∧ Settled curMasterDB)
    | .unknown _ => False

section Panics

variable (h : cd.Sound) (hcomplete : ClusterSpec.Complete cd.cluster.defSpec)
include h hcomplete

theorem initializing_eq_nilDeref_iff (hphase : cd.cluster.status.phase = .initializing)
    : (do
        let (s, newcd) ← s.initCluster env cd
        let newcd ← finishUpdate env.now cd newcd
        return (s, newcd)) = .error .nilDeref
        ↔
      cd.cluster.spec.standbyConfig = none
        ∧
      ∃ (uid : String) (db : DB),
        cd.dbs[uid]? = some db
          ∧
        FollowConfig.isExternal db.spec.followConfig = true
          ∧
        ¬ InitTimedOut env s cd db := by
  have hinit := h.initializing hphase
  by_cases hmaster : cd.cluster.status.master = ""
  . -- There is no database yet, and the chosen one comes with its configuration.
    have hnone := hinit.none hmaster
    simp only [hnone, reduceCtorEq, false_and, exists_false, and_false, iff_false]
    intro herror
    simp only [Except.bind_eq_error_iff, Except.pure_eq_ok, reduceCtorEq, and_false, exists_false,
      or_false] at herror
    cases herror with
    | inl hfail =>
      cases initCluster_error (fun hne => absurd hmaster hne) hfail with
      | incompleteSpec hincomplete =>
        rcases hincomplete with hmode | ⟨hmode, hconfig⟩ | ⟨hrole, hconfig⟩
        . have := hcomplete.initMode
          simp [hmode] at this
        . have := hcomplete.existing hmode
          simp [hconfig] at this
        . have := hcomplete.role
          simp [hrole, hconfig] at this
    | inr hfinish =>
      obtain ⟨⟨sm, mid⟩, hok, hfinish⟩ := hfinish
      obtain ⟨hconfig, uid, db', hdb', hexternal⟩ := finishUpdate_eq_nilDeref_iff.mp hfinish
      cases initCluster_cases hok with
      | chosen db _ hdb =>
        have hmissing : cd.cluster.defSpec.standbyConfig = none := hconfig
        simp only [addInitialMaster, Std.ExtTreeMap.getElem?_insert, compare_eq_iff_eq] at hdb'
        split at hdb'
        . cases hdb'
          have := hdb.external hexternal
          simp [hmissing] at this
        . rw [hnone] at hdb'
          cases hdb'
      | awaited _ hne => exact hne hmaster
      | completed _ hne => exact hne hmaster
      | restarted hne => exact hne hmaster
  . obtain ⟨db, hdb, -⟩ := hinit.master hmaster
    obtain ⟨s', mid, hok, hconfig, hexternal⟩ := external_initCluster env s hmaster hdb hcomplete
    simp only [hok, Except.bind_ok, Except.bind_eq_error_iff, Except.pure_eq_ok, reduceCtorEq,
      and_false, exists_false, or_false, finishUpdate_eq_nilDeref_iff]
    have hconfig : mid.cluster.defSpec.standbyConfig = cd.cluster.spec.standbyConfig := hconfig
    rw [hconfig]
    simp only [hexternal]
    constructor
    . rintro ⟨hnone, uid, ⟨db', hdb', hext⟩, htimeout⟩
      have huid := hinit.only uid db' hdb'
      rw [huid, hdb] at hdb'
      cases hdb'
      exact ⟨hnone, cd.cluster.status.master, db, hdb, hext, htimeout⟩
    . rintro ⟨hnone, uid, db', hdb', hext, htimeout⟩
      have huid := hinit.only uid db' hdb'
      have hdb'' := hdb'
      rw [huid, hdb] at hdb''
      cases hdb''
      exact ⟨hnone, uid, ⟨db, hdb', hext⟩, htimeout⟩

theorem updateCluster_eq_nilDeref_iff (hfresh : env.Fresh cd.dbs)
    : s.updateCluster env cd pis = .error .nilDeref
        ↔
      cd.cluster.spec.standbyConfig = none ∧ ExternalDBKept env s cd := by
  unfold updateCluster ExternalDBKept
  cases hphase : cd.cluster.status.phase with
  | initializing => exact initializing_eq_nilDeref_iff h hcomplete hphase
  | normal =>
    dsimp only
    obtain ⟨curMasterDB, hcur, -⟩ := h.master hphase
    by_cases hpaused : cd.cluster.status.pauseActive env.now = true
    . simp [hpaused]
    . -- The update itself succeeds, since the configuration of a standby cluster is complete.
      obtain ⟨⟨s', followed⟩, hok⟩ : ∃ (result : Sentinel × ClusterData),
          s.updateNormal env cd pis = .ok result := by
        cases hrun : s.updateNormal env cd pis with
        | ok result => exact ⟨result, rfl⟩
        | error fault =>
          obtain ⟨-, hrole, hconfig⟩ := updateNormal_error h hphase hfresh hrun
          have := hcomplete.role
          simp [hrole, hconfig] at this
      simp only [hpaused, Bool.false_eq_true, ↓reduceIte, hok, Except.bind_ok,
        Except.bind_eq_error_iff, Except.pure_eq_ok, reduceCtorEq, and_false, exists_false, or_false,
        finishUpdate_eq_nilDeref_iff, true_and, hcur, Option.some.injEq]
      by_cases hnone : cd.cluster.spec.standbyConfig = none
      . have hrole : cd.cluster.defSpec.role = .master := by
          have hnone : cd.cluster.defSpec.standbyConfig = none := hnone
          have := hcomplete.role
          simpa [hnone] using this
        obtain ⟨hspec, wanted, helects, hexternal⟩ :=
          external_updateNormal h hphase hfresh hrole hnone hcur hok
        rw [hspec]
        simp only [hexternal]
        constructor
        . rintro ⟨-, uid, hne, ⟨db, hdb, hext⟩, hunsettled⟩
          exact ⟨hnone, uid, db, hdb, hext, curMasterDB, wanted, rfl, helects, hne, hunsettled⟩
        . rintro ⟨-, uid, db, hdb, hext, cur, wanted', rfl, helects', hne, hunsettled⟩
          cases elects_unique helects helects'
          exact ⟨hnone, uid, hne, ⟨db, hdb, hext⟩, hunsettled⟩
      . have hspec : followed.cluster.spec.standbyConfig = cd.cluster.spec.standbyConfig := by
          obtain ⟨base, mid, wanted, -, hbase, hmid, hfollow⟩ := updateNormal_normalCase hok
          rw [updateFollowers_cluster hfollow, normalCase_spec hmid, hbase.spec]
        have hsome : followed.cluster.defSpec.standbyConfig ≠ none := by
          intro hcontra
          exact hnone (hspec.symm.trans hcontra)
        simp [hsome, hnone]
  | unknown => simp

end Panics

section Configured

def Configured (cd : ClusterData) : Prop :=
  ∀ (uid : String), External cd uid → cd.cluster.spec.standbyConfig.isSome = true

theorem external_roundTrip : External cd.roundTrip uid ↔ External cd uid := by
  unfold External ClusterData.roundTrip
  dsimp only
  rw [Std.ExtTreeMap.getElem?_map]
  cases cd.dbs[uid]? with
  | none => simp
  | some db => simp [DB.roundTrip, DBSpec.roundTrip]

theorem external_of_effect {c : Operations.Command} (heffect : Operations.Effect cd c newcd)
    (h : External newcd uid) : External cd uid := by
  obtain ⟨db', hdb', hexternal⟩ := h
  obtain ⟨db, hdb, rfl | ⟨-, -, rfl⟩⟩ := heffect.db_cases hdb'
  . exact ⟨db', hdb, hexternal⟩
  . simp [Operations.markForResync, FollowConfig.isExternal] at hexternal

theorem external_updateKeepersStatus {keepersInfo : KeepersInfo} {firstRun : Bool}
    {kihs : FinMap String KeeperInfoHistory}
    (hrun : s.updateKeepersStatus now cd keepersInfo firstRun = .ok (s', newcd, kihs))
    : External newcd uid ↔ External cd uid := by
  cases firstRun with
  | true => rw [(updateKeepersStatus_firstRun hrun).2]
  | false =>
    unfold External
    rw [(updateKeepersStatus_merged hrun).getElem?_dbs]
    cases cd.dbs[uid]? with
    | none => simp
    | some db => simp

theorem external_finishUpdate (hfinish : finishUpdate now cd mid = .ok newcd)
    : External newcd uid ↔ External mid uid := by
  obtain ⟨orphans, heq⟩ := (finishUpdate_finished hfinish).getElem?_dbs uid
  unfold External
  rw [heq]
  cases mid.dbs[uid]? with
  | none => simp
  | some db => simp [finishSpec, isExternal_dbSpecFromClusterSpec]

theorem external_normalCase {wanted : String} (h : cd.Sound)
    (hphase : cd.cluster.status.phase = .normal) (hfresh : env.Fresh cd.dbs)
    (hbase : Base env.now cd base) (hmid : NormalCase env cd base pis wanted mid)
    (hexternal : External mid uid) : External cd uid ∨ cd.cluster.spec.standbyConfig.isSome = true := by
  have hconfirm (masterDB : DB) (hmaster : base.dbs[cd.cluster.status.master]? = some masterDB)
      (uid : String)
      (h : External (confirmMaster base cd.cluster.status.master masterDB pis) uid)
      : External cd uid := by
    obtain ⟨db, hdb, hext⟩ := h
    rw [getElem?_confirmMaster] at hdb
    split at hdb
    . next heq =>
      cases hdb
      refine ⟨masterDB, by rw [heq, ← hbase.dbs]; exact hmaster, ?_⟩
      unfold confirmMasterRole at hext
      split at hext
      . simp [FollowConfig.isExternal] at hext
      . exact hext
    . exact ⟨db, hbase.dbs ▸ hdb, hext⟩
  cases hmid with
  | promoted _ oldMasterDB newMasterDB role followConfig _ hne hpromotion =>
    obtain ⟨db, hdb, hext⟩ := hexternal
    rw [hpromotion.getElem?_dbs] at hdb
    split at hdb
    . cases hdb
      right
      simp only [promoted, inheritSynchronousStandbys_keeps] at hext
      cases masterRole_cases hpromotion.masterRole with
      | inl hmaster => simp [hmaster.2.2, FollowConfig.isExternal] at hext
      | inr hstandby =>
        have hsome : base.cluster.spec.standbyConfig.isSome = true := hstandby.2.2
        rw [hbase.spec] at hsome
        exact hsome
    . split at hdb
      . next heq =>
        cases hdb
        exact .inl ⟨oldMasterDB, by rw [heq, ← hbase.dbs]; exact hpromotion.old, hext⟩
      . exact .inl ⟨db, hbase.dbs ▸ hdb, hext⟩
  | kept masterDB hmaster => exact .inl (hconfirm masterDB hmaster uid hexternal)
  | reconciled masterDB curMasterDB s₁ s₂ _ hmaster hcur _ hreconcile =>
    have hrec := reconciled_confirmMaster h hphase hfresh hbase hmaster hcur hreconcile
    obtain ⟨rfl, hmasterExternal⟩ := external_reconciled hrec hexternal
    exact .inl (hconfirm masterDB hmaster _ hmasterExternal)

theorem external_updateCluster (h : cd.Sound) (hfresh : env.Fresh cd.dbs)
    (hrun : s.updateCluster env cd pis = .ok (s', newcd))
    : newcd.cluster.spec.standbyConfig = cd.cluster.spec.standbyConfig
        ∧
      (External newcd uid → External cd uid ∨ cd.cluster.spec.standbyConfig.isSome = true) := by
  cases updateCluster_cases hrun with
  | paused _ heq =>
    rw [heq]
    exact ⟨rfl, .inl⟩
  | initializing hphase mid hmid hfinish =>
    rw [(finishUpdate_finished hfinish).cluster, external_finishUpdate hfinish]
    cases hmid with
    | chosen db hmaster hdb =>
      refine ⟨rfl, ?_⟩
      rintro ⟨db', hdb', hexternal⟩
      simp only [addInitialMaster, Std.ExtTreeMap.getElem?_insert, compare_eq_iff_eq] at hdb'
      split at hdb'
      . cases hdb'
        exact .inr (hdb.external hexternal)
      . exact .inl ⟨db', hdb', hexternal⟩
    | awaited => exact ⟨rfl, .inl⟩
    | completed db hmaster hdb =>
      rw [external_completeInit hdb]
      exact ⟨completeInit_standbyConfig _ _ _, .inl⟩
    | restarted => exact ⟨rfl, by simp [External]⟩
  | normal hphase base mid followed wanted _ hbase hmid hfollow hfinish =>
    rw [(finishUpdate_finished hfinish).cluster, external_finishUpdate hfinish,
      updateFollowers_cluster hfollow, external_updateFollowers hfollow, normalCase_spec hmid,
      hbase.spec]
    exact ⟨rfl, external_normalCase h hphase hfresh hbase hmid⟩

def StandbyConfigDroppedSafely (cd cd' : ClusterData) : Prop :=
  cd.cluster.spec.standbyConfig.isSome = true → cd'.cluster.spec.standbyConfig = none →
    ∀ (uid : String), ¬ External cd uid

theorem configured_commit {w : Writer} {cd' : ClusterData} (hsound : cd.Sound)
    (hconfigured : Configured cd) (hsafe : StandbyConfigDroppedSafely cd cd')
    (hcommit : Commit w cd cd') : Configured cd' := by
  cases hcommit with
  | command now c hrun =>
    intro uid hexternal
    rw [external_roundTrip] at hexternal
    have hold := external_of_effect (Operations.command_effect c hsound.assigned hrun) hexternal
    by_contra hnone
    exact hsafe (hconfigured uid hold) (by simpa using hnone) uid hold
  | check inp s hfresh hcheck =>
    obtain ⟨-, s₁, s₂, s₃, s₄, firstRun, observed, kihs, pis, hstatus, hupdate⟩ :=
      clusterSentinelCheck_cases hcheck
    have hobserved := hsound.of_derived
      (derived_updateKeepersStatus hsound.assigned (keyed_keepersInfo inp) hstatus)
    intro uid hexternal
    rw [external_roundTrip] at hexternal
    have hcluster := updateKeepersStatus_cluster hstatus
    obtain ⟨hconfig, hnew⟩ :=
      external_updateCluster hobserved (fresh_updateKeepersStatus hfresh hstatus) hupdate
    rw [hcluster] at hconfig hnew
    rw [ClusterData.roundTrip, ClusterSpec.roundTrip]
    dsimp only
    rw [hconfig]
    cases hnew hexternal with
    | inl hold => exact hconfigured uid ((external_updateKeepersStatus hstatus).mp hold)
    | inr hsome => exact hsome

end Configured

section Runs

theorem configured_inductive
    : (commitSystem.restrict StandbyConfigDroppedSafely).Inductive
        (fun cd => cd.Sound ∧ Configured cd) where
  init := by
    rintro _ ⟨uid, spec, rfl⟩
    refine ⟨sound_of_commits (.init ⟨uid, spec, rfl⟩), ?_⟩
    rintro uid' ⟨db, hdb, -⟩
    rw [roundTrip_newClusterData] at hdb
    simp [newClusterData] at hdb
  step := by
    rintro cd cd' ⟨hsound, hconfigured⟩ ⟨⟨w, hcommit⟩, hsafe⟩
    exact ⟨sound_commit hsound hcommit, configured_commit hsound hconfigured hsafe hcommit⟩

/--
A check of committed cluster data that passes the validation merges the published state without a
fault. Its update dereferences a nil pointer exactly when the configuration of a standby cluster is
missing and a database that follows an external server is kept, which does not happen if that
configuration is only removed when no database follows an external server any more.
-/
theorem check_returns_normally_iff (cd : ClusterData) (hreach : commitSystem.Reachable cd)
    (hvalid : cd.cluster.spec.validate = .ok ()) (env : Env) (hfresh : env.Fresh cd.dbs)
    (s : Sentinel) (published : List KeeperInfo) (firstRun : Bool)
    : ∃ (s₁ : Sentinel) (observed : ClusterData) (kihs : FinMap String KeeperInfoHistory),
        s.updateKeepersStatus env.now cd (getKeepersInfo published) firstRun
          = .ok (s₁, observed, kihs)
          ∧
        ∀ (s₂ : Sentinel) (pis : ProxiesInfo),
          (s₂.updateCluster env observed pis = .error .nilDeref
            ↔
          observed.cluster.spec.standbyConfig = none ∧ ExternalDBKept env s₂ observed)
            ∧
          ((commitSystem.restrict StandbyConfigDroppedSafely).Reachable cd →
            s₂.updateCluster env observed pis ≠ .error .nilDeref) := by
  have hsound := sound_of_commits hreach
  obtain ⟨⟨s₁, observed, kihs⟩, hstatus⟩ : ∃ result,
      s.updateKeepersStatus env.now cd (getKeepersInfo published) firstRun = .ok result :=
    updateKeepersStatus_isOk hsound.assigned (keyed_getKeepersInfo published) firstRun
  refine ⟨s₁, observed, kihs, hstatus, ?_⟩
  intro s₂ pis
  have hobserved := hsound.of_derived
    (derived_updateKeepersStatus hsound.assigned (keyed_getKeepersInfo published) hstatus)
  have hcluster := updateKeepersStatus_cluster hstatus
  have hcomplete : ClusterSpec.Complete observed.cluster.defSpec := by
    rw [hcluster]
    exact ClusterSpec.complete_of_validate hvalid
  have hiff : s₂.updateCluster env observed pis = .error .nilDeref
      ↔ observed.cluster.spec.standbyConfig = none ∧ ExternalDBKept env s₂ observed :=
    updateCluster_eq_nilDeref_iff hobserved hcomplete (fresh_updateKeepersStatus hfresh hstatus)
  refine ⟨hiff, ?_⟩
  intro hsafe herror
  obtain ⟨hnone, uid, db, hdb, hexternal, -⟩ := hiff.mp herror
  have hconfigured := (configured_inductive.of_reachable hsafe).2
  have hsome := hconfigured uid ((external_updateKeepersStatus hstatus).mp ⟨db, hdb, hexternal⟩)
  rw [← hcluster, hnone] at hsome
  cases hsome

def sampleExternalSpec : ClusterSpec where
  initMode := some .pitr
  role := some .standby
  standbyConfig := some {}
  pitrConfig := some { dataRestoreCommand := "restore" }

def sampleExternalCluster : ClusterData :=
  (newClusterData (newCluster "cluster" sampleExternalSpec)).roundTrip

def sampleRestoring : ClusterData := sampleChecked 1 0 [sampleInfo 1 "k1" none] sampleExternalCluster

theorem check_returns_normally_iff_sample
    : External sampleRestoring "d"
        ∧
      ∃ (s₁ : Sentinel) (observed : ClusterData) (kihs : FinMap String KeeperInfoHistory),
        ({} : Sentinel).updateKeepersStatus 2 sampleRestoring (getKeepersInfo [sampleInfo 2 "k1" none])
            false
          = .ok (s₁, observed, kihs)
          ∧
        s₁.updateCluster (.simplest 2 1) observed ∅ ≠ .error .nilDeref := by
  have hinit : commitSystem.init sampleExternalCluster := ⟨"cluster", sampleExternalSpec, rfl⟩
  have hcommit : Commit (.check (sampleCheck 1 0 [sampleInfo 1 "k1" none])
      { lastLeadershipCount := 1 }) sampleExternalCluster sampleRestoring :=
    commit_checked (Env.fresh_simplest (by decide +kernel)) (by decide +kernel)
  have hkept : sampleRestoring.cluster.spec.standbyConfig.isSome = true := by decide +kernel
  have hreach : (commitSystem.restrict StandbyConfigDroppedSafely).Reachable sampleRestoring := by
    refine .step (.init hinit) ⟨⟨_, hcommit⟩, ?_⟩
    intro _ hdropped
    rw [hdropped] at hkept
    cases hkept
  obtain ⟨s₁, observed, kihs, hstatus, hupdate⟩ := check_returns_normally_iff sampleRestoring
    (.step (.init hinit) ⟨_, hcommit⟩) (by decide +kernel) (.simplest 2 1)
    (Env.fresh_simplest (by decide +kernel)) {} [sampleInfo 2 "k1" none] false
  refine ⟨?_, s₁, observed, kihs, hstatus, (hupdate s₁ ∅).2 hreach⟩
  have hexternal : (sampleRestoring.dbs["d"]?).map
      (fun db => FollowConfig.isExternal db.spec.followConfig) = some true := by
    decide +kernel
  exact Option.map_eq_some_iff.mp hexternal

def samplePromoted : ClusterData :=
  commanded 2
    (.updateClusterSpecification
      { sampleExternalSpec with role := some .master, standbyConfig := none })
    sampleRestoring

theorem check_dereferences_nil
    : ∃ (cd : ClusterData) (env : Env) (s s₁ : Sentinel) (observed : ClusterData)
        (kihs : FinMap String KeeperInfoHistory),
        commitSystem.Reachable cd
          ∧
        cd.cluster.spec.validate = .ok ()
          ∧
        env.Fresh cd.dbs
          ∧
        s.updateKeepersStatus env.now cd (sampleCheck 3 1 [sampleInfo 3 "k1" none]).keepersInfo false
          = .ok (s₁, observed, kihs)
          ∧
        s₁.updateCluster env observed ∅ = .error .nilDeref := by
  have hreach : commitSystem.Reachable samplePromoted :=
    reachable_commanded (reachable_sampleChecked (by decide +kernel)
      (.init ⟨"cluster", sampleExternalSpec, rfl⟩))
  have hrun : (({} : Sentinel).updateKeepersStatus 3 samplePromoted
      (sampleCheck 3 1 [sampleInfo 3 "k1" none]).keepersInfo false).toOption.map
        (fun r => (r.1.updateCluster (.simplest 3 1) r.2.1 ∅).getError?)
        = some (some .nilDeref) := by
    decide +kernel
  obtain ⟨⟨s₁, observed, kihs⟩, hstatus, hnil⟩ := Except.exists_ok_of_toOption_map hrun
  exact ⟨samplePromoted, .simplest 3 1, {}, s₁, observed, kihs, hreach, by decide +kernel,
    Env.fresh_simplest (by decide +kernel), hstatus, Except.getError?_eq_some_iff.mp hnil⟩

end Runs

end Sentinel
end Hysteron
