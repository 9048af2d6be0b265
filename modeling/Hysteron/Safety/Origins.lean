import Hysteron.Safety.Commits

/-!
Where the databases and the keepers come from that an update computes: from the cluster data before
it, with the generation, the keeper and the healthiness they had there, or they are new. The same
then holds for what is committed.
-/

namespace Hysteron
namespace Sentinel

variable {env : Env} {s s' : Sentinel} {cd newcd base mid followed : ClusterData}
variable {pis : ProxiesInfo} {uid : String} {db db' : DB}

structure Inherits (db db' : DB) : Prop where
  generation : db'.generation = db.generation
  keeperUID : db'.spec.keeperUID = db.spec.keeperUID
  healthy : db'.status.healthy = db.status.healthy
  initMode : db'.spec.initMode = db.spec.initMode ∨ db'.spec.initMode = .none

theorem Inherits.refl (db : DB) : Inherits db db := ⟨rfl, rfl, rfl, .inl rfl⟩

theorem Inherits.trans {db₁ db₂ db₃ : DB} (h : Inherits db₁ db₂) (h' : Inherits db₂ db₃)
    : Inherits db₁ db₃ where
  generation := h'.generation.trans h.generation
  keeperUID := h'.keeperUID.trans h.keeperUID
  healthy := h'.healthy.trans h.healthy
  initMode := by
    rcases h'.initMode with hsame | hnone
    . rw [hsame]
      exact h.initMode
    . exact .inr hnone

structure Created (env : Env) (cd : ClusterData) (uid : String) (db : DB) : Prop where
  uid : ∃ (n : Nat), uid = env.uidFn n
  generation : db.generation = initialGeneration
  initMode : cd.cluster.status.phase = .normal → db.spec.initMode = .resync

def Origins (env : Env) (cd mid : ClusterData) : Prop :=
  ∀ (uid : String) (db' : DB), mid.dbs[uid]? = some db' →
    (∃ (db : DB), cd.dbs[uid]? = some db ∧ Inherits db db')
      ∨
    Created env cd uid db'

theorem origins_initCase (hphase : cd.cluster.status.phase = .initializing)
    (h : InitCase env cd mid) : Origins env cd mid := by
  intro uid db' hdb'
  cases h with
  | chosen db _ hdb =>
    simp only [addInitialMaster, Std.ExtTreeMap.getElem?_insert, compare_eq_iff_eq] at hdb'
    split at hdb'
    . next heq =>
      cases hdb'
      refine .inr ⟨⟨0, by rw [← heq, hdb.uid]⟩, hdb.generation, ?_⟩
      intro hnormal
      rw [hphase] at hnormal
      cases hnormal
    . exact .inl ⟨db', hdb', .refl db'⟩
  | awaited => exact .inl ⟨db', hdb', .refl db'⟩
  | completed db _ hdb =>
    simp only [completeInit, Std.ExtTreeMap.getElem?_insert, compare_eq_iff_eq] at hdb'
    split at hdb'
    . next heq =>
      cases hdb'
      exact .inl ⟨db, heq ▸ hdb, rfl, rfl, rfl, .inr rfl⟩
    . exact .inl ⟨db', hdb', .refl db'⟩
  | restarted => simp at hdb'

theorem inherits_confirmMasterRole (clusterSpec : DefSpec) (masterDB : DB)
    : Inherits masterDB (confirmMasterRole clusterSpec masterDB) := by
  unfold confirmMasterRole
  split
  . exact ⟨rfl, rfl, rfl, .inl rfl⟩
  . exact .refl masterDB

theorem confirmMaster_inherits {masterDBUID : String} {masterDB : DB} (hbase : base.dbs = cd.dbs)
    (hmaster : base.dbs[masterDBUID]? = some masterDB)
    (hdb' : (confirmMaster base masterDBUID masterDB pis).dbs[uid]? = some db')
    : ∃ (db : DB), cd.dbs[uid]? = some db ∧ Inherits db db' := by
  rw [getElem?_confirmMaster] at hdb'
  split at hdb'
  . next heq =>
    cases hdb'
    exact ⟨masterDB, by rw [heq, ← hbase]; exact hmaster, inherits_confirmMasterRole _ _⟩
  . exact ⟨db', hbase ▸ hdb', .refl db'⟩

theorem origins_normalCase {wanted : String} (h : cd.Sound)
    (hphase : cd.cluster.status.phase = .normal) (hfresh : env.Fresh cd.dbs)
    (hbase : Base env.now cd base) (hmid : NormalCase env cd base pis wanted mid)
    : Origins env cd mid := by
  cases hmid with
  | promoted _ oldMasterDB newMasterDB role followConfig _ hne hpromotion =>
    intro uid db' hdb'
    rw [hpromotion.getElem?_dbs] at hdb'
    split at hdb'
    . next heq =>
      cases hdb'
      refine .inl ⟨newMasterDB, by rw [heq, ← hbase.dbs]; exact hpromotion.new, rfl, ?_, rfl, ?_⟩
      . simp [promoted]
      . simp [promoted]
    . split at hdb'
      . next heq =>
        cases hdb'
        exact .inl ⟨oldMasterDB, by rw [heq, ← hbase.dbs]; exact hpromotion.old, rfl, rfl, rfl,
          .inl rfl⟩
      . exact .inl ⟨db', hbase.dbs ▸ hdb', .refl db'⟩
  | kept masterDB hmaster =>
    exact fun uid db' hdb' => .inl (confirmMaster_inherits hbase.dbs hmaster hdb')
  | reconciled masterDB curMasterDB s₁ s₂ _ hmaster hcur _ hreconcile =>
    have hrec := reconciled_confirmMaster h hphase hfresh hbase hmaster hcur hreconcile
    -- What reconciling makes of a confirmed database.
    have hold {uid : String} {db db' : DB}
        (hdb : (confirmMaster base cd.cluster.status.master masterDB pis).dbs[uid]? = some db)
        (hinherits : Inherits db db')
        : ∃ (db₀ : DB), cd.dbs[uid]? = some db₀ ∧ Inherits db₀ db' := by
      obtain ⟨db₀, hdb₀, hconfirm⟩ := confirmMaster_inherits hbase.dbs hmaster hdb
      exact ⟨db₀, hdb₀, hconfirm.trans hinherits⟩
    intro uid db' hdb'
    by_cases heq : uid = cd.cluster.status.master
    . subst heq
      obtain ⟨cd₁, good, best, -, hsetup⟩ := hrec.master
      rw [hdb'] at hsetup
      obtain ⟨db, hdb, rfl⟩ := Option.map_eq_some_iff.mp hsetup.symm
      have hsame : SameButSync db (setupSynchronousStandbys env cd₁ good best db) :=
        setupSynchronousStandbys_same good best
      exact .inl (hold hdb
        ⟨hsame.generation, hsame.keeperUID, hsame.healthy, .inl hsame.initMode⟩)
    . cases hrec.standby uid db' heq hdb' with
      | inl hstandby =>
        obtain ⟨db, hdb, -, rfl | rfl⟩ := hstandby
        . exact .inl (hold hdb ⟨rfl, rfl, rfl, .inl rfl⟩)
        . exact .inl (hold hdb ⟨rfl, rfl, rfl, .inr rfl⟩)
      | inr hnew =>
        obtain ⟨n, keeper, huid, rfl⟩ := hnew
        exact .inr ⟨⟨n, huid⟩, rfl, fun _ => rfl⟩

theorem origins_updateFollowers {curMasterDBUID wantedMasterDBUID : String}
    (h : Origins env cd mid)
    (hfollow : updateFollowers mid curMasterDBUID wantedMasterDBUID = .ok followed)
    : Origins env cd followed := by
  obtain ⟨masterDB, followers, hmaster, rfl⟩ := updateFollowers_cases hfollow
  intro uid db' hdb'
  rw [Std.ExtTreeMap.getElem?_insert] at hdb'
  split at hdb'
  . next heq =>
    have heq : curMasterDBUID = uid := by simpa using heq
    cases hdb'
    have hdb : mid.dbs[uid]? = some masterDB := heq ▸ hmaster
    rcases h uid masterDB hdb with ⟨db₀, hdb₀, hold⟩ | hnew
    . exact .inl ⟨db₀, hdb₀, hold.trans ⟨rfl, rfl, rfl, .inl rfl⟩⟩
    . exact .inr ⟨hnew.uid, hnew.generation, hnew.initMode⟩
  . exact h uid db' hdb'

def SpecOrigin (cd mid : ClusterData) : Prop :=
  mid.cluster.spec = cd.cluster.spec
    ∨
  ∃ (uid : String) (db : DB),
    cd.dbs[uid]? = some db
      ∧
    mid.cluster.spec = { cd.cluster.spec with pgParameters := db.status.pgParameters }

theorem specOrigin_initCase (h : InitCase env cd mid) : SpecOrigin cd mid := by
  cases h with
  | chosen => exact .inl rfl
  | awaited => exact .inl rfl
  | restarted => exact .inl rfl
  | completed db _ hdb =>
    unfold completeInit SpecOrigin
    dsimp only
    split
    . exact .inr ⟨_, db, hdb, rfl⟩
    . exact .inl rfl

theorem updateCluster_origins (h : cd.Sound) (hfresh : env.Fresh cd.dbs)
    (hrun : s.updateCluster env cd pis = .ok (s', newcd))
    : newcd = cd
        ∨
      ∃ (mid : ClusterData),
        mid.Sound ∧ SpecOrigin cd mid ∧ Origins env cd mid ∧ Finished cd mid newcd := by
  cases updateCluster_cases hrun with
  | paused _ heq => exact .inl heq
  | initializing hphase mid hmid hfinish =>
    exact .inr ⟨mid, sound_initCase h hphase hfresh hmid, specOrigin_initCase hmid,
      origins_initCase hphase hmid, finishUpdate_finished hfinish⟩
  | normal hphase base mid followed wanted _ hbase hmid hfollow hfinish =>
    have hsound := sound_normalCase h hphase hfresh hbase hmid
    have hspec : followed.cluster.spec = cd.cluster.spec := by
      rw [updateFollowers_cluster hfollow, normalCase_spec hmid, hbase.spec]
    exact .inr ⟨followed, hsound.of_derived (derived_updateFollowers hsound.assigned hfollow),
      .inl hspec, origins_updateFollowers (origins_normalCase h hphase hfresh hbase hmid) hfollow,
      finishUpdate_finished hfinish⟩

theorem updateCluster_new (h : cd.Sound) (hfresh : env.Fresh cd.dbs)
    (hrun : s.updateCluster env cd pis = .ok (s', newcd)) (hdb : cd.dbs[uid]? = none)
    (hdb' : newcd.dbs[uid]? = some db') : ∃ (n : Nat), uid = env.uidFn n := by
  rcases updateCluster_origins h hfresh hrun with rfl | ⟨mid, -, -, horigins, hfinished⟩
  . rw [hdb] at hdb'
    cases hdb'
  . obtain ⟨orphans, heq⟩ := hfinished.getElem?_dbs uid
    rw [hdb'] at heq
    obtain ⟨midDB, hmidDB, rfl⟩ := Option.map_eq_some_iff.mp heq.symm
    rcases horigins uid midDB hmidDB with ⟨db₀, hdb₀, -⟩ | hnew
    . rw [hdb] at hdb₀
      cases hdb₀
    . exact hnew.uid

theorem updateCluster_inherits (h : cd.Sound) (hfresh : env.Fresh cd.dbs)
    (hrun : s.updateCluster env cd pis = .ok (s', newcd)) (hdb : cd.dbs[uid]? = some db)
    (hdb' : newcd.dbs[uid]? = some db')
    : db'.spec.keeperUID = db.spec.keeperUID ∧ db'.status.healthy = db.status.healthy := by
  rcases updateCluster_origins h hfresh hrun with rfl | ⟨mid, -, -, horigins, hfinished⟩
  . rw [hdb] at hdb'
    cases hdb'
    exact ⟨rfl, rfl⟩
  . obtain ⟨orphans, heq⟩ := hfinished.getElem?_dbs uid
    rw [hdb'] at heq
    obtain ⟨midDB, hmidDB, rfl⟩ := Option.map_eq_some_iff.mp heq.symm
    rcases horigins uid midDB hmidDB with ⟨db₀, hdb₀, hinherits⟩ | ⟨⟨n, hnew⟩, -, -⟩
    . rw [hdb] at hdb₀
      cases hdb₀
      refine ⟨?_, hinherits.healthy⟩
      rw [← hinherits.keeperUID]
      simp [finishSpec]
    . exact absurd hnew.symm (hfresh.ne_of_getElem? hdb n)

theorem updateCluster_keepers_cases (hrun : s.updateCluster env cd pis = .ok (s', newcd))
    : newcd.keepers = cd.keepers
        ∨
      (cd.cluster.status.phase = .normal ∧ newcd.keepers = (removeOldKeepers env.now cd).keepers) := by
  cases updateCluster_cases hrun with
  | paused _ heq => exact .inl (heq ▸ rfl)
  | initializing _ mid hmid hfinish =>
    rw [(finishUpdate_finished hfinish).keepers]
    cases hmid <;> exact .inl rfl
  | normal hphase base mid followed wanted _ hbase hmid hfollow hfinish =>
    refine .inr ⟨hphase, ?_⟩
    have hkept (hkeepers : mid.keepers = base.keepers)
        : newcd.keepers = (removeOldKeepers env.now cd).keepers := by
      obtain ⟨masterDB, followers, -, rfl⟩ := updateFollowers_cases hfollow
      rw [(finishUpdate_finished hfinish).keepers, hkeepers, hbase.keepers]
    cases hmid with
    | promoted _ oldMasterDB newMasterDB role followConfig _ _ hpromotion =>
      exact hkept hpromotion.keepers
    | kept => exact hkept rfl
    | reconciled masterDB curMasterDB s₁ s₂ _ _ _ _ hreconcile =>
      have hkeepers := reconcileStandbys_keepers hreconcile
      rw [confirmMaster] at hkeepers
      exact hkept hkeepers

theorem updateCluster_keepers {k : Keeper} (hrun : s.updateCluster env cd pis = .ok (s', newcd))
    (hk : newcd.keepers[uid]? = some k) : cd.keepers[uid]? = some k := by
  rcases updateCluster_keepers_cases hrun with heq | ⟨-, heq⟩
  . exact heq ▸ hk
  . rw [heq] at hk
    exact ((FinMap.getElem?_filter_eq_some _ _ _ _).mp hk).1

theorem updateCluster_db_cases (h : cd.Sound) (hfresh : env.Fresh cd.dbs)
    (hrun : s.updateCluster env cd pis = .ok (s', newcd)) (hdb' : newcd.dbs[uid]? = some db')
    : (∃ (db : DB),
        cd.dbs[uid]? = some db
          ∧
        db'.spec.keeperUID = db.spec.keeperUID
          ∧
        db.generation ≤ db'.generation
          ∧
        (db'.spec.initMode = db.spec.initMode ∨ db'.spec.initMode = .none))
        ∨
      ((∃ (n : Nat), uid = env.uidFn n)
        ∧
      initialGeneration ≤ db'.generation
        ∧
      (cd.cluster.status.phase = .normal → db'.spec.initMode = .resync)) := by
  rcases updateCluster_origins h hfresh hrun with rfl | ⟨mid, -, -, horigins, hfinished⟩
  . exact .inl ⟨db', hdb', rfl, le_rfl, .inl rfl⟩
  . obtain ⟨orphans, heq⟩ := hfinished.getElem?_dbs uid
    rw [hdb'] at heq
    obtain ⟨midDB, hmidDB, rfl⟩ := Option.map_eq_some_iff.mp heq.symm
    have hgeneration : midDB.generation ≤ finishGeneration cd mid uid midDB := by
      unfold finishGeneration
      split
      . exact le_rfl
      . split <;> omega
    rcases horigins uid midDB hmidDB with ⟨db₀, hdb₀, hinherits⟩ | hcreated
    . refine .inl ⟨db₀, hdb₀, ?_, ?_, ?_⟩
      . rw [← hinherits.keeperUID]
        simp [finishSpec]
      . rw [← hinherits.generation]
        exact hgeneration
      . simpa [finishSpec] using hinherits.initMode
    . refine .inr ⟨hcreated.uid, ?_, ?_⟩
      . rw [← hcreated.generation]
        exact hgeneration
      . simpa [finishSpec] using hcreated.initMode

theorem updateCluster_phase (hphase : cd.cluster.status.phase = .normal)
    (h : s.updateCluster env cd pis = .ok (s', newcd)) : newcd.cluster.status.phase = .normal := by
  cases updateCluster_cases h with
  | paused _ heq =>
    rw [heq]
    exact hphase
  | initializing hinitializing =>
    rw [hphase] at hinitializing
    cases hinitializing
  | normal _ base mid followed _ _ hbase hmid hfollow hfinish =>
    rw [finishUpdate_cluster hfinish, updateFollowers_cluster hfollow]
    rw [← hphase, ← hbase.phase]
    cases hmid with
    | promoted _ _ _ _ _ _ _ hpromotion => rw [hpromotion.cluster]
    | kept => rfl
    | reconciled _ _ _ _ _ _ _ _ hreconcile =>
      rw [reconcileStandbys_cluster hreconcile]
      rfl

theorem updateCluster_completed (h : cd.Sound) (hphase : cd.cluster.status.phase = .initializing)
    (hrun : s.updateCluster env cd pis = .ok (s', newcd))
    (hphase' : newcd.cluster.status.phase = .normal) (hdb' : newcd.dbs[uid]? = some db')
    : db'.spec.initMode = .none := by
  cases updateCluster_cases hrun with
  | paused hnormal =>
    rw [hphase] at hnormal
    cases hnormal
  | normal hnormal =>
    rw [hphase] at hnormal
    cases hnormal
  | initializing _ mid hmid hfinish =>
    have hfinished := finishUpdate_finished hfinish
    rw [hfinished.cluster] at hphase'
    obtain ⟨orphans, heq⟩ := hfinished.getElem?_dbs uid
    rw [hdb'] at heq
    obtain ⟨midDB, hmidDB, rfl⟩ := Option.map_eq_some_iff.mp heq.symm
    cases hmid with
    | chosen | awaited | restarted =>
      have := hphase.symm.trans hphase'
      cases this
    | completed db _ hdb =>
      simp only [completeInit, Std.ExtTreeMap.getElem?_insert, compare_eq_iff_eq] at hmidDB
      split at hmidDB
      . cases hmidDB
        simp [finishSpec]
      . next hne => exact absurd ((h.initializing hphase).only uid midDB hmidDB).symm hne

end Sentinel

section Commits

variable {w : Writer} {cd cd' : ClusterData} {uid : String} {db db' : DB}

theorem commit_phase (hsound : cd.Sound) (hphase : cd.cluster.status.phase = .normal)
    (h : Commit w cd cd') : cd'.cluster.status.phase = .normal := by
  cases h with
  | command now c hrun =>
    exact (derived_command c hsound.assigned hrun).phase.trans hphase
  | check inp s hfresh hcheck =>
    obtain ⟨-, s₁, s₂, s₃, s₄, firstRun, observed, kihs, pis, hstatus, hupdate⟩ :=
      Sentinel.clusterSentinelCheck_cases hcheck
    apply Sentinel.updateCluster_phase ?_ hupdate
    rw [Sentinel.updateKeepersStatus_cluster hstatus]
    exact hphase

structure DB.Succeeds (db db' : DB) : Prop where
  keeperUID : db'.spec.keeperUID = db.spec.keeperUID
  generation : db.generation ≤ db'.generation
  initMode : db'.spec.initMode = db.spec.initMode
    ∨ db'.spec.initMode = .none
    ∨ db'.spec.initMode = .resync

structure DB.Starts (cd : ClusterData) (uid : String) (db : DB) : Prop where
  new : uid ∉ cd.dbs
  ne_empty : uid ≠ ""
  generation : initialGeneration ≤ db.generation
  initMode : cd.cluster.status.phase = .normal → db.spec.initMode = .resync

theorem commit_db_cases (hsound : cd.Sound) (h : Commit w cd cd') (hdb' : cd'.dbs[uid]? = some db')
    : (∃ (db : DB), cd.dbs[uid]? = some db ∧ db.Succeeds db') ∨ DB.Starts cd uid db' := by
  cases h with
  | command now c hrun =>
    obtain ⟨newDB, hnewDB, rfl⟩ := getElem?_roundTrip hdb'
    obtain ⟨db, hdb, rfl | ⟨-, -, rfl⟩⟩ :=
      (Operations.command_effect c hsound.assigned hrun).db_cases hnewDB
    . exact .inl ⟨newDB, hdb, rfl, le_rfl, .inl rfl⟩
    . exact .inl ⟨db, hdb, rfl, le_rfl, .inr (.inr rfl)⟩
  | check inp s hfresh hcheck =>
    obtain ⟨-, s₁, s₂, s₃, s₄, firstRun, observed, kihs, pis, hstatus, hupdate⟩ :=
      Sentinel.clusterSentinelCheck_cases hcheck
    have hobserved := hsound.of_derived
      (Sentinel.derived_updateKeepersStatus hsound.assigned (Sentinel.keyed_keepersInfo inp) hstatus)
    have hfresh' := Sentinel.fresh_updateKeepersStatus hfresh hstatus
    obtain ⟨newDB, hnewDB, rfl⟩ := getElem?_roundTrip hdb'
    rcases Sentinel.updateCluster_db_cases hobserved hfresh' hupdate hnewDB with hold | hnew
    . obtain ⟨observedDB, hobservedDB, hkeeper, hgeneration, hmode⟩ := hold
      obtain ⟨db, hdb, hsame, hspec⟩ :=
        Sentinel.updateKeepersStatus_db_origin hstatus hobservedDB
      rw [hspec] at hkeeper hmode
      rw [hsame] at hgeneration
      exact .inl ⟨db, hdb, hkeeper, hgeneration, hmode.imp_right .inl⟩
    . obtain ⟨⟨n, rfl⟩, hgeneration, hmode⟩ := hnew
      rw [Sentinel.updateKeepersStatus_cluster hstatus] at hmode
      exact .inr ⟨hfresh.not_mem n, hfresh.ne_empty n, hgeneration, hmode⟩

theorem commit_completed (hsound : cd.Sound) (hphase : cd.cluster.status.phase = .initializing)
    (h : Commit w cd cd') (hphase' : cd'.cluster.status.phase = .normal)
    (hdb' : cd'.dbs[uid]? = some db') : db'.spec.initMode = .none := by
  cases h with
  | command now c hrun =>
    have hsame := (derived_command c hsound.assigned hrun).phase
    rw [hphase] at hsame
    exact absurd (hphase'.symm.trans hsame) (by decide)
  | check inp s hfresh hcheck =>
    obtain ⟨-, s₁, s₂, s₃, s₄, firstRun, observed, kihs, pis, hstatus, hupdate⟩ :=
      Sentinel.clusterSentinelCheck_cases hcheck
    have hobserved := hsound.of_derived
      (Sentinel.derived_updateKeepersStatus hsound.assigned (Sentinel.keyed_keepersInfo inp) hstatus)
    obtain ⟨newDB, hnewDB, rfl⟩ := getElem?_roundTrip hdb'
    rw [← Sentinel.updateKeepersStatus_cluster hstatus] at hphase
    have hnone := Sentinel.updateCluster_completed hobserved hphase hupdate hphase' hnewDB
    exact hnone

structure ClusterData.Provisioned (cd : ClusterData) : Prop where
  ne_empty : "" ∉ cd.dbs
  generation : ∀ (uid : String) (db : DB), cd.dbs[uid]? = some db →
    initialGeneration ≤ db.generation
  initMode : cd.cluster.status.phase = .normal → ∀ (uid : String) (db : DB),
    cd.dbs[uid]? = some db → db.spec.initMode = .none ∨ db.spec.initMode = .resync

theorem provisioned_commit (hsound : cd.Sound) (hprovisioned : cd.Provisioned) (h : Commit w cd cd')
    : cd'.Provisioned where
  ne_empty := by
    intro hmem
    rw [Std.ExtTreeMap.mem_iff_isSome_getElem?] at hmem
    obtain ⟨db', hdb'⟩ := Option.isSome_iff_exists.mp hmem
    rcases commit_db_cases hsound h hdb' with ⟨db, hdb, -⟩ | hstarts
    . exact hprovisioned.ne_empty (Std.ExtTreeMap.mem_iff_isSome_getElem?.mpr (hdb ▸ rfl))
    . exact hstarts.ne_empty rfl
  generation := by
    intro uid db' hdb'
    rcases commit_db_cases hsound h hdb' with ⟨db, hdb, hsucceeds⟩ | hstarts
    . exact (hprovisioned.generation uid db hdb).trans hsucceeds.generation
    . exact hstarts.generation
  initMode := by
    intro hphase' uid db' hdb'
    rcases hsound.phase with hinitializing | hphase
    . exact .inl (commit_completed hsound hinitializing h hphase' hdb')
    . rcases commit_db_cases hsound h hdb' with ⟨db, hdb, hsucceeds⟩ | hstarts
      . rcases hsucceeds.initMode with hsame | hmode
        . rw [hsame]
          exact hprovisioned.initMode hphase uid db hdb
        . exact hmode
      . exact .inr (hstarts.initMode hphase)

theorem provisioned_of_commits (h : commitSystem.Reachable cd) : cd.Provisioned := by
  induction h with
  | init h =>
    obtain ⟨uid, spec, rfl⟩ := h
    rw [roundTrip_newClusterData]
    constructor
    . simp [newClusterData]
    . simp [newClusterData]
    . simp [newClusterData]
  | step hcd h ih =>
    obtain ⟨w, hcommit⟩ := h
    exact provisioned_commit (sound_of_commits hcd) ih hcommit

end Commits

end Hysteron
