import Hysteron.Safety.Origins
import Hysteron.Safety.NilSafety

/-!
The master of a standby cluster is itself a standby of an external primary. The database that starts
a cluster from an existing instance is the exception: it is a master whatever the role of the
cluster is.
-/

namespace Hysteron

def StandbyConfig.settings (config : StandbyConfig)
    : Option StandbySettings × Option ArchiveRecoverySettings :=
  (config.standbySettings, config.archiveRecoverySettings)

structure DBSpec.FollowsExternal (clusterSpec : DefSpec) (spec : DBSpec) : Prop where
  role : spec.role = .standby
  followConfig : ∃ (followConfig : FollowConfig) (standbyConfig : StandbyConfig),
    spec.followConfig = some followConfig
      ∧
    followConfig.type = .external
      ∧
    clusterSpec.standbyConfig = some standbyConfig
      ∧
    followConfig.standbySettings = standbyConfig.standbySettings
      ∧
    followConfig.archiveRecoverySettings = standbyConfig.archiveRecoverySettings

theorem DBSpec.FollowsExternal.of_settings {clusterSpec clusterSpec' : DefSpec}
    {spec spec' : DBSpec} (h : spec.FollowsExternal clusterSpec) (hrole : spec'.role = spec.role)
    (hfollow : spec'.followConfig = spec.followConfig)
    (hsettings : clusterSpec'.standbyConfig.map StandbyConfig.settings
      = clusterSpec.standbyConfig.map StandbyConfig.settings)
    : spec'.FollowsExternal clusterSpec' := by
  obtain ⟨followConfig, standbyConfig, hconfig, htype, hstandby, hstream, harchive⟩ :=
    h.followConfig
  refine ⟨hrole.trans h.role, ?_⟩
  rw [hstandby, Option.map_some, Option.map_eq_some_iff] at hsettings
  obtain ⟨standbyConfig', hstandby', hsettings⟩ := hsettings
  simp only [StandbyConfig.settings, Prod.mk.injEq] at hsettings
  exact ⟨followConfig, standbyConfig', hfollow.trans hconfig, htype, hstandby',
    hstream.trans hsettings.1.symm, harchive.trans hsettings.2.symm⟩

namespace ClusterData

def StandbyMaster (cd : ClusterData) : Prop :=
  cd.cluster.defSpec.role = .standby → ∀ (masterDB : DB),
    cd.dbs[cd.cluster.status.master]? = some masterDB → masterDB.spec.role = .standby

def StandbyLed (cd : ClusterData) : Prop :=
  cd.cluster.defSpec.role = .standby → ∀ (masterDB : DB),
    cd.dbs[cd.cluster.status.master]? = some masterDB →
      masterDB.spec.FollowsExternal cd.cluster.defSpec

theorem StandbyLed.master {cd : ClusterData} (h : cd.StandbyLed) : cd.StandbyMaster :=
  fun hrole masterDB hmaster => (h hrole masterDB hmaster).role

end ClusterData

structure DefSpec.Restores (spec : DefSpec) : Prop where
  complete : ClusterSpec.Complete spec
  mode : spec.role = .standby → spec.initMode = some .pitr

theorem ClusterSpec.pitr_of_standby {spec : ClusterSpec} (h : spec.validate = .ok ())
    (hrole : spec.withDefaults.role = .standby)
    (hmode : spec.withDefaults.initMode ≠ some .existing)
    : spec.withDefaults.initMode = some .pitr := by
  obtain hnew | hexisting | hpitr := (complete_of_validate h).initMode
  . simp only [validate, Except.bind_eq_ok_iff, hnew] at h
    obtain ⟨_, -, _, -, _, hinit, -⟩ := h
    have hnot := reject_eq_ok hinit
    simp [hrole] at hnot
  . exact absurd hexisting hmode
  . exact hpitr

namespace Sentinel

variable {env : Env} {s s' : Sentinel} {cd base mid followed newcd : ClusterData}
variable {pis : ProxiesInfo}

theorem bootstrap_specOrigin (h : SpecOrigin cd mid)
    : mid.cluster.defSpec.initMode = cd.cluster.defSpec.initMode
        ∧
      mid.cluster.defSpec.existingConfig = cd.cluster.defSpec.existingConfig
        ∧
      mid.cluster.defSpec.role = cd.cluster.defSpec.role
        ∧
      mid.cluster.defSpec.standbyConfig = cd.cluster.defSpec.standbyConfig := by
  unfold Cluster.defSpec
  obtain heq | ⟨uid, db, -, heq⟩ := h
  . rw [heq]
    exact ⟨rfl, rfl, rfl, rfl⟩
  . rw [heq]
    exact ⟨rfl, rfl, rfl, rfl⟩

theorem restores_specOrigin (horigin : SpecOrigin cd mid) (h : cd.cluster.defSpec.Restores)
    : mid.cluster.defSpec.Restores := by
  obtain ⟨hmode, hexisting, hrole, hconfig⟩ := bootstrap_specOrigin horigin
  constructor
  case complete =>
    constructor
    . rw [hmode]
      exact h.complete.initMode
    . rw [hmode, hexisting]
      exact h.complete.existing
    . rw [hrole, hconfig]
      exact h.complete.role
  case mode =>
    rw [hmode, hrole]
    exact h.mode

section Update

theorem standbyMaster_initCase (hrestores : cd.cluster.defSpec.Restores) (h : cd.StandbyMaster)
    (hmid : InitCase env cd mid) : mid.StandbyMaster := by
  intro hrole masterDB hmaster
  rw [(bootstrap_specOrigin (specOrigin_initCase hmid)).2.2.1] at hrole
  cases hmid with
  | chosen db _ hdb =>
    simp only [addInitialMaster, Std.ExtTreeMap.getElem?_insert_self, Option.some.injEq] at hmaster
    rw [← hmaster]
    exact hdb.standby (hrestores.mode hrole) hrole
  | awaited => exact h hrole masterDB hmaster
  | completed db _ hdb =>
    simp only [completeInit, Std.ExtTreeMap.getElem?_insert_self, Option.some.injEq] at hmaster
    rw [← hmaster]
    exact h hrole db hdb
  | restarted => simp at hmaster

theorem role_confirmMasterRole {clusterSpec : DefSpec} (hrole : clusterSpec.role = .standby)
    (masterDB : DB) : (confirmMasterRole clusterSpec masterDB).spec.role = masterDB.spec.role := by
  unfold confirmMasterRole
  rw [if_neg (by simp [hrole])]

theorem standbyMaster_normalCase {wanted : String} (hsound : cd.Sound)
    (hphase : cd.cluster.status.phase = .normal) (hfresh : env.Fresh cd.dbs)
    (hbase : Base env.now cd base) (h : cd.StandbyMaster)
    (hmid : NormalCase env cd base pis wanted mid) : mid.StandbyMaster := by
  intro hrole masterDB' hmaster'
  have hspec : mid.cluster.defSpec = base.cluster.defSpec :=
    congrArg ClusterSpec.withDefaults (normalCase_spec hmid)
  have hspec' : base.cluster.defSpec = cd.cluster.defSpec :=
    congrArg ClusterSpec.withDefaults hbase.spec
  rw [hspec] at hrole
  -- The old master once its role has been confirmed.
  have hconfirm (masterDB : DB) (hmaster : base.dbs[cd.cluster.status.master]? = some masterDB)
      : (confirmMasterRole base.cluster.defSpec masterDB).spec.role = .standby := by
    rw [role_confirmMasterRole hrole]
    rw [hbase.dbs] at hmaster
    exact h (hspec' ▸ hrole) masterDB hmaster
  cases hmid with
  | promoted _ oldMasterDB newMasterDB role followConfig _ hne hpromotion =>
    rw [hpromotion.cluster, hpromotion.getElem?_dbs, if_pos rfl, Option.some.injEq] at hmaster'
    rw [← hmaster']
    obtain hmaster | hstandby := masterRole_cases hpromotion.masterRole
    . exact absurd hrole hmaster.1
    . simp [promoted, hstandby.1]
  | kept masterDB hmaster =>
    change (confirmMaster base cd.cluster.status.master masterDB pis).dbs[
      base.cluster.status.master]? = some masterDB' at hmaster'
    rw [hbase.master, getElem?_confirmMaster, if_pos rfl, Option.some.injEq] at hmaster'
    rw [← hmaster']
    exact hconfirm masterDB hmaster
  | reconciled masterDB curMasterDB s s' _ hmaster hcur _ hreconcile =>
    rw [reconcileStandbys_cluster hreconcile] at hmaster'
    change mid.dbs[base.cluster.status.master]? = some masterDB' at hmaster'
    obtain ⟨confirmed, hconfirmed, -, -⟩ := sound_confirmMaster hsound hphase hbase hmaster
    obtain ⟨cd₁, good, best, -, hsetup⟩ :=
      (reconciled_confirmMaster hsound hphase hfresh hbase hmaster hcur hreconcile).master
    rw [hbase.master, hsetup, hconfirmed, Option.map_some, Option.some.injEq] at hmaster'
    rw [getElem?_confirmMaster, if_pos rfl, Option.some.injEq] at hconfirmed
    have hsame : SameButSync confirmed (setupSynchronousStandbys env cd₁ good best confirmed) :=
      setupSynchronousStandbys_same good best
    rw [← hmaster', hsame.role, ← hconfirmed]
    exact hconfirm masterDB hmaster

theorem standbyMaster_updateFollowers {curMasterDBUID wanted : String}
    (hfollow : updateFollowers mid curMasterDBUID wanted = .ok followed) (h : mid.StandbyMaster)
    : followed.StandbyMaster := by
  obtain ⟨oldMasterDB, followers, hold, rfl⟩ := updateFollowers_cases hfollow
  intro hrole masterDB hmaster
  rw [Std.ExtTreeMap.getElem?_insert] at hmaster
  split at hmaster
  . next heq =>
    rw [compare_eq_iff_eq] at heq
    cases hmaster
    rw [heq] at hold
    exact h hrole oldMasterDB hold
  . exact h hrole masterDB hmaster

theorem followsExternal_finishSpec {db : DB} {standbyConfig : StandbyConfig}
    (hrole : db.spec.role = .standby) (hline : db.spec.type = some .primaryLine)
    (hconfig : mid.cluster.defSpec.standbyConfig = some standbyConfig)
    : (finishSpec mid db).FollowsExternal mid.cluster.defSpec := by
  constructor
  case role => simp [finishSpec, hrole]
  case followConfig =>
    cases hfollow : db.spec.followConfig with
    | none => simp [DBSpec.type, hrole, hfollow, FollowConfig.isExternal] at hline
    | some followConfig =>
      have htype : followConfig.type = .external := by
        by_contra hne
        simp [DBSpec.type, hrole, hfollow, FollowConfig.isExternal, hne] at hline
      unfold finishSpec
      rw [dbSpecFromClusterSpec_followConfig]
      unfold commonDBSpec
      simp only [hconfig, hfollow, if_pos htype]
      exact ⟨_, standbyConfig, rfl, htype, rfl, rfl, rfl⟩

theorem standbyLed_finished (hfinished : Finished cd mid newcd) (hsound : mid.Sound)
    (hrestores : mid.cluster.defSpec.Restores) (h : mid.StandbyMaster) : newcd.StandbyLed := by
  intro hrole masterDB hmaster
  obtain ⟨orphans, hdb⟩ := hfinished.getElem?_dbs newcd.cluster.status.master
  rw [hmaster] at hdb
  obtain ⟨midDB, hmidDB, rfl⟩ := Option.map_eq_some_iff.mp hdb.symm
  rw [hfinished.cluster] at hrole hmidDB ⊢
  obtain hmasterRole | ⟨-, hconfig⟩ := hrestores.complete.role
  . rw [hrole] at hmasterRole
    cases hmasterRole
  . obtain ⟨standbyConfig, hconfig⟩ := Option.isSome_iff_exists.mp hconfig
    exact followsExternal_finishSpec (h hrole midDB hmidDB) (hsound.type_master hmidDB) hconfig

theorem standbyLed_updateCluster (hsound : cd.Sound) (hfresh : env.Fresh cd.dbs)
    (hrestores : cd.cluster.defSpec.Restores) (h : cd.StandbyMaster)
    (hrun : s.updateCluster env cd pis = .ok (s', newcd))
    : newcd = cd ∨ (newcd.cluster.defSpec.Restores ∧ newcd.StandbyLed) := by
  -- Both phases end in the same way.
  have hend {mid : ClusterData} (hmid : mid.Sound) (horigin : SpecOrigin cd mid)
      (hmaster : mid.StandbyMaster) (hfinish : finishUpdate env.now cd mid = .ok newcd)
      : newcd.cluster.defSpec.Restores ∧ newcd.StandbyLed := by
    have hfinished := finishUpdate_finished hfinish
    have hrestores' := restores_specOrigin horigin hrestores
    refine ⟨?_, standbyLed_finished hfinished hmid hrestores' hmaster⟩
    rw [hfinished.cluster]
    exact hrestores'
  cases updateCluster_cases hrun with
  | paused _ heq => exact .inl heq
  | initializing hphase mid hmid hfinish =>
    exact .inr (hend (sound_initCase hsound hphase hfresh hmid) (specOrigin_initCase hmid)
      (standbyMaster_initCase hrestores h hmid) hfinish)
  | normal hphase base mid followed wanted _ hbase hmid hfollow hfinish =>
    have hmidSound := sound_normalCase hsound hphase hfresh hbase hmid
    have hspec : followed.cluster.spec = cd.cluster.spec := by
      rw [updateFollowers_cluster hfollow, normalCase_spec hmid, hbase.spec]
    exact .inr (hend (hmidSound.of_derived (derived_updateFollowers hmidSound.assigned hfollow))
      (.inl hspec) (standbyMaster_updateFollowers hfollow
        (standbyMaster_normalCase hsound hphase hfresh hbase h hmid)) hfinish)

end Update

end Sentinel

section Runs

variable {cd cd' : ClusterData}

structure SameStandbyMaster (cd cd' : ClusterData) : Prop where
  role : cd'.cluster.defSpec.role = .standby → cd.cluster.defSpec.role = .standby
  master : cd'.cluster.defSpec.role = .standby → ∀ (masterDB' : DB),
    cd'.dbs[cd'.cluster.status.master]? = some masterDB' →
      ∃ (masterDB : DB),
        cd.dbs[cd.cluster.status.master]? = some masterDB
          ∧
        masterDB'.spec.role = masterDB.spec.role
          ∧
        masterDB'.spec.followConfig = masterDB.spec.followConfig

theorem SameStandbyMaster.standbyMaster (hsame : SameStandbyMaster cd cd') (h : cd.StandbyMaster)
    : cd'.StandbyMaster := by
  intro hrole masterDB' hmaster'
  obtain ⟨masterDB, hmaster, hsameRole, -⟩ := hsame.master hrole masterDB' hmaster'
  exact hsameRole.trans (h (hsame.role hrole) masterDB hmaster)

theorem SameStandbyMaster.standbyLed (hsame : SameStandbyMaster cd cd')
    (hsettings : cd'.cluster.defSpec.role = .standby → cd.cluster.status.master ∈ cd.dbs →
      cd'.cluster.defSpec.standbyConfig.map StandbyConfig.settings
        = cd.cluster.defSpec.standbyConfig.map StandbyConfig.settings)
    (h : cd.StandbyLed) : cd'.StandbyLed := by
  intro hrole masterDB' hmaster'
  obtain ⟨masterDB, hmaster, hsameRole, hfollow⟩ := hsame.master hrole masterDB' hmaster'
  refine (h (hsame.role hrole) masterDB hmaster).of_settings hsameRole hfollow (hsettings hrole ?_)
  rw [Std.ExtTreeMap.mem_iff_isSome_getElem?, hmaster]
  rfl

theorem sameStandbyMaster_roundTrip (cd : ClusterData) : SameStandbyMaster cd cd.roundTrip where
  role := id
  master := by
    intro _ masterDB' hmaster'
    obtain ⟨masterDB, hmaster, rfl⟩ := getElem?_roundTrip hmaster'
    exact ⟨masterDB, hmaster, rfl, rfl⟩

theorem DefSpec.Restores.roundTrip {spec : ClusterSpec} (h : spec.withDefaults.Restores)
    : spec.roundTrip.withDefaults.Restores :=
  ⟨⟨h.complete.initMode, h.complete.existing, h.complete.role⟩, h.mode⟩

theorem sameStandbyMaster_updateKeepersStatus {s s' : Sentinel} {now : Time}
    {keepersInfo : KeepersInfo} {firstRun : Bool} {kihs : FinMap String KeeperInfoHistory}
    (hrun : s.updateKeepersStatus now cd keepersInfo firstRun = .ok (s', cd', kihs))
    : SameStandbyMaster cd cd' := by
  have hcluster := Sentinel.updateKeepersStatus_cluster hrun
  constructor
  case role =>
    rw [hcluster]
    exact id
  case master =>
    intro _ masterDB' hmaster'
    obtain ⟨masterDB, hmaster, -, hspec⟩ := Sentinel.updateKeepersStatus_db_origin hrun hmaster'
    rw [hcluster] at hmaster
    exact ⟨masterDB, hmaster, by rw [hspec], by rw [hspec]⟩

section Commands

variable {now : Time} {c : Operations.Command}

theorem Operations.Effect.standby_of_standby (heffect : Effect cd c cd')
    (h : cd.cluster.defSpec.Restores) (hrole : cd'.cluster.defSpec.role = .standby)
    : cd.cluster.defSpec.role = .standby := by
  cases heffect with
  | status | resync | failed => exact hrole
  | removed _ _ _ hremoved =>
    rw [hremoved.cluster] at hrole
    exact hrole
  | spec nextSpec hupdate =>
    obtain hmaster | ⟨hstandby, -⟩ := h.complete.role
    . exact absurd hrole (hupdate.role hmaster)
    . exact hstandby
  | promoted => cases hrole

theorem sameStandbyMaster_command (heffect : Operations.Effect cd c cd')
    (h : cd.cluster.defSpec.Restores) : SameStandbyMaster cd cd' where
  role := heffect.standby_of_standby h
  master := fun _ masterDB' hmaster' => ⟨masterDB', heffect.getElem?_master hmaster', rfl, rfl⟩

theorem restores_command (heffect : Operations.Effect cd c cd') (h : cd.cluster.defSpec.Restores)
    : cd'.cluster.defSpec.Restores := by
  have hstandby := heffect.standby_of_standby h
  cases heffect with
  | status => exact h
  | resync => exact h
  | failed => exact h
  | removed _ _ _ hremoved =>
    rw [hremoved.cluster]
    exact h
  | spec nextSpec hupdate =>
    exact ⟨ClusterSpec.complete_of_validate hupdate.valid,
      fun hrole => hupdate.initMode.trans (h.mode (hstandby hrole))⟩
  | promoted =>
    exact ⟨⟨h.complete.initMode, h.complete.existing, .inl rfl⟩,
      fun hrole => h.mode (hstandby hrole)⟩

end Commands

def Writer.KeepsStandbySettings (cd : ClusterData) : Writer → Prop
  | .command _ (.updateClusterSpecification nextSpec) =>
    nextSpec.withDefaults.role = .standby → cd.cluster.status.master ∈ cd.dbs →
      nextSpec.withDefaults.standbyConfig.map StandbyConfig.settings
        =
      cd.cluster.defSpec.standbyConfig.map StandbyConfig.settings
  | _ => True

theorem settings_command {now : Time} {c : Operations.Command}
    (heffect : Operations.Effect cd c cd')
    (hkeeps : Writer.KeepsStandbySettings cd (.command now c))
    (hrole : cd'.cluster.defSpec.role = .standby) (hmem : cd.cluster.status.master ∈ cd.dbs)
    : cd'.cluster.defSpec.standbyConfig.map StandbyConfig.settings
        =
      cd.cluster.defSpec.standbyConfig.map StandbyConfig.settings := by
  cases heffect with
  | status | promoted | resync | failed => rfl
  | removed _ _ _ hremoved => rw [hremoved.cluster]
  | spec nextSpec _ => exact hkeeps hrole hmem

def standbySystem (guard : ClusterData → Writer → Prop) : TransitionSystem ClusterData where
  init cd := ∃ (uid : String) (spec : ClusterSpec),
    spec.validate = .ok ()
      ∧
    ¬ (spec.withDefaults.initMode = some .existing ∧ spec.withDefaults.role = .standby)
      ∧
    cd = (newClusterData (newCluster uid spec)).roundTrip
  step cd cd' := ∃ (w : Writer), guard cd w ∧ Commit w cd cd'

structure ClusterData.StandbyInvariant (cd : ClusterData) : Prop where
  sound : cd.Sound
  restores : cd.cluster.defSpec.Restores
  master : cd.StandbyMaster

theorem standbyInvariant_commit {w : Writer} (h : cd.StandbyInvariant) (hcommit : Commit w cd cd')
    : cd'.StandbyInvariant
        ∧
      (w.KeepsStandbySettings cd → cd.StandbyLed → cd'.StandbyLed) := by
  have hsound' := sound_commit h.sound hcommit
  cases hcommit with
  | @command now c _ next hrun =>
    have heffect := Operations.command_effect c h.sound.assigned hrun
    have hsame := sameStandbyMaster_command heffect h.restores
    have hstored := sameStandbyMaster_roundTrip next
    refine ⟨⟨hsound', (restores_command heffect h.restores).roundTrip,
      hstored.standbyMaster (hsame.standbyMaster h.master)⟩, ?_⟩
    intro hkeeps hled
    exact hstored.standbyLed (fun _ _ => rfl)
      (hsame.standbyLed (settings_command heffect hkeeps) hled)
  | @check inp s _ next hfresh hcheck =>
    obtain ⟨-, s₁, s₂, s₃, s₄, firstRun, observed, kihs, pis, hstatus, hupdate⟩ :=
      Sentinel.clusterSentinelCheck_cases hcheck
    have hcluster := Sentinel.updateKeepersStatus_cluster hstatus
    have hsame := sameStandbyMaster_updateKeepersStatus hstatus
    have hstored := sameStandbyMaster_roundTrip next
    have hsound : observed.Sound :=
      sound_clusterStep h.sound (.updateKeepersStatus s₁ s₂ _ _ firstRun kihs hstatus)
    have hrestores : observed.cluster.defSpec.Restores := by
      rw [hcluster]
      exact h.restores
    have hmaster := hsame.standbyMaster h.master
    obtain rfl | ⟨hrestores', hled'⟩ := Sentinel.standbyLed_updateCluster hsound
      (Sentinel.fresh_updateKeepersStatus hfresh hstatus) hrestores hmaster hupdate
    . refine ⟨⟨hsound', hrestores.roundTrip, hstored.standbyMaster hmaster⟩, ?_⟩
      intro _ hled
      exact hstored.standbyLed (fun _ _ => rfl)
        (hsame.standbyLed (fun _ _ => by rw [hcluster]) hled)
    . exact ⟨⟨hsound', hrestores'.roundTrip, hstored.standbyMaster hled'.master⟩,
        fun _ _ => hstored.standbyLed (fun _ _ => rfl) hled'⟩

theorem standbyInvariant_init {guard : ClusterData → Writer → Prop}
    (h : (standbySystem guard).init cd) : cd.StandbyInvariant ∧ cd.StandbyLed := by
  obtain ⟨uid, spec, hvalid, hmode, rfl⟩ := h
  have hrestores : spec.withDefaults.Restores := by
    refine ⟨ClusterSpec.complete_of_validate hvalid, ?_⟩
    intro hrole
    exact ClusterSpec.pitr_of_standby hvalid hrole (fun hexisting => hmode ⟨hexisting, hrole⟩)
  rw [roundTrip_newClusterData]
  have hled : (newClusterData (newCluster uid spec.roundTrip)).StandbyLed := by
    intro _ masterDB hmaster
    simp [newClusterData] at hmaster
  exact ⟨⟨sound_newClusterData uid spec.roundTrip, hrestores.roundTrip, hled.master⟩, hled⟩

theorem standbyInvariant_inductive (guard : ClusterData → Writer → Prop)
    : (standbySystem guard).Inductive ClusterData.StandbyInvariant where
  init := fun _ hinit => (standbyInvariant_init hinit).1
  step := fun _ _ h ⟨_, _, hcommit⟩ => (standbyInvariant_commit h hcommit).1

theorem standbyLed_inductive
    : (standbySystem (fun cd w => w.KeepsStandbySettings cd)).Inductive
        (fun cd => cd.StandbyInvariant ∧ cd.StandbyLed) where
  init := fun _ hinit => standbyInvariant_init hinit
  step := by
    rintro cd cd' ⟨h, hled⟩ ⟨w, hkeeps, hcommit⟩
    obtain ⟨h', hled'⟩ := standbyInvariant_commit h hcommit
    exact ⟨h', hled' hkeeps hled⟩

/--
A standby cluster that is not created on an existing instance never has a writable master. In every
committed version the master follows an external primary, which is the one that the spec names as
long as no spec update changes the settings while there is a master.
-/
theorem standby_cluster_led (cd : ClusterData)
    : ((standbySystem (fun _ _ => True)).Reachable cd → cd.cluster.defSpec.role = .standby →
        ∀ (masterDB : DB), cd.dbs[cd.cluster.status.master]? = some masterDB →
          masterDB.spec.role = .standby
            ∧
          FollowConfig.isExternal masterDB.spec.followConfig = true)
        ∧
      ((standbySystem (fun cd w => w.KeepsStandbySettings cd)).Reachable cd → cd.StandbyLed) := by
  constructor
  . intro h hrole masterDB hmaster
    have hinv := (standbyInvariant_inductive _).of_reachable h
    have hstandby := hinv.master hrole masterDB hmaster
    have hline := hinv.sound.type_master hmaster
    refine ⟨hstandby, ?_⟩
    by_contra hinternal
    simp [DBSpec.type, hstandby, hinternal] at hline
  . exact fun h => (standbyLed_inductive.of_reachable h).2

def sampleStandbySpec (initMode : ClusterInitMode) : ClusterSpec where
  initMode := some initMode
  role := some .standby
  existingConfig := some { keeperUID := "k1" }
  pitrConfig := some { dataRestoreCommand := "restore" }
  standbyConfig := some { standbySettings := some { primaryConninfo := "host=primary" } }

def sampleStandbyCluster (initMode : ClusterInitMode) : ClusterData :=
  sampleChecked 1 0 [sampleInfo 1 "k1" none, sampleInfo 1 "k2" none]
    (newClusterData (newCluster "cluster" (sampleStandbySpec initMode))).roundTrip

theorem standby_cluster_led_sample
    : (sampleStandbyCluster .pitr).cluster.defSpec.role = .standby
        ∧
      (sampleStandbyCluster .pitr).cluster.status.master ∈ (sampleStandbyCluster .pitr).dbs
        ∧
      (sampleStandbyCluster .pitr).StandbyLed := by
  refine ⟨by decide +kernel, by decide +kernel, (standby_cluster_led _).2 ?_⟩
  exact .step (.init ⟨"cluster", sampleStandbySpec .pitr, by decide, by decide, rfl⟩)
    ⟨.check _ _, trivial,
      commit_checked (Env.fresh_simplest (by decide +kernel)) (by decide +kernel)⟩

/--
The first check of a standby cluster on an existing instance makes that instance a master.
-/
theorem existing_standby_writable
    : (sampleStandbySpec .existing).validate = .ok ()
        ∧
      commitSystem.Reachable (sampleStandbyCluster .existing)
        ∧
      (sampleStandbyCluster .existing).cluster.defSpec.role = .standby
        ∧
      (sampleStandbyCluster .existing).dbs[
          (sampleStandbyCluster .existing).cluster.status.master]?.map
            (fun db => (db.spec.role, db.spec.followConfig))
        = some (.master, none)
        ∧
      ¬ (sampleStandbyCluster .existing).StandbyLed := by
  have hrole : (sampleStandbyCluster .existing).cluster.defSpec.role = .standby := by
    decide +kernel
  have hmaster : (sampleStandbyCluster .existing).dbs[
        (sampleStandbyCluster .existing).cluster.status.master]?.map
          (fun db => (db.spec.role, db.spec.followConfig))
      = some (.master, none) := by
    decide +kernel
  refine ⟨by decide, ?_, hrole, hmaster, ?_⟩
  . exact reachable_sampleChecked (by decide +kernel)
      (.init ⟨"cluster", sampleStandbySpec .existing, rfl⟩)
  . intro h
    obtain ⟨masterDB, hdb, heq⟩ := Option.map_eq_some_iff.mp hmaster
    have hstandby := (h hrole masterDB hdb).role
    rw [Prod.mk.injEq, hstandby] at heq
    cases heq.1

end Runs

end Hysteron
