import Hysteron.Safety.Generations
import Hysteron.Safety.MasterChange
import Hysteron.Safety.Pause
import Hysteron.Safety.ProxyGeneration
import Hysteron.Safety.ProxyHandover
import Hysteron.Safety.StandbyCluster
import Hysteron.Safety.SyncListed

/-!
What holds along every sequence of committed versions, whoever writes them.
-/

namespace Hysteron

variable {w : Writer} {cd cd' : ClusterData} {uid : String} {db db' : DB}

/-! ## Records of databases -/

theorem DB.Succeeds.refl (db : DB) : db.Succeeds db := ⟨rfl, le_rfl, .inl rfl⟩

theorem DB.Succeeds.trans {db'' : DB} (h : db.Succeeds db') (h' : db'.Succeeds db'')
    : db.Succeeds db'' where
  keeperUID := h'.keeperUID.trans h.keeperUID
  generation := h.generation.trans h'.generation
  initMode := by
    rcases h'.initMode with heq | hmode
    . rw [heq]
      exact h.initMode
    . exact .inr hmode

/--
As long as a database is in every version, it stays on its keeper, its generation does not go back,
and no version asks for another kind of initialization than a resync.
-/
theorem succeeds_of_commits (h : commitSystem.Reachable cd)
    (hrun : Relation.ReflTransGen (fun cd cd' => commitSystem.step cd cd' ∧ uid ∈ cd'.dbs) cd cd')
    (hdb : cd.dbs[uid]? = some db) (hdb' : cd'.dbs[uid]? = some db')
    : db.Succeeds db' := by
  induction hrun generalizing db' with
  | refl =>
    rw [hdb] at hdb'
    cases hdb'
    exact .refl db
  | @tail mid last hrun hstep ih =>
    obtain ⟨⟨w, hcommit⟩, -⟩ := hstep
    have hmid : commitSystem.Reachable mid :=
      h.steps (Relation.ReflTransGen.mono (fun _ _ hstep => hstep.1) _ _ hrun)
    rcases commit_db_cases (sound_of_commits hmid) hcommit hdb' with
      ⟨midDB, hmidDB, hsucceeds⟩ | hstarts
    . exact (ih hmidDB).trans hsucceeds
    . -- the version before has it as well
      exfalso
      apply hstarts.new
      cases hrun with
      | refl => exact Std.ExtTreeMap.mem_iff_isSome_getElem?.mpr (Option.isSome_of_eq_some hdb)
      | tail _ hstep => exact hstep.2

theorem phase_of_commits (h : commitSystem.Reachable cd) (hphase : cd.cluster.status.phase = .normal)
    (hrun : Relation.ReflTransGen commitSystem.step cd cd')
    : cd'.cluster.status.phase = .normal := by
  induction hrun with
  | refl => exact hphase
  | tail hrun hstep ih =>
    obtain ⟨w, hcommit⟩ := hstep
    exact commit_phase (sound_of_commits (h.steps hrun)) ih hcommit

/--
A cluster that has been initialized stays so: no version asks a keeper to set up new data other than
by a resync.
-/
theorem initialized_of_commits (h : commitSystem.Reachable cd)
    (hphase : cd.cluster.status.phase = .normal)
    (hrun : Relation.ReflTransGen commitSystem.step cd cd')
    : cd'.cluster.status.phase = .normal
        ∧
      ∀ (uid : String) (db : DB), cd'.dbs[uid]? = some db →
        db.spec.initMode = .none ∨ db.spec.initMode = .resync := by
  have hphase' := phase_of_commits h hphase hrun
  exact ⟨hphase', (provisioned_of_commits (h.steps hrun)).initMode hphase'⟩

def ClusterData.identity (cd : ClusterData) : Nat × String := (cd.formatVersion, cd.cluster.uid)

structure ClusterData.Continues (cd cd' : ClusterData) : Prop where
  identity : cd'.identity = cd.identity
  initMode : cd'.cluster.defSpec.initMode = cd.cluster.defSpec.initMode
  role : cd.cluster.defSpec.role = .master → cd'.cluster.defSpec.role = .master

theorem Sentinel.specOrigin_updateCluster {env : Env} {s s' : Sentinel} {pis : ProxiesInfo}
    (h : s.updateCluster env cd pis = .ok (s', cd')) : SpecOrigin cd cd' := by
  cases updateCluster_cases h with
  | paused _ heq => exact .inl (heq ▸ rfl)
  | initializing _ mid hmid hfinish =>
    rw [SpecOrigin, finishUpdate_cluster hfinish]
    exact specOrigin_initCase hmid
  | normal hphase => exact .inl (updateCluster_spec_of_normal hphase h)

theorem Sentinel.identity_updateCluster {env : Env} {s s' : Sentinel} {pis : ProxiesInfo}
    (h : s.updateCluster env cd pis = .ok (s', cd')) : cd'.identity = cd.identity := by
  unfold ClusterData.identity
  cases updateCluster_cases h with
  | paused _ heq => rw [heq]
  | initializing _ mid hmid hfinish =>
    have hfinished := finishUpdate_finished hfinish
    rw [hfinished.formatVersion, hfinished.cluster]
    cases hmid <;> rfl
  | normal _ base mid followed wanted _ hbase hmid hfollow hfinish =>
    have hfinished := finishUpdate_finished hfinish
    obtain ⟨masterDB, followers, -, rfl⟩ := updateFollowers_cases hfollow
    rw [hfinished.formatVersion, hfinished.cluster, ← hbase.formatVersion, ← hbase.uid]
    cases hmid with
    | promoted _ _ _ _ _ _ _ hpromotion =>
      dsimp only
      rw [hpromotion.formatVersion, hpromotion.cluster]
    | kept => rfl
    | reconciled _ _ _ _ _ _ _ _ hreconcile =>
      obtain ⟨dbs, rfl⟩ := reconcileStandbys_frame hreconcile
      rfl

theorem Sentinel.identity_updateKeepersStatus {s s' : Sentinel} {now : Time}
    {keepersInfo : KeepersInfo} {firstRun : Bool} {kihs : FinMap String KeeperInfoHistory}
    (h : s.updateKeepersStatus now cd keepersInfo firstRun = .ok (s', cd', kihs))
    : cd'.identity = cd.identity := by
  unfold ClusterData.identity
  cases firstRun with
  | true => rw [(updateKeepersStatus_firstRun h).2]
  | false => rw [(updateKeepersStatus_merged h).formatVersion, (updateKeepersStatus_merged h).cluster]

theorem continues_commit (h : commitSystem.Reachable cd) (hcommit : Commit w cd cd')
    : cd.Continues cd' := by
  have hsound := sound_of_commits h
  cases hcommit with
  | command now c hrun =>
    cases Operations.command_effect c hsound.assigned hrun with
    | status | resync | failed => exact ⟨rfl, rfl, id⟩
    | promoted => exact ⟨rfl, rfl, fun _ => rfl⟩
    | removed _ _ _ hremoved =>
      have huid := congrArg Cluster.uid hremoved.cluster
      have hmode := congrArg (fun c => c.defSpec.initMode) hremoved.cluster
      have hrole := congrArg (fun c => c.defSpec.role) hremoved.cluster
      exact ⟨Prod.ext hremoved.formatVersion huid, hmode, fun hmaster => hrole.trans hmaster⟩
    | spec nextSpec hupdate =>
      refine ⟨rfl, hupdate.initMode, ?_⟩
      intro hmaster
      rcases (ClusterSpec.complete_of_validate hupdate.valid).role with hrole | ⟨hrole, -⟩
      . exact hrole
      . exact absurd hrole (hupdate.role hmaster)
  | @check inp s _ newcd hfresh hcheck =>
    obtain ⟨merged, observed, kihs, hcompleted⟩ :=
      Sentinel.clusterSentinelCheck_completed (Prod.ext rfl hcheck)
    obtain ⟨s', hupdate⟩ := hcompleted.update
    obtain ⟨hmode, -, hrole, -⟩ :=
      Sentinel.bootstrap_specOrigin (Sentinel.specOrigin_updateCluster hupdate)
    rw [Sentinel.updateKeepersStatus_cluster hcompleted.merge] at hmode hrole
    have hidentity := (Sentinel.identity_updateCluster hupdate).trans
      (Sentinel.identity_updateKeepersStatus hcompleted.merge)
    exact ⟨hidentity, hmode, fun hmaster => hrole.trans hmaster⟩

/--
No sequence of checks and commands changes the UID or the init mode of a cluster or turns one whose
role is master into a standby cluster.
-/
theorem continues_of_commits (h : commitSystem.Reachable cd)
    (hrun : Relation.ReflTransGen commitSystem.step cd cd') : cd.Continues cd' := by
  induction hrun with
  | refl => exact ⟨rfl, rfl, id⟩
  | tail hrun hstep ih =>
    obtain ⟨w, hcommit⟩ := hstep
    have hnext := continues_commit (h.steps hrun) hcommit
    exact ⟨hnext.identity.trans ih.identity, hnext.initMode.trans ih.initMode,
      fun hmaster => hnext.role (ih.role hmaster)⟩

/-! ## Changes of the master -/

/--
Only a check changes the master, and only while the cluster is not paused. It moves it to the keeper
that a manual switch asks for, or the auto-failback is enabled, or the master has failed once the
published state is merged.
-/
theorem cause_of_master_change (h : commitSystem.Reachable cd)
    (hphase : cd.cluster.status.phase = .normal) (hcommit : Commit w cd cd')
    (hne : cd'.cluster.status.master ≠ cd.cluster.status.master)
    : ∃ (inp : Sentinel.CheckInput) (s : Sentinel),
        w = .check inp s
          ∧
        cd.cluster.status.pauseActive inp.env.now = false
          ∧
        ((∃ (req : ManualSwitchRequest) (db : DB),
            cd.cluster.status.manualSwitch = some req
              ∧
            cd.dbs[cd'.cluster.status.master]? = some db
              ∧
            db.spec.keeperUID = req.targetKeeperUID)
          ∨
        cd.cluster.defSpec.unsafeAutoFailback = true
          ∨
        ∃ (merged : Sentinel) (observed : ClusterData) (kihs : FinMap String KeeperInfoHistory)
            (masterDB : DB),
          (inp.start s cd).updateKeepersStatus inp.env.now cd inp.keepersInfo (inp.firstRun s)
            = .ok (merged, observed, kihs)
              ∧
          observed.dbs[cd.cluster.status.master]? = some masterDB
              ∧
          merged.masterOK inp.env.now cd.cluster.defSpec masterDB = false) := by
  have hsound := sound_of_commits h
  cases hcommit with
  | command now c hrun => exact absurd (derived_command c hsound.assigned hrun).master hne
  | @check inp s _ newcd hfresh hcheck =>
    obtain ⟨merged, observed, kihs, hcompleted⟩ :=
      Sentinel.clusterSentinelCheck_completed (Prod.ext rfl hcheck)
    obtain ⟨s', hupdate⟩ := hcompleted.update
    have hcluster := Sentinel.updateKeepersStatus_cluster hcompleted.merge
    have hobserved := hsound.of_derived (Sentinel.derived_updateKeepersStatus hsound.assigned
      (Sentinel.keyed_keepersInfo inp) hcompleted.merge)
    rw [← hcluster] at hne hphase ⊢
    obtain ⟨masterDB, hmaster, -⟩ := hobserved.master hphase
    obtain ⟨hpause, hdue⟩ :=
      (Sentinel.updateCluster_changes_master_iff hphase hmaster hupdate hne).mp rfl
    refine ⟨inp, s, rfl, hpause, ?_⟩
    rcases hdue with hswitch | hfailback | hfailover
    . left
      obtain ⟨targetDB, ⟨req, keeper, hreq, hkeeper, hfind⟩, huid, -⟩ := hswitch
      obtain ⟨⟨uid, hdb⟩, hassigned⟩ := Operations.findDB_eq_some hfind
      have hkeeper := ((FinMap.getElem?_filter_eq_some _ _ _ _).mp hkeeper).1
      obtain ⟨db, hdb', -, hspec⟩ :=
        Sentinel.updateKeepersStatus_db_origin hcompleted.merge hdb
      have hkey : targetDB.uid = uid := hobserved.assigned.keyed uid targetDB hdb
      refine ⟨req, db, hreq, ?_, ?_⟩
      . have hwanted : uid = newcd.cluster.status.master := hkey ▸ huid
        exact hwanted ▸ hdb'
      . rw [← hspec, hassigned, hobserved.assigned.keeperKeyed _ keeper hkeeper]
    . exact .inr (.inl hfailback.1)
    . exact .inr (.inr ⟨merged, observed, kihs, masterDB, hcompleted.merge, hmaster, hfailover.2.1⟩)

/-! ## Pauses -/

theorem ClusterData.SameTopology.refl (cd : ClusterData) : cd.SameTopology cd :=
  ⟨fun _ => rfl, rfl, rfl, rfl, rfl⟩

theorem ClusterData.SameTopology.trans {cd'' : ClusterData} (h : cd.SameTopology cd')
    (h' : cd'.SameTopology cd'') : cd.SameTopology cd'' where
  dbs uid := (h'.dbs uid).trans (h.dbs uid)
  master := h'.master.trans h.master
  spec := h'.spec.trans h.spec
  proxy := h'.proxy.trans h.proxy
  manualSwitch := h'.manualSwitch.trans h.manualSwitch

theorem proxy_roundTrip_of_commits (h : commitSystem.Reachable cd)
    : Proxy.roundTrip cd.proxy = cd.proxy := by
  have hroundTrip (cd : ClusterData) : Proxy.roundTrip cd.roundTrip.proxy = cd.roundTrip.proxy := by
    simp [ClusterData.roundTrip, Proxy.roundTrip]
  cases h with
  | init h =>
    obtain ⟨uid, spec, rfl⟩ := h
    exact hroundTrip _
  | step _ h =>
    obtain ⟨w, hcommit⟩ := h
    cases hcommit <;> exact hroundTrip _

theorem sameTopology_roundTrip (hnormal : Sentinel.Normalized cd)
    (hproxy : Proxy.roundTrip cd.proxy = cd.proxy) : cd.SameTopology cd.roundTrip where
  dbs uid := by
    rw [ClusterData.roundTrip, Std.ExtTreeMap.getElem?_map, Option.map_map]
    apply Option.map_congr
    intro db hdb
    rw [Function.comp_apply, DB.roundTrip, hnormal.dbSpec uid db hdb]
  master := rfl
  spec := hnormal.clusterSpec
  proxy := hproxy
  manualSwitch := rfl

def PausedCheck (cd cd' : ClusterData) : Prop :=
  ∃ (inp : Sentinel.CheckInput) (s : Sentinel),
    Commit (.check inp s) cd cd' ∧ cd.cluster.status.pauseActive inp.env.now = true

theorem PausedCheck.step (h : PausedCheck cd cd') : commitSystem.step cd cd' := by
  obtain ⟨inp, s, hcommit, -⟩ := h
  exact ⟨.check inp s, hcommit⟩

theorem sameTopology_of_pausedCheck (h : commitSystem.Reachable cd)
    (hphase : cd.cluster.status.phase = .normal) (hcheck : PausedCheck cd cd')
    : cd.SameTopology cd' := by
  obtain ⟨inp, s, hcommit, hpause⟩ := hcheck
  cases hcommit with
  | @check _ _ _ newcd hfresh hcheck =>
    obtain ⟨merged, observed, kihs, hcompleted⟩ :=
      Sentinel.clusterSentinelCheck_completed (Prod.ext rfl hcheck)
    obtain ⟨s', hupdate⟩ := hcompleted.update
    have hmerge := hcompleted.merge
    have hcluster := Sentinel.updateKeepersStatus_cluster hmerge
    obtain rfl : newcd = observed :=
      Sentinel.updateCluster_paused (hcluster ▸ hphase) (hcluster ▸ hpause) hupdate
    have hnormal := Sentinel.normalized_updateKeepersStatus (normalized_of_commits h) hmerge
    have hsame : cd.SameTopology newcd := by
      generalize inp.firstRun s = firstRun at hmerge
      cases firstRun with
      | true =>
        rw [(Sentinel.updateKeepersStatus_firstRun hmerge).2]
        exact .refl cd
      | false => exact Sentinel.sameTopology_updateKeepersStatus hmerge
    refine hsame.trans (sameTopology_roundTrip hnormal ?_)
    rw [hsame.proxy]
    exact proxy_roundTrip_of_commits h

/--
However many checks a pause sees, of one sentinel or of several that follow each other, the
topology at its end is the one at its beginning.
-/
theorem sameTopology_of_paused_run (h : commitSystem.Reachable cd)
    (hphase : cd.cluster.status.phase = .normal) (hrun : Relation.ReflTransGen PausedCheck cd cd')
    : cd.SameTopology cd' := by
  induction hrun with
  | refl => exact .refl cd
  | @tail mid last hrun hcheck ih =>
    have hmid := Relation.ReflTransGen.mono (fun _ _ hcheck => hcheck.step) _ _ hrun
    have hphase' := phase_of_commits h hphase hmid
    exact ih.trans (sameTopology_of_pausedCheck (h.steps hmid) hphase' hcheck)

/-! ## Records of keepers -/

theorem deadKeeperRemovalInterval_of_validate {spec : ClusterSpec} (h : spec.validate = .ok ())
    : 0 ≤ spec.withDefaults.deadKeeperRemovalInterval := by
  simp only [ClusterSpec.validate, Except.bind_eq_ok_iff] at h
  obtain ⟨⟨⟩, htimings, -⟩ := h
  simp only [ClusterSpec.validateTimings, Except.bind_eq_ok_iff, ClusterSpec.reject_eq_ok_iff,
    exists_const, decide_eq_false_iff_not, not_lt] at htimings
  obtain ⟨-, -, -, -, -, -, -, -, -, -, -, -, -, -, hinterval, -⟩ := htimings
  exact hinterval

theorem Sentinel.Merged.lastHealthyTime {s s' : Sentinel} {now : Time} {fresh : KeepersInfo}
    {keeper : Keeper} (h : Merged s s' now cd cd' fresh) (hkeyed : KeepersInfo.Keyed fresh)
    (hkeeper : cd.keepers[uid]? = some keeper)
    : ∃ (keeper' : Keeper),
        cd'.keepers[uid]? = some keeper'
          ∧
        (keeper'.status.lastHealthyTime = keeper.status.lastHealthyTime
          ∨ keeper'.status.lastHealthyTime = now) := by
  rw [h.getElem?_keepers, getElem?_mergedKeepers hkeyed, hkeeper]
  refine ⟨_, rfl, ?_⟩
  have hmerged (k : Keeper) (hk : k.status.lastHealthyTime = keeper.status.lastHealthyTime)
      (s : Sentinel)
      : (s.updateKeeperHealth now cd k).status.lastHealthyTime = keeper.status.lastHealthyTime
        ∨ (s.updateKeeperHealth now cd k).status.lastHealthyTime = now := by
    dsimp only [updateKeeperHealth]
    split
    . exact .inr rfl
    . exact .inl hk
  apply hmerged
  split <;> rfl

theorem Sentinel.lastHealthyTime_updateKeepersStatus {s s' : Sentinel} {now : Time}
    {keepersInfo : KeepersInfo} {firstRun : Bool} {kihs : FinMap String KeeperInfoHistory}
    {keeper : Keeper} (h : s.updateKeepersStatus now cd keepersInfo firstRun = .ok (s', cd', kihs))
    (hkeyed : KeepersInfo.Keyed keepersInfo) (hkeeper : cd.keepers[uid]? = some keeper)
    : ∃ (keeper' : Keeper),
        cd'.keepers[uid]? = some keeper'
          ∧
        (keeper'.status.lastHealthyTime = keeper.status.lastHealthyTime
          ∨ keeper'.status.lastHealthyTime = now) := by
  cases firstRun with
  | true =>
    rw [(updateKeepersStatus_firstRun h).2]
    exact ⟨keeper, hkeeper, .inl rfl⟩
  | false => exact (updateKeepersStatus_merged h).lastHealthyTime (keyed_freshKeepersInfo hkeyed) hkeeper

theorem Sentinel.getElem?_removeOldKeepers_eq_none {now : Time} {keeper : Keeper}
    (hassigned : cd.Assigned) (hkeeper : cd.keepers[uid]? = some keeper)
    (hgone : (removeOldKeepers now cd).keepers[uid]? = none)
    : (∀ (dbUID : String) (db : DB), cd.dbs[dbUID]? = some db → db.spec.keeperUID ≠ uid)
        ∧
      keeper.status.lastHealthyTime + cd.cluster.defSpec.deadKeeperRemovalInterval < now := by
  have hdropped : ¬ (FinMap.anyValue cd.dbs (fun db => db.spec.keeperUID = keeper.uid) ||
      decide (now ≤ keeper.status.lastHealthyTime
        + cd.cluster.defSpec.deadKeeperRemovalInterval)) = true := by
    intro hkept
    rw [removeOldKeepers, (FinMap.getElem?_filter_eq_some _ _ _ _).mpr ⟨hkeeper, hkept⟩] at hgone
    cases hgone
  rw [Bool.or_eq_true, not_or, Bool.not_eq_true, FinMap.anyValue_eq_false_iff, decide_eq_true_eq,
    not_le, hassigned.keeperKeyed uid keeper hkeeper] at hdropped
  exact ⟨fun dbUID db hdb => of_decide_eq_false (hdropped.1 dbUID db hdb), hdropped.2⟩

/--
The record of a keeper goes only if an operator removes it, or if a check of a running cluster that
is not paused finds it without a database and not healthy for the configured interval, in the stored
cluster data and also with the published state merged.
-/
theorem cause_of_keeper_removal (h : commitSystem.Reachable cd) (hcommit : Commit w cd cd')
    {keeper : Keeper} (hkeeper : cd.keepers[uid]? = some keeper) (hgone : uid ∉ cd'.keepers)
    : (∃ (now : Time) (order : VisitOrder String), w = .command now (.removeKeeper order uid))
        ∨
      ∃ (inp : Sentinel.CheckInput) (s : Sentinel),
        w = .check inp s
          ∧
        cd.cluster.status.phase = .normal
          ∧
        cd.cluster.status.pauseActive inp.env.now = false
          ∧
        (∀ (dbUID : String) (db : DB), cd.dbs[dbUID]? = some db → db.spec.keeperUID ≠ uid)
          ∧
        keeper.status.lastHealthyTime + cd.cluster.defSpec.deadKeeperRemovalInterval < inp.env.now
          ∧
        ∃ (merged : Sentinel) (observed : ClusterData) (kihs : FinMap String KeeperInfoHistory)
            (keeper' : Keeper),
          (inp.start s cd).updateKeepersStatus inp.env.now cd inp.keepersInfo (inp.firstRun s)
            = .ok (merged, observed, kihs)
              ∧
          (∀ (dbUID : String) (db : DB), observed.dbs[dbUID]? = some db → db.spec.keeperUID ≠ uid)
              ∧
          observed.keepers[uid]? = some keeper'
              ∧
          keeper'.status.lastHealthyTime + cd.cluster.defSpec.deadKeeperRemovalInterval
            < inp.env.now := by
  have hassigned := (sound_of_commits h).assigned
  have hmem : uid ∈ cd.keepers := by
    rw [Std.ExtTreeMap.mem_iff_isSome_getElem?, hkeeper]
    rfl
  cases hcommit with
  | command now c hrun =>
    rcases Operations.mem_keepers_command c hassigned hrun hmem with hmem' | ⟨order, rfl⟩
    . exact absurd hmem' hgone
    . exact .inl ⟨now, order, rfl⟩
  | @check inp s _ newcd hfresh hcheck =>
    obtain ⟨merged, observed, kihs, hcompleted⟩ :=
      Sentinel.clusterSentinelCheck_completed (Prod.ext rfl hcheck)
    obtain ⟨s', hupdate⟩ := hcompleted.update
    have hmerge := hcompleted.merge
    have hcluster := Sentinel.updateKeepersStatus_cluster hmerge
    have hobserved := (sound_of_commits h).of_derived
      (Sentinel.derived_updateKeepersStatus hassigned (Sentinel.keyed_keepersInfo inp) hmerge)
    obtain ⟨keeper', hkeeper', htime⟩ :=
      Sentinel.lastHealthyTime_updateKeepersStatus hmerge (Sentinel.keyed_keepersInfo inp) hkeeper
    have hgone : newcd.keepers[uid]? = none := Std.ExtTreeMap.getElem?_eq_none hgone
    rcases Sentinel.updateCluster_keepers_cases hupdate with heq | ⟨hphase, heq⟩
    . rw [heq, hkeeper'] at hgone
      cases hgone
    . have hpause : observed.cluster.status.pauseActive inp.env.now = false := by
        by_contra hpause
        rw [Sentinel.updateCluster_paused hphase (Bool.eq_true_of_not_eq_false hpause) hupdate,
          hkeeper'] at hgone
        cases hgone
      rw [heq] at hgone
      obtain ⟨hfree, hlate⟩ :=
        Sentinel.getElem?_removeOldKeepers_eq_none hobserved.assigned hkeeper' hgone
      rw [hcluster] at hphase hpause hlate
      refine .inr ⟨inp, s, rfl, hphase, hpause, ?_, ?_, merged, observed, kihs, keeper', hmerge, hfree,
        hkeeper', hlate⟩
      . intro dbUID db hdb
        obtain ⟨db', hdb', -, hspec⟩ := Sentinel.updateKeepersStatus_db hmerge hdb
        rw [← hspec]
        exact hfree dbUID db' hdb'
      . -- a keeper that is healthy now stays, since the interval is not negative
        have hinterval : 0 ≤ cd.cluster.defSpec.deadKeeperRemovalInterval :=
          deadKeeperRemovalInterval_of_validate hcompleted.valid
        rcases htime with heq | heq
        . exact heq ▸ hlate
        . rw [heq] at hlate
          exact absurd hlate (not_lt.mpr (le_add_of_nonneg_right hinterval))

/-! ## The proxy object -/

theorem Sentinel.proxy_updateProxy_cases (masterDBUID : String) (pis : ProxiesInfo) (proxy : Proxy)
    : updateProxy masterDBUID pis proxy = proxy
        ∨ (updateProxy masterDBUID pis proxy).generation = proxy.generation + 1 := by
  unfold updateProxy
  dsimp only
  split
  . split
    . exact .inl rfl
    . exact .inr rfl
  . split
    . exact .inr rfl
    . exact .inl rfl

theorem Sentinel.proxy_updateCluster_cases {env : Env} {s s' : Sentinel} {pis : ProxiesInfo}
    (h : s.updateCluster env cd pis = .ok (s', cd'))
    : cd'.proxy = cd.proxy ∨ cd'.proxy.generation = cd.proxy.generation + 1 := by
  by_cases hpaused : cd.cluster.status.phase = .normal → cd.cluster.status.pauseActive env.now = true
  . exact .inl (updateCluster_proxy_of_paused hpaused h)
  . rw [Classical.not_imp, Bool.not_eq_true] at hpaused
    rcases updateCluster_proxy hpaused.1 hpaused.2 h with heq | ⟨heq, -⟩
    . rw [heq]
      exact proxy_updateProxy_cases _ _ _
    . rw [heq, Proxy.withoutMaster]
      split
      . exact .inr rfl
      . exact .inl rfl

theorem commit_proxy_cases (h : commitSystem.Reachable cd) (hcommit : Commit w cd cd')
    : cd'.proxy = cd.proxy ∨ cd'.proxy.generation = cd.proxy.generation + 1 := by
  have hstored := proxy_roundTrip_of_commits h
  cases hcommit with
  | command now c hrun =>
    left
    rw [ClusterData.roundTrip, proxy_command (sound_of_commits h).assigned hrun, hstored]
  | @check inp s _ newcd hfresh hcheck =>
    obtain ⟨merged, observed, kihs, hcompleted⟩ :=
      Sentinel.clusterSentinelCheck_completed (Prod.ext rfl hcheck)
    obtain ⟨s', hupdate⟩ := hcompleted.update
    have hproxy := Sentinel.proxy_updateCluster_cases hupdate
    rw [Sentinel.proxy_updateKeepersStatus hcompleted.merge] at hproxy
    rcases hproxy with heq | hnext
    . left
      rw [ClusterData.roundTrip, heq, hstored]
    . exact .inr hnext

/--
The generation of the proxy object identifies it: it never goes back, and two versions with the same
generation have the same object, so that a proxy that confirms the generation has seen it.
-/
theorem proxy_of_same_generation (h : commitSystem.Reachable cd)
    (hrun : Relation.ReflTransGen commitSystem.step cd cd')
    : cd.proxy.generation ≤ cd'.proxy.generation
        ∧
      (cd'.proxy.generation = cd.proxy.generation → cd'.proxy = cd.proxy) := by
  induction hrun with
  | refl => exact ⟨le_rfl, fun _ => rfl⟩
  | tail hrun hstep ih =>
    obtain ⟨w, hcommit⟩ := hstep
    rcases commit_proxy_cases (h.steps hrun) hcommit with heq | hnext
    . rw [heq]
      exact ih
    . refine ⟨by omega, ?_⟩
      intro hsame
      omega

/-! ## Synchronous standbys -/

/--
In every version the required synchronous standbys of the master are sorted, not repeated and other
databases.
-/
theorem syncListed_of_commits (h : commitSystem.Reachable cd) : cd.SyncListed :=
  (syncListed_inductive.of_reachable (reachable_of_commits h)).2

section Sample

def sampleSwitchRequested : ClusterData :=
  commanded 5 (.requestManualSwitch "k2" .switchover) (sampleReplicated { initMode := some .new })

def sampleSwitchCheck : Sentinel.CheckInput := sampleCheck 6 2 (Sentinel.sampleHealthy 6)

def sampleSwitchedOver : ClusterData :=
  checked sampleSwitchCheck { lastLeadershipCount := 1 } sampleSwitchRequested

theorem reachable_sampleSwitchRequested : commitSystem.Reachable sampleSwitchRequested :=
  reachable_commanded reachable_sampleReplicated

theorem commit_sampleSwitchedOver
    : Commit (.check sampleSwitchCheck { lastLeadershipCount := 1 }) sampleSwitchRequested
        sampleSwitchedOver :=
  commit_checked (Env.fresh_simplest (by decide +kernel)) (by decide +kernel)

theorem cause_of_master_change_sample
    : sampleSwitchedOver.cluster.status.master = "dd"
        ∧
      ∃ (inp : Sentinel.CheckInput),
        sampleSwitchRequested.cluster.status.pauseActive inp.env.now = false := by
  refine ⟨by decide +kernel, ?_⟩
  obtain ⟨inp, s, -, hpause, -⟩ := cause_of_master_change reachable_sampleSwitchRequested
    (by decide +kernel) commit_sampleSwitchedOver (by decide +kernel)
  exact ⟨inp, hpause⟩

theorem initialized_of_commits_sample : sampleSwitchedOver.cluster.status.phase = .normal :=
  (initialized_of_commits reachable_sampleSwitchRequested (by decide +kernel)
    (.single ⟨_, commit_sampleSwitchedOver⟩)).1

theorem continues_of_commits_sample : sampleSwitchRequested.Continues sampleSwitchedOver :=
  continues_of_commits reachable_sampleSwitchRequested (.single ⟨_, commit_sampleSwitchedOver⟩)

theorem succeeds_of_commits_sample
    : ∃ (db db' : DB), sampleSwitchRequested.dbs["d"]? = some db ∧ sampleSwitchedOver.dbs["d"]? = some db'
        ∧ db.Succeeds db' := by
  have hmem : "d" ∈ sampleSwitchRequested.dbs ∧ "d" ∈ sampleSwitchedOver.dbs := by decide +kernel
  simp only [Std.ExtTreeMap.mem_iff_isSome_getElem?, Option.isSome_iff_exists] at hmem
  obtain ⟨⟨db, hdb⟩, ⟨db', hdb'⟩⟩ := hmem
  refine ⟨db, db', hdb, hdb', succeeds_of_commits reachable_sampleSwitchRequested (.single ⟨⟨_,
    commit_sampleSwitchedOver⟩, ?_⟩) hdb hdb'⟩
  exact Std.ExtTreeMap.mem_iff_isSome_getElem?.mpr (Option.isSome_of_eq_some hdb')

def samplePausedChecked : ClusterData :=
  checked (sampleCheck 7 2 (Sentinel.sampleHealthy 7)) { lastLeadershipCount := 0 }
    Sentinel.samplePaused

def samplePausedTwice : ClusterData :=
  sampleChecked 8 2 (Sentinel.sampleHealthy 8) samplePausedChecked

theorem sameTopology_of_paused_run_sample : Sentinel.samplePaused.SameTopology samplePausedTwice := by
  have hfirst : PausedCheck Sentinel.samplePaused samplePausedChecked :=
    ⟨_, _, commit_checked (Env.fresh_simplest (by decide +kernel)) (by decide +kernel),
      by decide +kernel⟩
  have hsecond : PausedCheck samplePausedChecked samplePausedTwice :=
    ⟨_, _, commit_checked (Env.fresh_simplest (by decide +kernel)) (by decide +kernel),
      by decide +kernel⟩
  exact sameTopology_of_paused_run (reachable_commanded reachable_sampleReplicated)
    (by decide +kernel) (.tail (.single hfirst) hsecond)

def sampleForsaken : ClusterData :=
  let spec : ClusterSpec :=
    { initMode := some .new, deadKeeperRemovalInterval := some (60 * second) }
  sampleChecked 2 1 [sampleInfo 2 "k1" (some (sampleState "d" 1))]
    (sampleChecked 1 0 [sampleInfo 1 "k1" none, sampleInfo 1 "k2" none]
      (newClusterData (newCluster "cluster" spec)).roundTrip)

theorem reachable_sampleForsaken : commitSystem.Reachable sampleForsaken :=
  reachable_sampleChecked (by decide +kernel) (reachable_sampleChecked (by decide +kernel)
    (.init ⟨"cluster", _, rfl⟩))

def sampleRemovalCheck : Sentinel.CheckInput :=
  sampleCheck (100 * second) 1 [sampleInfo 3 "k1" (some (sampleState "d" 2))]

def sampleRemovalMemory : Sentinel where
  lastLeadershipCount := 1
  keeperErrorTimers := (∅ : FinMap String Time).insert "k2" 2

theorem cause_of_keeper_removal_sample
    : (∃ (w : Writer),
        Commit w (sampleReplicated { initMode := some .new })
          (commanded 5 (.removeKeeper .stored "k2") (sampleReplicated { initMode := some .new }))
          ∧
        ∃ (now : Time) (order : VisitOrder String), w = .command now (.removeKeeper order "k2"))
        ∧
      ∃ (keeper : Keeper),
        sampleForsaken.keepers["k2"]? = some keeper
          ∧
        "k2" ∉ (checked sampleRemovalCheck sampleRemovalMemory sampleForsaken).keepers
          ∧
        (∀ (dbUID : String) (db : DB), sampleForsaken.dbs[dbUID]? = some db →
          db.spec.keeperUID ≠ "k2")
          ∧
        keeper.status.lastHealthyTime + 60 * second < 100 * second := by
  have hmem : "k2" ∈ (sampleReplicated { initMode := some .new }).keepers
      ∧ "k2" ∈ sampleForsaken.keepers := by
    decide +kernel
  simp only [Std.ExtTreeMap.mem_iff_isSome_getElem?, Option.isSome_iff_exists] at hmem
  obtain ⟨⟨keeper, hkeeper⟩, ⟨forsaken, hforsaken⟩⟩ := hmem
  have hcommand : Commit (.command 5 (.removeKeeper .stored "k2"))
      (sampleReplicated { initMode := some .new })
      (commanded 5 (.removeKeeper .stored "k2") (sampleReplicated { initMode := some .new })) :=
    commit_commanded (by decide +kernel)
  have hcheck : Commit (.check sampleRemovalCheck sampleRemovalMemory) sampleForsaken
      (checked sampleRemovalCheck sampleRemovalMemory sampleForsaken) :=
    commit_checked (Env.fresh_simplest (by decide +kernel)) (by decide +kernel)
  have hgone : "k2" ∉ (checked sampleRemovalCheck sampleRemovalMemory sampleForsaken).keepers := by
    decide +kernel
  have hinterval : sampleForsaken.cluster.defSpec.deadKeeperRemovalInterval = 60 * second := by
    decide +kernel
  constructor
  . rcases cause_of_keeper_removal reachable_sampleReplicated hcommand hkeeper (by decide +kernel)
      with hcause | ⟨inp, s, hcause, -⟩
    . exact ⟨_, hcommand, hcause⟩
    . cases hcause
  . rcases cause_of_keeper_removal reachable_sampleForsaken hcheck hforsaken hgone
      with ⟨now, order, hcause⟩ | ⟨inp, s, hcause, -, -, hfree, hlate, -⟩
    . cases hcause
    . cases hcause
      rw [hinterval] at hlate
      exact ⟨forsaken, hforsaken, hgone, hfree, hlate⟩

theorem proxy_of_same_generation_sample
    : sampleSwitchRequested.proxy.generation ≤ sampleSwitchedOver.proxy.generation :=
  (proxy_of_same_generation reachable_sampleSwitchRequested (.single ⟨_, commit_sampleSwitchedOver⟩)).1

def sampleSynchronous : ClusterData :=
  let spec : ClusterSpec := {
    initMode := some .new
    synchronousReplication := some true
    maxSynchronousStandbys := some 2
  }
  let cd := (newClusterData (newCluster "cluster" spec)).roundTrip
  let cd := sampleChecked 1 0
    [sampleInfo 1 "k1" none, sampleInfo 1 "k2" none, sampleInfo 1 "k3" none] cd
  let cd := sampleChecked 2 1 [sampleInfo 2 "k1" (some (sampleState "d" 1)), sampleInfo 2 "k2" none,
    sampleInfo 2 "k3" none] cd
  let cd := sampleChecked 3 1 [sampleInfo 3 "k1" (some (sampleState "d" 2)), sampleInfo 3 "k2" none,
    sampleInfo 3 "k3" none] cd
  sampleChecked 4 3 [sampleInfo 4 "k1" (some (sampleState "d" 3)),
    sampleInfo 4 "k2" (some (sampleState "dd" 1)), sampleInfo 4 "k3" (some (sampleState "ddd" 1))] cd

theorem syncListed_of_commits_sample
    : ∃ (masterDB : DB),
        sampleSynchronous.dbs[sampleSynchronous.cluster.status.master]? = some masterDB
          ∧
        masterDB.spec.synchronousStandbys.elems = ["dd", "ddd"]
          ∧
        masterDB.spec.ListsOthers sampleSynchronous.cluster.status.master := by
  have hreach : commitSystem.Reachable sampleSynchronous :=
    reachable_sampleChecked (by decide +kernel) (reachable_sampleChecked (by decide +kernel)
      (reachable_sampleChecked (by decide +kernel) (reachable_sampleChecked (by decide +kernel)
        (.init ⟨"cluster", _, rfl⟩))))
  have hrequired : (sampleSynchronous.dbs[sampleSynchronous.cluster.status.master]?).map
      (fun masterDB => masterDB.spec.synchronousStandbys.elems) = some ["dd", "ddd"] := by
    decide +kernel
  obtain ⟨masterDB, hmaster, hrequired⟩ := Option.map_eq_some_iff.mp hrequired
  exact ⟨masterDB, hmaster, hrequired, syncListed_of_commits hreach masterDB hmaster⟩

end Sample

end Hysteron
