import Hysteron.Safety.Origins
import Hysteron.Safety.SyncElection
import Hysteron.Sentinel.Lemmas.Faults

/-!
Which database an update makes the master. In the normal phase the master changes to a database
exactly when a manual switch, an auto-failback or a failover to it is due. Two results follow from
this: on which keepers a master can be put, and how far a new master can lag behind the old one.
-/

namespace Hysteron
namespace Sentinel

variable {env : Env} {s s' : Sentinel} {cd newcd : ClusterData} {pis : ProxiesInfo}
variable {curMasterDB : DB} {dbUID : String}

def FailoverDue (env : Env) (s : Sentinel) (cd : ClusterData) (curMasterDB : DB) (dbUID : String)
    : Prop :=
  (∀ other, ¬ ManualSwitchDue env s cd curMasterDB other)
    ∧
  s.masterOK env.now cd.cluster.defSpec curMasterDB = false
    ∧
  let newcd := removeOldKeepers env.now cd
  ∃ candidates,
    s.findBestNewMasters env .failover newcd curMasterDB = .ok candidates
      ∧
    (s.forceFailedKeeperUIDs.contains curMasterDB.spec.keeperUID = true
      ∨
    (s.shouldDelayLeaderRace env.now curMasterDB candidates cd.cluster.defSpec.failInterval).2
      = false)
      ∧
    (pickNewMaster newcd curMasterDB candidates).1.map DB.uid = some dbUID

def MasterChangeDue (env : Env) (s : Sentinel) (cd : ClusterData) (curMasterDB : DB)
    (dbUID : String) : Prop :=
  ManualSwitchDue env s cd curMasterDB dbUID
    ∨
  AutoFailbackDue env s cd curMasterDB dbUID
    ∨
  FailoverDue env s cd curMasterDB dbUID

theorem shouldDelayLeaderRace_convergenceInfos (infos : FinMap String DBConvergenceInfo)
    (now : Time) (candidates : List DB) (window : Duration)
    : (({ s with dbConvergenceInfos := infos } : Sentinel).shouldDelayLeaderRace now curMasterDB
        candidates window).2
        =
      (s.shouldDelayLeaderRace now curMasterDB candidates window).2 := by
  have hadvancing : ({ s with dbConvergenceInfos := infos } : Sentinel).isAdvancing now window
      = s.isAdvancing now window := rfl
  unfold shouldDelayLeaderRace
  rw [hadvancing]
  dsimp only
  repeat' split
  all_goals rfl

theorem chooseBestNewMaster_eq {failInterval : Duration} {best : Option DB} {clearBackoff : Bool}
    (h : s.chooseBestNewMaster env cd curMasterDB failInterval = .ok (s', best, clearBackoff))
    : ∃ candidates,
        s.findBestNewMasters env .failover cd curMasterDB = .ok candidates
          ∧
        ∀ (target : DB),
          best = some target
            ↔
          (s.forceFailedKeeperUIDs.contains curMasterDB.spec.keeperUID = true
            ∨
          (s.shouldDelayLeaderRace env.now curMasterDB candidates failInterval).2 = false)
            ∧
          (pickNewMaster cd curMasterDB candidates).1 = some target := by
  have hforced : (s.trackCandidates env.now cd).forceFailedKeeperUIDs = s.forceFailedKeeperUIDs := by
    apply trackCandidates_keeps
    intros
    rfl
  have hdelay (candidates : List DB)
      : ((s.trackCandidates env.now cd).shouldDelayLeaderRace env.now curMasterDB candidates
          failInterval).2
          =
        (s.shouldDelayLeaderRace env.now curMasterDB candidates failInterval).2 := by
    apply trackCandidates_keeps
      (fun s => (s.shouldDelayLeaderRace env.now curMasterDB candidates failInterval).2)
    intros
    apply shouldDelayLeaderRace_convergenceInfos
  simp only [chooseBestNewMaster, Except.bind_eq_ok_iff] at h
  obtain ⟨candidates, hcandidates, h⟩ := h
  refine ⟨candidates, hcandidates, ?_⟩
  intro target
  rw [hforced] at h
  split at h
  . next hnil =>
    cases h
    have hpick : (pickNewMaster cd curMasterDB []).1 = none := by
      unfold pickNewMaster
      repeat' split
      all_goals first | rfl | simp_all
    simp [hnil, hpick]
  . split at h
    . next hforce =>
      simp only [Except.pure_eq_ok, Except.ok.injEq, Prod.mk.injEq] at h
      simp [hforce, h.2]
    . next hforce =>
      specialize hdelay candidates
      split at h
      . next hrace =>
        cases h
        rw [hrace] at hdelay
        simp [← hdelay, hforce]
      . next hrace =>
        simp only [Except.pure_eq_ok, Except.ok.injEq, Prod.mk.injEq] at h
        rw [hrace] at hdelay
        simp [← hdelay, h.2]

theorem keeps_of_tracked {γ : Type u} (get : Sentinel → γ)
    (h : ∀ (s : Sentinel) infos, get { s with dbConvergenceInfos := infos } = get s)
    (hsearched : s' = s ∨ s' = s.trackCandidates env.now newcd) (timeout : Duration)
    : get (s'.trackDBConvergence env.now curMasterDB timeout) = get s := by
  rw [trackDBConvergence_keeps get h]
  cases hsearched with
  | inl heq => rw [heq]
  | inr heq =>
    rw [heq]
    apply trackCandidates_keeps get h

theorem electAutomatic_wanted_iff {election : Election}
    (hnone : ∀ other, ¬ ManualSwitchDue env s cd curMasterDB other)
    (hsearched : s' = s ∨ s' = s.trackCandidates env.now (removeOldKeepers env.now cd))
    (h : s'.electAutomatic env (removeOldKeepers env.now cd) cd.cluster.status.master curMasterDB
      = .ok election)
    (hne : dbUID ≠ cd.cluster.status.master)
    : election.wantedMasterDBUID = dbUID
        ↔
      AutoFailbackDue env s cd curMasterDB dbUID ∨ FailoverDue env s cd curMasterDB dbUID := by
  unfold electAutomatic at h
  dsimp only at h
  rw [masterOK_tracked hsearched, removeOldKeepers_cluster] at h
  split at h
  . next hok =>
    obtain ⟨target, htarget, hwanted⟩ := electAutoFailback_wanted h
    rw [chooseAutoFailbackTarget_tracked hsearched] at htarget
    have hfailover : ¬ FailoverDue env s cd curMasterDB dbUID := by
      intro hdue
      have hbad := hdue.2.1
      rw [hok] at hbad
      cases hbad
    simp only [hfailover, or_false]
    rw [hwanted]
    constructor
    . intro heq
      cases target with
      | none => exact absurd heq.symm hne
      | some target =>
        obtain ⟨henabled, before, after, keeper, hcandidates, hlt, hbefore, hafter, hkeeper, hready⟩ :=
          chooseAutoFailbackTarget_eq_some_iff.mp htarget
        exact ⟨henabled, hnone, hok, before, target, after, keeper, hcandidates, heq, hlt, hbefore,
          hafter, hkeeper, hready⟩
    . rintro ⟨henabled, -, -, before, target', after, keeper, hcandidates, huid, hlt, hbefore,
        hafter, hkeeper, hready⟩
      have htarget' : s.chooseAutoFailbackTarget env (removeOldKeepers env.now cd) curMasterDB
          = .ok (some target') := chooseAutoFailbackTarget_eq_some_iff.mpr
        ⟨henabled, before, after, keeper, hcandidates, hlt, hbefore, hafter, hkeeper, hready⟩
      rw [htarget] at htarget'
      cases htarget'
      exact huid
  . next hok =>
    have hfailback : ¬ AutoFailbackDue env s cd curMasterDB dbUID := by
      intro hdue
      exact hok hdue.2.2.1
    simp only [hfailback, false_or]
    simp only [electFailover, Except.bind_eq_ok_iff, Except.pure_eq_ok, Except.ok.injEq] at h
    obtain ⟨⟨sb, best, clearBackoff⟩, hbest, rfl⟩ := h
    obtain ⟨candidates, hcandidates, hpicked⟩ := chooseBestNewMaster_eq hbest
    have hsame : SameVerdicts env.now (s'.trackDBConvergence env.now curMasterDB
        cd.cluster.defSpec.convergenceTimeout) s := by
      cases hsearched with
      | inl heq =>
        rw [heq]
        apply sameVerdicts_trackDBConvergence
      | inr heq =>
        rw [heq]
        apply SameVerdicts.trans
        . apply sameVerdicts_trackDBConvergence
        . apply sameVerdicts_trackCandidates
    rw [findBestNewMasters_congr hsame] at hcandidates
    rw [removeOldKeepers_cluster] at hpicked
    rw [keeps_of_tracked (fun s => s.forceFailedKeeperUIDs) (fun _ _ => rfl) hsearched,
      keeps_of_tracked (fun s => (s.shouldDelayLeaderRace env.now curMasterDB candidates
        cd.cluster.defSpec.failInterval).2)
        (fun _ _ => shouldDelayLeaderRace_convergenceInfos _ _ _ _) hsearched] at hpicked
    dsimp only
    constructor
    . intro hwanted
      cases best with
      | none => exact absurd hwanted.symm hne
      | some target =>
        obtain ⟨hready, hpick⟩ := (hpicked target).mp rfl
        refine ⟨hnone, by simpa using hok, candidates, hcandidates, hready, ?_⟩
        rw [hpick]
        exact congrArg some hwanted
    . rintro ⟨-, -, candidates', hcandidates', hready, hpick⟩
      rw [hcandidates] at hcandidates'
      cases hcandidates'
      obtain ⟨target, htarget, huid⟩ := Option.map_eq_some_iff.mp hpick
      have hbest := (hpicked target).mpr ⟨hready, htarget⟩
      rw [hbest]
      exact huid

theorem elect_wanted_iff {election : Election}
    (h : s.elect env (removeOldKeepers env.now cd) cd.cluster.status.master curMasterDB
      = .ok election)
    (hne : dbUID ≠ cd.cluster.status.master)
    : election.wantedMasterDBUID = dbUID ↔ MasterChangeDue env s cd curMasterDB dbUID := by
  unfold MasterChangeDue
  cases elect_cases h with
  | inl hswitch =>
    have hfailback : ¬ AutoFailbackDue env s cd curMasterDB dbUID :=
      fun hdue => hdue.2.1 _ hswitch
    have hfailover : ¬ FailoverDue env s cd curMasterDB dbUID :=
      fun hdue => hdue.1 _ hswitch
    simp only [hfailback, hfailover, or_false]
    constructor
    . intro heq
      rw [← heq]
      exact hswitch
    . intro hdue
      exact manualSwitchDue_unique hswitch hdue
  | inr hauto =>
    obtain ⟨hnone, searched, hsearched, hauto⟩ := hauto
    rw [electAutomatic_wanted_iff hnone hsearched hauto hne]
    simp [hnone]

theorem updateCluster_changes_master_iff
    (hphase : cd.cluster.status.phase = .normal)
    (hcur : cd.dbs[cd.cluster.status.master]? = some curMasterDB)
    (h : s.updateCluster env cd pis = .ok (s', newcd))
    (hne : dbUID ≠ cd.cluster.status.master)
    : newcd.cluster.status.master = dbUID
        ↔
      cd.cluster.status.pauseActive env.now = false ∧ MasterChangeDue env s cd curMasterDB dbUID := by
  unfold updateCluster at h
  rw [hphase] at h
  dsimp only at h
  split at h
  . next hpaused =>
    cases h
    simp [hpaused, Ne.symm hne]
  . next hpaused =>
    simp only [Except.bind_eq_ok_iff, Except.pure_eq_ok, Except.ok.injEq, Prod.mk.injEq] at h
    obtain ⟨⟨sm, mid⟩, hnormal, newcd', hfinish, rfl, rfl⟩ := h
    obtain ⟨curMasterDB', election, hcur', helect, hwanted⟩ := updateNormal_master hnormal
    rw [hcur] at hcur'
    cases hcur'
    rw [finishUpdate_cluster hfinish, hwanted, elect_wanted_iff helect hne]
    simp [hpaused]

theorem updateCluster_new_master_iff {Q : String → Prop}
    (hphase : cd.cluster.status.phase = .normal)
    (hcur : cd.dbs[cd.cluster.status.master]? = some curMasterDB)
    (h : s.updateCluster env cd pis = .ok (s', newcd))
    : (newcd.cluster.status.master ≠ cd.cluster.status.master → Q newcd.cluster.status.master)
        ↔
      cd.cluster.status.pauseActive env.now = true
        ∨
      ∀ dbUID, dbUID ≠ cd.cluster.status.master → MasterChangeDue env s cd curMasterDB dbUID →
        Q dbUID := by
  constructor
  . intro hnew
    cases hpause : cd.cluster.status.pauseActive env.now with
    | true => exact .inl rfl
    | false =>
      right
      intro dbUID hne hdue
      have hmaster := (updateCluster_changes_master_iff hphase hcur h hne).mpr ⟨hpause, hdue⟩
      rw [← hmaster] at hne ⊢
      exact hnew hne
  . intro hcond hne
    obtain ⟨hpause, hdue⟩ := (updateCluster_changes_master_iff hphase hcur h hne).mp rfl
    cases hcond with
    | inl hpaused =>
      rw [hpause] at hpaused
      cases hpaused
    | inr hall => exact hall _ hne hdue

theorem MasterChangeDue.eligible (h : MasterChangeDue env s cd curMasterDB dbUID)
    (hne : dbUID ≠ cd.cluster.status.master)
    : ∃ search, Eligible env s search cd curMasterDB dbUID := by
  rcases h with hswitch | hfailback | hfailover
  . obtain ⟨-, -, -, heq | heligible⟩ := hswitch
    . exact absurd heq hne
    . exact ⟨.manualSwitch, heligible⟩
  . obtain ⟨-, -, -, before, target, after, keeper, hcandidates, huid, -⟩ := hfailback
    exact ⟨.autoFailback, _, hcandidates, target, by simp, huid⟩
  . obtain ⟨-, -, candidates, hcandidates, -, hpick⟩ := hfailover
    obtain ⟨target, htarget, huid⟩ := Option.map_eq_some_iff.mp hpick
    exact ⟨.failover, candidates, hcandidates, target, mem_pickNewMaster (Prod.ext htarget rfl), huid⟩

theorem findBestNewMasters_filters {search : CandidateSearch} {masterDB c : DB}
    {candidates : List DB} (hkeyed : cd.Keyed)
    (h : s.findBestNewMasters env search cd masterDB = .ok candidates) (hc : c ∈ candidates)
    : isNearMaster cd masterDB c = true
        ∧
      (canBeMaster cd c = true ∨ c.spec.type = some .primaryLine) := by
  simp only [findBestNewMasters, findBestStandbys, Except.bind_eq_ok_iff, Except.pure_eq_ok,
    Except.ok.injEq] at h
  obtain ⟨_, ⟨standbys, hstandbys, rfl⟩, masters, hmasters, rfl⟩ := h
  rw [sortCandidateMasters, List.mem_insertionSort, List.mem_append] at hc
  cases hc with
  | inl hstandby =>
    rw [List.mem_filter, List.mem_insertionSort, List.mem_filter] at hstandby
    exact ⟨hstandby.1.2, .inl hstandby.2⟩
  | inr hmaster =>
    rw [List.mem_filter, FinMap.mem_valuesIn] at hmaster
    obtain ⟨⟨uid, hgood⟩, hnear⟩ := hmaster
    rw [Bool.and_eq_true] at hnear
    exact ⟨hnear.2, .inr (getElem?_validDBsByStatus_good hkeyed hmasters hgood).2⟩

theorem Eligible.stored {search : CandidateSearch} (hkeyed : cd.Keyed)
    (h : Eligible env s search cd curMasterDB dbUID) : ∃ (db : DB), cd.dbs[dbUID]? = some db := by
  obtain ⟨candidates, hcandidates, c, hc, rfl⟩ := h
  have hkeyed' : (removeOldKeepers env.now cd).Keyed := hkeyed
  exact ⟨c, mem_findBestNewMasters hkeyed' hcandidates hc⟩

theorem Eligible.filters {search : CandidateSearch} {db : DB} (hkeyed : cd.Keyed)
    (h : Eligible env s search cd curMasterDB dbUID) (hdb : cd.dbs[dbUID]? = some db)
    : isNearMaster cd curMasterDB db = true
        ∧
      (canBeMaster (removeOldKeepers env.now cd) db = true ∨ db.spec.type = some .primaryLine) := by
  obtain ⟨candidates, hcandidates, c, hc, rfl⟩ := h
  have hkeyed' : (removeOldKeepers env.now cd).Keyed := hkeyed
  have hstored := mem_findBestNewMasters hkeyed' hcandidates hc
  rw [removeOldKeepers_dbs, hdb] at hstored
  cases hstored
  exact findBestNewMasters_filters hkeyed' hcandidates hc

section Lag

def WithinLag (cd : ClusterData) (curMasterDB : DB) (dbUID : String) : Prop :=
  (dbUID ∈ curMasterDB.status.synchronousStandbys.elems
    ∧
  dbUID ∈ curMasterDB.spec.synchronousStandbys.elems)
    ∨
  ∀ (db : DB), cd.dbs[dbUID]? = some db →
    curMasterDB.status.xLogPos ≤ db.status.xLogPos + cd.cluster.defSpec.maxStandbyLag.toNat

/--
The changes that no filter on the lag and no filter on the synchronous standbys applies to, once the
cluster spec asks for synchronous replication: the switches that bypass the failover, and a failover
while the spec of the master has not followed the cluster spec yet.
-/
def UnfilteredChangeDue (env : Env) (s : Sentinel) (cd : ClusterData) (curMasterDB : DB)
    (dbUID : String) : Prop :=
  ManualSwitchDue env s cd curMasterDB dbUID
    ∨
  AutoFailbackDue env s cd curMasterDB dbUID
    ∨
  (FailoverDue env s cd curMasterDB dbUID ∧ curMasterDB.spec.synchronousReplication = false)

theorem withinLag_of_isNearMaster {db : DB} (hspec : syncRepl cd.cluster.defSpec = false)
    (hnear : isNearMaster cd curMasterDB db = true)
    : curMasterDB.status.xLogPos ≤ db.status.xLogPos + cd.cluster.defSpec.maxStandbyLag.toNat := by
  simp only [isNearMaster, hspec, isLagBelowMax, Bool.false_or, Bool.and_eq_true,
    decide_eq_true_eq] at hnear
  omega

theorem FailoverDue.sync (hspec : syncRepl cd.cluster.defSpec = true)
    (hmaster : curMasterDB.spec.synchronousReplication = true)
    (h : FailoverDue env s cd curMasterDB dbUID)
    : dbUID ∈ curMasterDB.status.synchronousStandbys.elems
        ∧
      dbUID ∈ curMasterDB.spec.synchronousStandbys.elems := by
  obtain ⟨-, -, candidates, -, -, hpick⟩ := h
  obtain ⟨target, htarget, rfl⟩ := Option.map_eq_some_iff.mp hpick
  simp only [syncRepl, Bool.and_eq_true] at hspec
  exact pickNewMaster_sync hspec.1 hmaster (Prod.ext htarget rfl)

theorem masterChangeDue_withinLag_iff (hkeyed : cd.Keyed)
    : (∀ dbUID, dbUID ≠ cd.cluster.status.master → MasterChangeDue env s cd curMasterDB dbUID →
        WithinLag cd curMasterDB dbUID)
        ↔
      (syncRepl cd.cluster.defSpec = true →
        ∀ dbUID, dbUID ≠ cd.cluster.status.master →
          UnfilteredChangeDue env s cd curMasterDB dbUID → WithinLag cd curMasterDB dbUID) := by
  constructor
  . intro hall _ dbUID hne hdue
    apply hall dbUID hne
    rcases hdue with hswitch | hfailback | hfailover
    . exact .inl hswitch
    . exact .inr (.inl hfailback)
    . exact .inr (.inr hfailover.1)
  . intro hunfiltered dbUID hne hdue
    cases hspec : syncRepl cd.cluster.defSpec with
    | false =>
      right
      intro db hdb
      obtain ⟨search, heligible⟩ := hdue.eligible hne
      exact withinLag_of_isNearMaster hspec (heligible.filters hkeyed hdb).1
    | true =>
      rcases hdue with hswitch | hfailback | hfailover
      . exact hunfiltered hspec dbUID hne (.inl hswitch)
      . exact hunfiltered hspec dbUID hne (.inr (.inl hfailback))
      . cases hmaster : curMasterDB.spec.synchronousReplication with
        | false => exact hunfiltered hspec dbUID hne (.inr (.inr ⟨hfailover, hmaster⟩))
        | true => exact .inl (hfailover.sync hspec hmaster)

/--
A new master is a synchronous standby of the old one or within the allowed lag exactly when the
cluster is paused or this holds for every database to which a change is due. On databases stored under
their UIDs, only the unfiltered changes under synchronous replication matter.
-/
theorem updateCluster_new_master_withinLag_iff (env : Env) (s s' : Sentinel)
    (cd newcd : ClusterData) (pis : ProxiesInfo) (curMasterDB : DB)
    (hphase : cd.cluster.status.phase = .normal)
    (hcur : cd.dbs[cd.cluster.status.master]? = some curMasterDB)
    (h : s.updateCluster env cd pis = .ok (s', newcd))
    : ((newcd.cluster.status.master ≠ cd.cluster.status.master
          →
        WithinLag cd curMasterDB newcd.cluster.status.master)
        ↔
      cd.cluster.status.pauseActive env.now = true
        ∨
      ∀ dbUID, dbUID ≠ cd.cluster.status.master → MasterChangeDue env s cd curMasterDB dbUID →
        WithinLag cd curMasterDB dbUID)
        ∧
      (cd.Keyed →
        ((newcd.cluster.status.master ≠ cd.cluster.status.master
            →
          WithinLag cd curMasterDB newcd.cluster.status.master)
          ↔
        cd.cluster.status.pauseActive env.now = true
          ∨
        (syncRepl cd.cluster.defSpec = true →
          ∀ dbUID, dbUID ≠ cd.cluster.status.master →
            UnfilteredChangeDue env s cd curMasterDB dbUID → WithinLag cd curMasterDB dbUID))) := by
  have hiff := updateCluster_new_master_iff (Q := WithinLag cd curMasterDB) hphase hcur h
  refine ⟨hiff, ?_⟩
  intro hkeyed
  rw [hiff, masterChangeDue_withinLag_iff hkeyed]

def sampleEnabling : ClusterData where
  formatVersion := currentCDFormatVersion
  cluster := {
    uid := "cluster"
    generation := initialGeneration
    spec := { initMode := some .new, synchronousReplication := some true }
    status := { phase := .normal, master := "a" }
  }
  keepers := (Std.ExtTreeMap.empty.insert "k1" (sampleKeeper "k1")).insert "k2" (sampleKeeper "k2")
  dbs := (Std.ExtTreeMap.empty.insert "a" { sampleMaster with
      spec := { keeperUID := "k1", initMode := .none, role := .master }
      status := { currentGeneration := 2, timelineID := 1, xLogPos := 2 ^ 30 }
    }).insert "b" (sampleStandby "b" "k2")
  proxy := {}

theorem updateCluster_new_master_withinLag_iff_sample
    : ∃ s' newcd,
        ({} : Sentinel).updateCluster (.simplest 0) (sampleSwitch "k2") ∅ = .ok (s', newcd)
          ∧
        newcd.cluster.status.master = "b"
          ∧
        ((newcd.cluster.status.master ≠ "a"
            →
          WithinLag (sampleSwitch "k2") sampleMaster newcd.cluster.status.master)
            ↔
          ClusterStatus.pauseActive (sampleSwitch "k2").cluster.status 0 = true
            ∨
          ∀ dbUID, dbUID ≠ "a" →
            MasterChangeDue (.simplest 0) {} (sampleSwitch "k2") sampleMaster dbUID →
              WithinLag (sampleSwitch "k2") sampleMaster dbUID) := by
  have hrun : (({} : Sentinel).updateCluster (.simplest 0) (sampleSwitch "k2") ∅).toOption.map
      (fun r => r.2.cluster.status.master) = some "b" := by
    decide +kernel
  obtain ⟨⟨s', newcd⟩, hrun, hmaster⟩ := Except.exists_ok_of_toOption_map hrun
  refine ⟨s', newcd, hrun, hmaster, ?_⟩
  exact (updateCluster_new_master_withinLag_iff (.simplest 0) {} s' (sampleSwitch "k2") newcd ∅
    sampleMaster rfl (by decide +kernel) hrun).1

/--
While the spec of the master has not followed the cluster spec, a failover elects a standby that is a
gigabyte behind.
-/
theorem updateCluster_elects_lagging
    : ∃ (env : Env) (s s' : Sentinel) (cd newcd : ClusterData) (pis : ProxiesInfo)
        (curMasterDB : DB),
        cd.cluster.status.phase = .normal
          ∧
        cd.dbs[cd.cluster.status.master]? = some curMasterDB
          ∧
        s.updateCluster env cd pis = .ok (s', newcd)
          ∧
        newcd.cluster.status.master ≠ cd.cluster.status.master
          ∧
        ¬ WithinLag cd curMasterDB newcd.cluster.status.master := by
  have hrun : (({} : Sentinel).updateCluster (.simplest 0) sampleEnabling ∅).toOption.map
      (fun r => r.2.cluster.status.master) = some "b" := by
    decide +kernel
  obtain ⟨⟨s', newcd⟩, hrun, hmaster⟩ := Except.exists_ok_of_toOption_map hrun
  dsimp only at hmaster
  refine ⟨.simplest 0, {}, s', sampleEnabling, newcd, ∅, _, rfl, rfl, hrun, ?_, ?_⟩
  . rw [hmaster]
    decide
  . rw [hmaster]
    rintro (⟨hsync, -⟩ | hlag)
    . simp at hsync
    . specialize hlag (sampleStandby "b" "k2") (by decide +kernel)
      revert hlag
      decide +kernel

end Lag

section Allowed

def chosenKeeper (env : Env) (cd : ClusterData) : Option Keeper :=
  match cd.cluster.defSpec.initMode with
  | some .new => (findInitialKeeper env cd).toOption
  | some .pitr => (findInitialKeeper env cd).toOption
  | some .existing => cd.cluster.defSpec.existingConfig.bind (fun config =>
      cd.keepers[config.keeperUID]?)
  | _ => none

theorem findInitialKeeper_of_initialKeeper {k : Keeper} (h : initialKeeper env cd = .ok k)
    : (findInitialKeeper env cd).toOption = some k := by
  unfold initialKeeper at h
  split at h
  . cases h
  . cases h
  . next hk =>
    cases h
    rw [hk]
    rfl

theorem initCluster_chosen (hmaster : cd.cluster.status.master = "")
    (h : s.initCluster env cd = .ok (s', newcd))
    : ∃ (k : Keeper) (db : DB),
        chosenKeeper env cd = some k
          ∧
        db.uid = env.uidFn 0
          ∧
        db.spec.keeperUID = k.uid
          ∧
        newcd = addInitialMaster cd db := by
  unfold initCluster at h
  unfold chosenKeeper
  split at h
  . cases h
  . next hmode =>
    rw [hmode]
    simp only [initNew, hmaster, ↓reduceIte] at h
    split at h
    . cases h
    . next k hk =>
      cases h
      exact ⟨k, _, findInitialKeeper_of_initialKeeper hk, rfl, rfl, rfl⟩
  . next hmode =>
    rw [hmode]
    simp only [initExisting, hmaster, ↓reduceIte] at h
    split at h
    . cases h
    . next config hconfig =>
      split at h
      . cases h
      . next k hk =>
        cases h
        refine ⟨k, _, ?_, rfl, rfl, rfl⟩
        rw [hconfig]
        exact hk
  . next hmode =>
    rw [hmode]
    simp only [initPITR, hmaster, ↓reduceIte] at h
    split at h
    . cases h
    . next k hk =>
      split at h
      . cases h
      . cases h
        exact ⟨k, _, findInitialKeeper_of_initialKeeper hk, rfl, rfl, rfl⟩
  . cases h

theorem mem_keepers_of_chosenKeeper {k : Keeper} (h : chosenKeeper env cd = some k)
    : ∃ (key : String), cd.keepers[key]? = some k := by
  have hinitial (hk : (findInitialKeeper env cd).toOption = some k)
      : ∃ (key : String), cd.keepers[key]? = some k := by
    cases hfind : findInitialKeeper env cd with
    | error => simp [hfind, Except.toOption] at hk
    | ok k' =>
      rw [hfind] at hk
      cases hk
      exact findInitialKeeper_registered hfind
  unfold chosenKeeper at h
  split at h
  . exact hinitial h
  . exact hinitial h
  . obtain ⟨config, -, hk⟩ := Option.bind_eq_some_iff.mp h
    exact ⟨_, hk⟩
  . cases h

/--
Whoever becomes the master in this update may: the keeper that the initialization chooses, and the
keeper of every database on the primary line to which a change is due. The standbys are filtered.
-/
structure AllowedMasters (env : Env) (s : Sentinel) (cd : ClusterData) : Prop where
  initial : cd.cluster.status.phase = .initializing → cd.cluster.status.master = "" →
    ∀ (k : Keeper), chosenKeeper env cd = some k → k.status.canBeMaster ≠ some false
  change : cd.cluster.status.phase = .normal →
    cd.cluster.status.pauseActive env.now = true
      ∨
    ∀ (curMasterDB db : DB) (dbUID : String),
      cd.dbs[cd.cluster.status.master]? = some curMasterDB
        →
      dbUID ≠ cd.cluster.status.master
        →
      MasterChangeDue env s cd curMasterDB dbUID
        →
      cd.dbs[dbUID]? = some db
        →
      db.spec.type = some .primaryLine
        →
      canBeMaster cd db = true

theorem canBeMaster_eq_true_iff {db : DB} {k : Keeper}
    (hk : cd.keepers[db.spec.keeperUID]? = some k)
    : canBeMaster cd db = true ↔ k.status.canBeMaster ≠ some false := by
  unfold canBeMaster
  rw [hk]
  simp

theorem canBeMaster_removeOldKeepers {db : DB} {uid : String} (h : cd.Assigned)
    (hdb : cd.dbs[uid]? = some db) (now : Time)
    : canBeMaster (removeOldKeepers now cd) db = canBeMaster cd db := by
  unfold canBeMaster
  rw [getElem?_removeOldKeepers h hdb]

theorem canBeMaster_updateCluster {db db' : DB} {uid : String} (h : cd.Sound)
    (hfresh : env.Fresh cd.dbs) (hrun : s.updateCluster env cd pis = .ok (s', newcd))
    (hdb : cd.dbs[uid]? = some db) (hdb' : newcd.dbs[uid]? = some db')
    : canBeMaster newcd db' = canBeMaster cd db := by
  have hkeeper := (updateCluster_inherits h hfresh hrun hdb hdb').1
  have hmem := (sound_updateCluster h hfresh hrun).assigned.registered uid db' hdb'
  obtain ⟨k, hk⟩ := Option.isSome_iff_exists.mp (Std.ExtTreeMap.mem_iff_isSome_getElem?.mp hmem)
  have hold := updateCluster_keepers hrun hk
  unfold canBeMaster
  rw [hk, ← hkeeper, hold]

theorem updateCluster_initial_allowed_iff (hsound : cd.Sound) (hfresh : env.Fresh cd.dbs)
    (hphase : cd.cluster.status.phase = .initializing)
    (h : s.updateCluster env cd pis = .ok (s', newcd))
    : (newcd.cluster.status.master ≠ cd.cluster.status.master
        →
      ∀ (db : DB), newcd.dbs[newcd.cluster.status.master]? = some db → canBeMaster newcd db = true)
        ↔
      (cd.cluster.status.master = "" →
        ∀ (k : Keeper), chosenKeeper env cd = some k → k.status.canBeMaster ≠ some false) := by
  unfold updateCluster at h
  rw [hphase] at h
  simp only [Except.bind_eq_ok_iff, Except.pure_eq_ok, Except.ok.injEq, Prod.mk.injEq] at h
  obtain ⟨⟨sm, mid⟩, hinit, newcd', hfinish, -, rfl⟩ := h
  have hfinished := finishUpdate_finished hfinish
  rw [finishUpdate_cluster hfinish]
  by_cases hmaster : cd.cluster.status.master = ""
  . obtain ⟨k, db, hchosen, huid, hkeeper, rfl⟩ := initCluster_chosen hmaster hinit
    obtain ⟨orphans, hdbs⟩ := hfinished.getElem?_dbs db.uid
    obtain ⟨key, hk⟩ := mem_keepers_of_chosenKeeper hchosen
    have hkey := hsound.assigned.keeperKeyed key k hk
    have hnew : (addInitialMaster cd db).dbs[db.uid]? = some db := by
      simp [addInitialMaster]
    have hne : db.uid ≠ cd.cluster.status.master := by
      rw [hmaster, huid]
      exact hfresh.ne_empty 0
    rw [hnew, Option.map_some] at hdbs
    have hcan (db' : DB) (hdb' : newcd'.dbs[db.uid]? = some db')
        : canBeMaster newcd' db' = true ↔ k.status.canBeMaster ≠ some false := by
      rw [hdbs] at hdb'
      cases hdb'
      apply canBeMaster_eq_true_iff
      rw [hfinished.keepers]
      simp only [finishSpec, dbSpecFromClusterSpec_keeps, hkeeper, hkey]
      exact hk
    constructor
    . intro hallowed _ k' hk'
      rw [hchosen] at hk'
      cases hk'
      rw [← hcan _ hdbs]
      exact hallowed hne _ hdbs
    . intro hallowed _ db' hdb'
      rw [hcan db' hdb']
      exact hallowed hmaster k hchosen
  . simp only [hmaster, false_implies, iff_true]
    intro hne db hdb
    cases initCluster_cases hinit with
    | chosen _ hempty => exact absurd hempty hmaster
    | awaited => exact absurd rfl hne
    | completed => exact absurd rfl hne
    | restarted =>
      obtain ⟨orphans, hdbs⟩ := hfinished.getElem?_dbs ""
      rw [hdb] at hdbs
      simp at hdbs

theorem updateCluster_change_allowed_iff (hsound : cd.Sound) (hfresh : env.Fresh cd.dbs)
    (hphase : cd.cluster.status.phase = .normal)
    (hcur : cd.dbs[cd.cluster.status.master]? = some curMasterDB)
    (h : s.updateCluster env cd pis = .ok (s', newcd))
    : (newcd.cluster.status.master ≠ cd.cluster.status.master
        →
      ∀ (db : DB), newcd.dbs[newcd.cluster.status.master]? = some db → canBeMaster newcd db = true)
        ↔
      cd.cluster.status.pauseActive env.now = true
        ∨
      ∀ (db : DB) (dbUID : String),
        dbUID ≠ cd.cluster.status.master
          →
        MasterChangeDue env s cd curMasterDB dbUID
          →
        cd.dbs[dbUID]? = some db
          →
        db.spec.type = some .primaryLine
          →
        canBeMaster cd db = true := by
  have hnewsound := sound_updateCluster hsound hfresh h
  constructor
  . intro hnew
    cases hpause : cd.cluster.status.pauseActive env.now with
    | true => exact .inl rfl
    | false =>
      right
      intro db dbUID hne hdue hdb _
      have hmaster := (updateCluster_changes_master_iff hphase hcur h hne).mpr ⟨hpause, hdue⟩
      obtain ⟨db', hdb', -⟩ := hnewsound.master (updateCluster_phase hphase h)
      have hallowed := hnew (hmaster ▸ hne) db' hdb'
      rw [hmaster] at hdb'
      rw [← canBeMaster_updateCluster hsound hfresh h hdb hdb']
      exact hallowed
  . intro hcond hne db' hdb'
    obtain ⟨hpause, hdue⟩ := (updateCluster_changes_master_iff hphase hcur h hne).mp rfl
    cases hcond with
    | inl hpaused =>
      rw [hpause] at hpaused
      cases hpaused
    | inr hall =>
      obtain ⟨search, heligible⟩ := hdue.eligible hne
      obtain ⟨c, hdb⟩ := heligible.stored hsound.assigned.keyed
      rw [canBeMaster_updateCluster hsound hfresh h hdb hdb']
      cases (heligible.filters hsound.assigned.keyed hdb).2 with
      | inl hallowed =>
        rw [canBeMaster_removeOldKeepers hsound.assigned hdb] at hallowed
        exact hallowed
      | inr hline => exact hall c _ hne hdue hdb hline

/--
An update that changes the master puts it on a keeper that may have it exactly when everyone who
becomes the master may.
-/
theorem updateCluster_new_master_allowed_iff (env : Env) (s s' : Sentinel) (cd newcd : ClusterData)
    (pis : ProxiesInfo) (hreachable : clusterDataSystem.Reachable cd) (hfresh : env.Fresh cd.dbs)
    (h : s.updateCluster env cd pis = .ok (s', newcd))
    : (newcd.cluster.status.master ≠ cd.cluster.status.master
        →
      ∀ (db : DB), newcd.dbs[newcd.cluster.status.master]? = some db → canBeMaster newcd db = true)
        ↔
      AllowedMasters env s cd := by
  have hsound := sound_inductive.of_reachable hreachable
  cases hsound.phase with
  | inl hphase =>
    rw [updateCluster_initial_allowed_iff hsound hfresh hphase h]
    constructor
    . intro hinitial
      constructor
      case initial => exact fun _ => hinitial
      case change =>
        intro hnormal
        rw [hphase] at hnormal
        cases hnormal
    . intro hallowed
      exact hallowed.initial hphase
  | inr hphase =>
    obtain ⟨curMasterDB, hcur, -⟩ := hsound.master hphase
    rw [updateCluster_change_allowed_iff hsound hfresh hphase hcur h]
    constructor
    . intro hchange
      constructor
      case initial =>
        intro hinitializing
        rw [hphase] at hinitializing
        cases hinitializing
      case change =>
        intro _
        refine hchange.imp_right ?_
        intro hall curMasterDB' db dbUID hcur'
        rw [hcur] at hcur'
        cases hcur'
        apply hall
    . intro hallowed
      refine (hallowed.change hphase).imp_right ?_
      intro hall db dbUID
      apply hall curMasterDB db dbUID hcur

def sampleRegistered (canBeMaster : Option Bool) : ClusterData :=
  let cd := newClusterData (newCluster "cluster" { initMode := some .new })
  let info : KeeperInfo := { infoUID := "i", uid := "k1", clusterUID := "cluster", canBeMaster }
  match ({} : Sentinel).updateKeepersStatus 1 cd (getKeepersInfo [info]) false with
  | .ok (_, cd', _) => cd'
  | .error _ => cd

theorem reachable_sampleRegistered (canBeMaster : Option Bool)
    : clusterDataSystem.Reachable (sampleRegistered canBeMaster) := by
  have hinit : clusterDataSystem.Reachable
      (newClusterData (newCluster "cluster" { initMode := some .new })) := .init ⟨_, _, rfl⟩
  unfold sampleRegistered
  dsimp only
  split
  . next hmerge => exact hinit.step (.updateKeepersStatus _ _ _ _ _ _ hmerge)
  . exact hinit

theorem updateCluster_new_master_allowed_iff_sample
    : ∃ s' newcd,
        ({} : Sentinel).updateCluster (.simplest 2) (sampleRegistered (some true)) ∅
          = .ok (s', newcd)
          ∧
        newcd.cluster.status.master = "d"
          ∧
        ((newcd.cluster.status.master ≠ (sampleRegistered (some true)).cluster.status.master
            →
          ∀ (db : DB), newcd.dbs[newcd.cluster.status.master]? = some db →
            canBeMaster newcd db = true)
            ↔
          AllowedMasters (.simplest 2) {} (sampleRegistered (some true))) := by
  have hrun : (({} : Sentinel).updateCluster (.simplest 2) (sampleRegistered (some true))
      ∅).toOption.map (fun r => r.2.cluster.status.master) = some "d" := by
    decide +kernel
  obtain ⟨⟨s', newcd⟩, hrun, hmaster⟩ := Except.exists_ok_of_toOption_map hrun
  refine ⟨s', newcd, hrun, hmaster, ?_⟩
  exact updateCluster_new_master_allowed_iff (.simplest 2) {} s' (sampleRegistered (some true)) newcd
    ∅ (reachable_sampleRegistered _) (Env.fresh_simplest (by decide +kernel)) hrun

/--
The only keeper of a new cluster is given the master although it was started not to have it.
-/
theorem updateCluster_chooses_disallowed
    : ∃ (env : Env) (s s' : Sentinel) (cd newcd : ClusterData) (pis : ProxiesInfo) (db : DB)
        (k : Keeper),
        clusterDataSystem.Reachable cd
          ∧
        env.Fresh cd.dbs
          ∧
        s.updateCluster env cd pis = .ok (s', newcd)
          ∧
        newcd.cluster.status.master ≠ cd.cluster.status.master
          ∧
        newcd.dbs[newcd.cluster.status.master]? = some db
          ∧
        newcd.keepers[db.spec.keeperUID]? = some k
          ∧
        k.status.canBeMaster = some false := by
  have hrun : (({} : Sentinel).updateCluster (.simplest 2) (sampleRegistered (some false))
      ∅).toOption.map (fun r => (r.2.cluster.status.master,
        (r.2.dbs[r.2.cluster.status.master]?).bind (fun db => (r.2.keepers[db.spec.keeperUID]?).map
          (fun k => k.status.canBeMaster)))) = some ("d", some (some false)) := by
    decide +kernel
  obtain ⟨⟨s', newcd⟩, hrun, hchosen⟩ := Except.exists_ok_of_toOption_map hrun
  simp only [Prod.mk.injEq, Option.bind_eq_some_iff, Option.map_eq_some_iff] at hchosen
  obtain ⟨hmaster, db, hdb, k, hk, hflag⟩ := hchosen
  refine ⟨.simplest 2, {}, s', sampleRegistered (some false), newcd, ∅, db, k,
    reachable_sampleRegistered _, Env.fresh_simplest (by decide +kernel), hrun, ?_, hdb, hk, hflag⟩
  rw [hmaster]
  decide +kernel

end Allowed

end Sentinel
end Hysteron
