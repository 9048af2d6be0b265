import Hysteron.Sentinel.Lemmas.Election

/-!
Elections under synchronous replication. A failover only elects a database that is a synchronous
standby of the failed master, both required and known to be in sync. A manual switch and an
auto-failback do not look at the synchronous standbys, and the main result says exactly when they
leave them.
-/

namespace Hysteron
namespace Sentinel

variable {env : Env} {s s' : Sentinel} {cd newcd : ClusterData} {pis : ProxiesInfo}
variable {curMasterDB : DB}

theorem bestPriorityAbove_eq_none_iff {priority : Int} {candidates : List DB}
    : bestPriorityAbove cd priority candidates = none
        ↔
      ∀ c ∈ candidates, keeperMasterPriority cd c ≤ priority := by
  induction candidates generalizing priority with
  | nil => simp [bestPriorityAbove]
  | cons c candidates ih =>
    unfold bestPriorityAbove
    split
    . next hle => simp [ih, hle]
    . next hlt =>
      split
      . next => simp [hlt]
      . next => simp [hlt]

theorem bestPriorityAbove_eq_some_iff {priority : Int} {candidates : List DB} {target : DB}
    : bestPriorityAbove cd priority candidates = some target
        ↔
      ∃ before after,
        candidates = before ++ target :: after
          ∧
        priority < keeperMasterPriority cd target
          ∧
        (∀ c ∈ before, keeperMasterPriority cd c < keeperMasterPriority cd target)
          ∧
        (∀ c ∈ after, keeperMasterPriority cd c ≤ keeperMasterPriority cd target) := by
  induction candidates generalizing priority target with
  | nil => simp [bestPriorityAbove]
  | cons c candidates ih =>
    unfold bestPriorityAbove
    split
    . next hle =>
      rw [ih]
      constructor
      . rintro ⟨before, after, rfl, hlt, hbefore, hafter⟩
        refine ⟨c :: before, after, rfl, hlt, ?_, hafter⟩
        simpa using ⟨Int.lt_of_le_of_lt hle hlt, hbefore⟩
      . rintro ⟨before, after, heq, hlt, hbefore, hafter⟩
        cases before with
        | nil =>
          cases heq
          omega
        | cons b before =>
          cases heq
          exact ⟨before, after, rfl, hlt, fun x hx => hbefore x (List.mem_cons_of_mem _ hx), hafter⟩
    . next hgt =>
      split
      . next t ht =>
        have hspec := ih.mp ht
        constructor
        . rintro ⟨rfl⟩
          obtain ⟨before, after, rfl, hlt, hbefore, hafter⟩ := hspec
          refine ⟨c :: before, after, rfl, by omega, ?_, hafter⟩
          simpa using ⟨hlt, hbefore⟩
        . rintro ⟨before, after, heq, hlt, hbefore, hafter⟩
          rw [← ht]
          refine ih.mpr ?_
          cases before with
          | nil =>
            cases heq
            obtain ⟨before', after', rfl, hlt', -, -⟩ := hspec
            have := hafter t (by simp)
            omega
          | cons b before =>
            cases heq
            exact ⟨before, after, rfl, hbefore c List.mem_cons_self,
              fun x hx => hbefore x (List.mem_cons_of_mem _ hx), hafter⟩
      . next hnone =>
        have hle := bestPriorityAbove_eq_none_iff.mp hnone
        constructor
        . rintro ⟨rfl⟩
          exact ⟨[], candidates, rfl, by omega, by simp, hle⟩
        . rintro ⟨before, after, heq, hlt, hbefore, hafter⟩
          cases before with
          | nil =>
            cases heq
            rfl
          | cons b before =>
            cases heq
            have := hle target (by simp)
            have := hbefore c List.mem_cons_self
            omega

def SwitchRequested (env : Env) (cd : ClusterData) (targetDB : DB) : Prop :=
  ∃ req keeper,
    cd.cluster.status.manualSwitch = some req
      ∧
    (removeOldKeepers env.now cd).keepers[req.targetKeeperUID]? = some keeper
      ∧
    cd.findDB (env.order .manualSwitchTarget) keeper.uid = some targetDB

def Eligible (env : Env) (s : Sentinel) (search : CandidateSearch) (cd : ClusterData)
    (curMasterDB : DB) (dbUID : String) : Prop :=
  ∃ candidates,
    s.findBestNewMasters env search (removeOldKeepers env.now cd) curMasterDB = .ok candidates
      ∧
    ∃ c ∈ candidates, c.uid = dbUID

def ManualSwitchDue (env : Env) (s : Sentinel) (cd : ClusterData) (curMasterDB : DB)
    (dbUID : String) : Prop :=
  ∃ targetDB,
    SwitchRequested env cd targetDB
      ∧
    targetDB.uid = dbUID
      ∧
    (dbUID = cd.cluster.status.master ∨ Eligible env s .manualSwitch cd curMasterDB dbUID)

def AutoFailbackDue (env : Env) (s : Sentinel) (cd : ClusterData) (curMasterDB : DB)
    (dbUID : String) : Prop :=
  cd.cluster.defSpec.unsafeAutoFailback = true
    ∧
  (∀ other, ¬ ManualSwitchDue env s cd curMasterDB other)
    ∧
  s.masterOK env.now cd.cluster.defSpec curMasterDB = true
    ∧
  let newcd := removeOldKeepers env.now cd
  ∃ before target after keeper,
    s.findBestNewMasters env .autoFailback newcd curMasterDB = .ok (before ++ target :: after)
      ∧
    target.uid = dbUID
      ∧
    keeperMasterPriority newcd curMasterDB < keeperMasterPriority newcd target
      ∧
    (∀ c ∈ before, keeperMasterPriority newcd c < keeperMasterPriority newcd target)
      ∧
    (∀ c ∈ after, keeperMasterPriority newcd c ≤ keeperMasterPriority newcd target)
      ∧
    newcd.keepers[target.spec.keeperUID]? = some keeper
      ∧
    s.autoFailbackDue env.now cd.cluster.defSpec keeper = true

theorem switchRequested_unique {targetDB targetDB' : DB} (h : SwitchRequested env cd targetDB)
    (h' : SwitchRequested env cd targetDB') : targetDB = targetDB' := by
  obtain ⟨req, keeper, hreq, hkeeper, hdb⟩ := h
  obtain ⟨req', keeper', hreq', hkeeper', hdb'⟩ := h'
  rw [hreq] at hreq'
  cases hreq'
  rw [hkeeper] at hkeeper'
  cases hkeeper'
  rw [hdb] at hdb'
  cases hdb'
  rfl

theorem manualSwitchOutcome_spec {outcome : ManualSwitchOutcome}
    (h : s.manualSwitchOutcome env (removeOldKeepers env.now cd) cd.cluster.status.master curMasterDB
      = .ok outcome)
    : match outcome with
      | .noTarget => ∀ targetDB, ¬ SwitchRequested env cd targetDB
      | .alreadyMaster => ManualSwitchDue env s cd curMasterDB cd.cluster.status.master
      | .notEligible => ∀ dbUID, ¬ ManualSwitchDue env s cd curMasterDB dbUID
      | .switchTo dbUID =>
        ManualSwitchDue env s cd curMasterDB dbUID ∧ dbUID ≠ cd.cluster.status.master := by
  unfold manualSwitchOutcome at h
  split at h
  . next hreq =>
    cases h
    have hreq : cd.cluster.status.manualSwitch = none := hreq
    rintro targetDB ⟨req, -, hreq', -⟩
    rw [hreq] at hreq'
    cases hreq'
  . next req hreq =>
    have hreq : cd.cluster.status.manualSwitch = some req := hreq
    split at h
    . next hkeeper =>
      cases h
      rintro targetDB ⟨req', keeper, hreq', hkeeper', -⟩
      rw [hreq] at hreq'
      cases hreq'
      rw [hkeeper] at hkeeper'
      cases hkeeper'
    . next keeper hkeeper =>
      split at h
      . next hdb =>
        cases h
        rintro targetDB ⟨req', keeper', hreq', hkeeper', hdb'⟩
        rw [hreq] at hreq'
        cases hreq'
        rw [hkeeper] at hkeeper'
        cases hkeeper'
        have hdb : cd.findDB (env.order .manualSwitchTarget) keeper.uid = none := hdb
        rw [hdb] at hdb'
        cases hdb'
      . next targetDB hdb =>
        have hrequested : SwitchRequested env cd targetDB := ⟨req, keeper, hreq, hkeeper, hdb⟩
        split at h
        . next hmaster =>
          cases h
          exact ⟨targetDB, hrequested, hmaster, .inl rfl⟩
        . next hmaster =>
          simp only [Except.bind_eq_ok_iff] at h
          obtain ⟨candidates, hcandidates, h⟩ := h
          split at h
          . next hany =>
            cases h
            obtain ⟨c, hc, heq⟩ := by simpa using hany
            exact ⟨⟨targetDB, hrequested, rfl, .inr ⟨candidates, hcandidates, c, hc, heq⟩⟩, hmaster⟩
          . next hany =>
            cases h
            rintro dbUID ⟨targetDB', hrequested', rfl, hdue⟩
            cases switchRequested_unique hrequested hrequested'
            cases hdue with
            | inl heq => exact hmaster heq
            | inr heligible =>
              obtain ⟨candidates', hcandidates', c, hc, heq⟩ := heligible
              rw [hcandidates] at hcandidates'
              cases hcandidates'
              exact hany (by simpa using ⟨c, hc, heq⟩)

theorem pickNewMaster_sync {candidates : List DB} {db : DB} {clearBackoff : Bool}
    (hspec : cd.cluster.defSpec.synchronousReplication = true)
    (hmaster : curMasterDB.spec.synchronousReplication = true)
    (h : pickNewMaster cd curMasterDB candidates = (some db, clearBackoff))
    : db.uid ∈ curMasterDB.status.synchronousStandbys.elems
        ∧
      db.uid ∈ curMasterDB.spec.synchronousStandbys.elems := by
  unfold pickNewMaster at h
  simp only [hspec, hmaster, Bool.and_self, Bool.not_true, Bool.false_eq_true, ↓reduceIte] at h
  split at h
  . cases h
  . split at h
    . next hfind =>
      cases h
      have hcommon := List.find?_some hfind
      simpa using hcommon
    . cases h

theorem chooseBestNewMaster_sync {db : DB} {clearBackoff : Bool} {failInterval : Duration}
    (hspec : cd.cluster.defSpec.synchronousReplication = true)
    (hmaster : curMasterDB.spec.synchronousReplication = true)
    (h : s.chooseBestNewMaster env cd curMasterDB failInterval = .ok (s', some db, clearBackoff))
    : db.uid ∈ curMasterDB.status.synchronousStandbys.elems
        ∧
      db.uid ∈ curMasterDB.spec.synchronousStandbys.elems := by
  simp only [chooseBestNewMaster, Except.bind_eq_ok_iff] at h
  obtain ⟨candidates, -, h⟩ := h
  split at h
  . cases h
  . split at h
    . simp only [Except.pure_eq_ok, Except.ok.injEq, Prod.mk.injEq] at h
      exact pickNewMaster_sync hspec hmaster h.2
    . split at h
      . cases h
      . simp only [Except.pure_eq_ok, Except.ok.injEq, Prod.mk.injEq] at h
        exact pickNewMaster_sync hspec hmaster h.2

theorem chooseAutoFailbackTarget_eq_some_iff {target : DB}
    : s.chooseAutoFailbackTarget env cd curMasterDB = .ok (some target)
        ↔
      cd.cluster.defSpec.unsafeAutoFailback = true
        ∧
      ∃ before after keeper,
        s.findBestNewMasters env .autoFailback cd curMasterDB = .ok (before ++ target :: after)
          ∧
        keeperMasterPriority cd curMasterDB < keeperMasterPriority cd target
          ∧
        (∀ c ∈ before, keeperMasterPriority cd c < keeperMasterPriority cd target)
          ∧
        (∀ c ∈ after, keeperMasterPriority cd c ≤ keeperMasterPriority cd target)
          ∧
        cd.keepers[target.spec.keeperUID]? = some keeper
          ∧
        s.autoFailbackDue env.now cd.cluster.defSpec keeper = true := by
  constructor
  . intro h
    unfold chooseAutoFailbackTarget at h
    dsimp only at h
    split at h
    . cases h
    . next henabled =>
      simp only [Except.bind_eq_ok_iff] at h
      obtain ⟨candidates, hcandidates, h⟩ := h
      split at h
      . cases h
      . next t ht =>
        obtain ⟨before, after, rfl, hlt, hbefore, hafter⟩ := bestPriorityAbove_eq_some_iff.mp ht
        split at h
        . cases h
        . next keeper hkeeper =>
          simp only [Except.pure_eq_ok, Except.ok.injEq] at h
          split at h
          . next hdue =>
            cases h
            exact ⟨by simpa using henabled, before, after, keeper, hcandidates, hlt, hbefore, hafter,
              hkeeper, hdue⟩
          . cases h
  . rintro ⟨henabled, before, after, keeper, hcandidates, hlt, hbefore, hafter, hkeeper, hdue⟩
    have hbest := bestPriorityAbove_eq_some_iff.mpr ⟨before, after, rfl, hlt, hbefore, hafter⟩
    simp [chooseAutoFailbackTarget, henabled, hcandidates, hbest, hkeeper, hdue]

theorem chooseAutoFailbackTarget_tracked (h : s' = s ∨ s' = s.trackCandidates env.now newcd)
    (masterUID : String) (timeout : Duration)
    : ((s'.trackDBConvergence env.now curMasterDB timeout).clearLeaderRaceBackoff
        masterUID).chooseAutoFailbackTarget env cd curMasterDB
        =
      s.chooseAutoFailbackTarget env cd curMasterDB := by
  have hclear (s : Sentinel) : (s.clearLeaderRaceBackoff masterUID).chooseAutoFailbackTarget env cd
      curMasterDB = s.chooseAutoFailbackTarget env cd curMasterDB :=
    chooseAutoFailbackTarget_congr (sameVerdicts_clearLeaderRaceBackoff _) rfl rfl _
  rw [hclear]
  rw [chooseAutoFailbackTarget_congr (sameVerdicts_trackDBConvergence curMasterDB timeout) (by simp)
    (by simp)]
  cases h with
  | inl h => rw [h]
  | inr h =>
    rw [h]
    exact chooseAutoFailbackTarget_congr sameVerdicts_trackCandidates
      (trackCandidates_keeps (fun s => s.keeperHealthySince) (fun _ _ => rfl))
      (trackCandidates_keeps (fun s => s.autoFailbackLastSwitchAt) (fun _ _ => rfl)) _

theorem masterOK_tracked (h : s' = s ∨ s' = s.trackCandidates env.now newcd) (spec : DefSpec)
    : s'.masterOK env.now spec curMasterDB = s.masterOK env.now spec curMasterDB := by
  unfold masterOK
  cases h with
  | inl h => rw [h]
  | inr h => rw [h, sameVerdicts_trackCandidates]

theorem electFailover_wanted {election : Election} {masterUID : String}
    (hspec : cd.cluster.defSpec.synchronousReplication = true)
    (hmaster : curMasterDB.spec.synchronousReplication = true)
    (h : s.electFailover env cd masterUID curMasterDB = .ok election)
    (hne : election.wantedMasterDBUID ≠ masterUID)
    : election.wantedMasterDBUID ∈ curMasterDB.status.synchronousStandbys.elems
        ∧
      election.wantedMasterDBUID ∈ curMasterDB.spec.synchronousStandbys.elems := by
  simp only [electFailover, Except.bind_eq_ok_iff, Except.pure_eq_ok, Except.ok.injEq] at h
  obtain ⟨⟨sb, best, clearBackoff⟩, hbest, rfl⟩ := h
  cases best with
  | none => exact absurd rfl hne
  | some db => exact chooseBestNewMaster_sync hspec hmaster hbest

theorem electAutoFailback_wanted {election : Election} {masterUID : String}
    (h : s.electAutoFailback env cd masterUID curMasterDB = .ok election)
    : ∃ target,
        (s.clearLeaderRaceBackoff masterUID).chooseAutoFailbackTarget env cd curMasterDB = .ok target
          ∧
        election.wantedMasterDBUID = (target.map DB.uid).getD masterUID := by
  simp only [electAutoFailback, Except.bind_eq_ok_iff] at h
  obtain ⟨target, htarget, h⟩ := h
  refine ⟨target, htarget, ?_⟩
  cases target with
  | none =>
    cases h
    rfl
  | some target =>
    cases h
    rfl

theorem elect_cases {election : Election}
    (h : s.elect env (removeOldKeepers env.now cd) cd.cluster.status.master curMasterDB
      = .ok election)
    : ManualSwitchDue env s cd curMasterDB election.wantedMasterDBUID
        ∨
      (∀ dbUID, ¬ ManualSwitchDue env s cd curMasterDB dbUID)
        ∧
      ∃ searched,
        (searched = s ∨ searched = s.trackCandidates env.now (removeOldKeepers env.now cd))
          ∧
        searched.electAutomatic env (removeOldKeepers env.now cd) cd.cluster.status.master
          curMasterDB = .ok election := by
  simp only [elect, Except.bind_eq_ok_iff] at h
  obtain ⟨outcome, houtcome, h⟩ := h
  have hspec := manualSwitchOutcome_spec houtcome
  cases outcome with
  | noTarget =>
    have hdue (dbUID : String) : ¬ ManualSwitchDue env s cd curMasterDB dbUID := by
      rintro ⟨targetDB, hrequested, -⟩
      exact hspec targetDB hrequested
    exact .inr ⟨hdue, s, .inl rfl, h⟩
  | notEligible => exact .inr ⟨hspec, _, .inr rfl, h⟩
  | alreadyMaster =>
    cases h
    exact .inl hspec
  | switchTo dbUID =>
    cases h
    exact .inl hspec.1

theorem electAutomatic_cases {election : Election} {masterUID : String}
    (hsearched : s' = s ∨ s' = s.trackCandidates env.now newcd)
    (h : s'.electAutomatic env cd masterUID curMasterDB = .ok election)
    : (s.masterOK env.now cd.cluster.defSpec curMasterDB = true
        ∧
      ∃ target,
        s.chooseAutoFailbackTarget env cd curMasterDB = .ok target
          ∧
        election.wantedMasterDBUID = (target.map DB.uid).getD masterUID)
        ∨
      (s.masterOK env.now cd.cluster.defSpec curMasterDB = false
        ∧
      ∃ s'', electFailover env s'' cd masterUID curMasterDB = .ok election) := by
  unfold electAutomatic at h
  dsimp only at h
  rw [masterOK_tracked hsearched] at h
  split at h
  . next hok =>
    obtain ⟨target, htarget, hwanted⟩ := electAutoFailback_wanted h
    rw [chooseAutoFailbackTarget_tracked hsearched] at htarget
    exact .inl ⟨hok, target, htarget, hwanted⟩
  . next hok => exact .inr ⟨by simpa using hok, _, h⟩

theorem manualSwitchDue_unique {dbUID dbUID' : String}
    (h : ManualSwitchDue env s cd curMasterDB dbUID)
    (h' : ManualSwitchDue env s cd curMasterDB dbUID') : dbUID = dbUID' := by
  obtain ⟨targetDB, hrequested, rfl, -⟩ := h
  obtain ⟨targetDB', hrequested', rfl, -⟩ := h'
  rw [switchRequested_unique hrequested hrequested']

theorem elect_of_due {election : Election} {dbUID : String}
    (h : s.elect env (removeOldKeepers env.now cd) cd.cluster.status.master curMasterDB
      = .ok election)
    (hdue : ManualSwitchDue env s cd curMasterDB dbUID ∨ AutoFailbackDue env s cd curMasterDB dbUID)
    : election.wantedMasterDBUID = dbUID := by
  cases elect_cases h with
  | inl hswitch =>
    cases hdue with
    | inl hdue => exact manualSwitchDue_unique hswitch hdue
    | inr hdue => exact absurd hswitch (hdue.2.1 _)
  | inr hauto =>
    obtain ⟨hnone, searched, hsearched, hauto⟩ := hauto
    cases hdue with
    | inl hdue => exact absurd hdue (hnone _)
    | inr hdue =>
      obtain ⟨henabled, -, hok, before, target, after, keeper, hcandidates, huid, hlt, hbefore,
        hafter, hkeeper, hready⟩ := hdue
      have htarget : s.chooseAutoFailbackTarget env (removeOldKeepers env.now cd) curMasterDB
          = .ok (some target) := chooseAutoFailbackTarget_eq_some_iff.mpr
        ⟨henabled, before, after, keeper, hcandidates, hlt, hbefore, hafter, hkeeper, hready⟩
      cases electAutomatic_cases hsearched hauto with
      | inl hback =>
        obtain ⟨-, target', htarget', hwanted⟩ := hback
        rw [htarget] at htarget'
        cases htarget'
        rw [hwanted]
        exact huid
      | inr hfail =>
        have hbad := hfail.1
        rw [removeOldKeepers_cluster] at hbad
        rw [hok] at hbad
        cases hbad

theorem elect_new_master {election : Election}
    (hspec : cd.cluster.defSpec.synchronousReplication = true)
    (hmaster : curMasterDB.spec.synchronousReplication = true)
    (h : s.elect env (removeOldKeepers env.now cd) cd.cluster.status.master curMasterDB
      = .ok election)
    (hne : election.wantedMasterDBUID ≠ cd.cluster.status.master)
    : ManualSwitchDue env s cd curMasterDB election.wantedMasterDBUID
        ∨
      AutoFailbackDue env s cd curMasterDB election.wantedMasterDBUID
        ∨
      election.wantedMasterDBUID ∈ curMasterDB.status.synchronousStandbys.elems
        ∧
      election.wantedMasterDBUID ∈ curMasterDB.spec.synchronousStandbys.elems := by
  cases elect_cases h with
  | inl hswitch => exact .inl hswitch
  | inr hauto =>
    obtain ⟨hnone, searched, hsearched, hauto⟩ := hauto
    refine .inr ?_
    cases electAutomatic_cases hsearched hauto with
    | inl hback =>
      obtain ⟨hok, target, htarget, hwanted⟩ := hback
      cases target with
      | none => exact absurd hwanted hne
      | some target =>
        obtain ⟨henabled, before, after, keeper, hcandidates, hlt, hbefore, hafter, hkeeper, hready⟩ :=
          chooseAutoFailbackTarget_eq_some_iff.mp htarget
        rw [removeOldKeepers_cluster] at henabled hok hready
        refine .inl ⟨henabled, hnone, hok, before, target, after, keeper, hcandidates, ?_, hlt,
          hbefore, hafter, hkeeper, hready⟩
        rw [hwanted]
        rfl
    | inr hfail =>
      obtain ⟨-, s'', hfail⟩ := hfail
      rw [← removeOldKeepers_cluster env.now] at hspec
      exact .inr (electFailover_wanted hspec hmaster hfail hne)

def SwitchesToSyncStandbys (env : Env) (s : Sentinel) (cd : ClusterData) (curMasterDB : DB) : Prop :=
  ∀ dbUID,
    dbUID ≠ cd.cluster.status.master
      →
    (ManualSwitchDue env s cd curMasterDB dbUID ∨ AutoFailbackDue env s cd curMasterDB dbUID)
      →
    dbUID ∈ curMasterDB.status.synchronousStandbys.elems
      ∧
    dbUID ∈ curMasterDB.spec.synchronousStandbys.elems

/--
With synchronous replication in force, an update that changes the master elects a synchronous standby
exactly when the cluster is paused or no manual switch and no auto-failback leads elsewhere.
-/
theorem updateCluster_elects_syncStandby_iff (env : Env) (s s' : Sentinel) (cd newcd : ClusterData)
    (pis : ProxiesInfo) (curMasterDB : DB)
    (hphase : cd.cluster.status.phase = .normal)
    (hcur : cd.dbs[cd.cluster.status.master]? = some curMasterDB)
    (hspec : cd.cluster.defSpec.synchronousReplication = true)
    (hmaster : curMasterDB.spec.synchronousReplication = true)
    (h : s.updateCluster env cd pis = .ok (s', newcd))
    : (newcd.cluster.status.master ≠ cd.cluster.status.master
        →
      newcd.cluster.status.master ∈ curMasterDB.status.synchronousStandbys.elems
        ∧
      newcd.cluster.status.master ∈ curMasterDB.spec.synchronousStandbys.elems)
        ↔
      cd.cluster.status.pauseActive env.now = true
        ∨
      SwitchesToSyncStandbys env s cd curMasterDB := by
  unfold updateCluster at h
  rw [hphase] at h
  dsimp only at h
  split at h
  . next hpaused =>
    cases h
    simp [hpaused]
  . next hpaused =>
    simp only [Except.bind_eq_ok_iff, Except.pure_eq_ok, Except.ok.injEq, Prod.mk.injEq] at h
    obtain ⟨⟨sm, mid⟩, hnormal, newcd', hfinish, rfl, rfl⟩ := h
    obtain ⟨curMasterDB', election, hcur', helect, hwanted⟩ := updateNormal_master hnormal
    rw [hcur] at hcur'
    cases hcur'
    rw [finishUpdate_cluster hfinish]
    rw [hwanted]
    constructor
    . intro hsafe
      refine .inr ?_
      intro dbUID hne hdue
      have heq := elect_of_due helect hdue
      rw [← heq] at hne ⊢
      exact hsafe hne
    . rintro (hpause | hswitches) hne
      . exact absurd hpause hpaused
      . cases elect_new_master hspec hmaster helect hne with
        | inl hdue => exact hswitches _ hne (.inl hdue)
        | inr hrest =>
          cases hrest with
          | inl hdue => exact hswitches _ hne (.inr hdue)
          | inr hsync => exact hsync

def sampleKeeper (uid : String) : Keeper where
  uid
  generation := initialGeneration
  status := { healthy := true }

def sampleStandby (uid keeperUID : String) : DB where
  uid
  generation := 2
  spec := {
    keeperUID
    initMode := .none
    role := .standby
    followConfig := some { type := .internal, dbuid := "a" }
  }
  status := { currentGeneration := 2, healthy := true, timelineID := 1 }

def sampleMaster : DB where
  uid := "a"
  generation := 2
  spec := {
    keeperUID := "k1"
    initMode := .none
    role := .master
    synchronousReplication := true
    synchronousStandbys := some ["b"]
  }
  status := {
    currentGeneration := 2
    healthy := true
    timelineID := 1
    synchronousStandbys := some ["b"]
  }

def sampleSwitch (targetKeeperUID : String) : ClusterData where
  formatVersion := currentCDFormatVersion
  cluster := {
    uid := "cluster"
    generation := initialGeneration
    spec := { initMode := some .new, synchronousReplication := some true }
    status := {
      phase := .normal
      master := "a"
      manualSwitch := some { targetKeeperUID, mode := .switchover }
    }
  }
  keepers := ((Std.ExtTreeMap.empty.insert "k1" (sampleKeeper "k1")).insert "k2"
    (sampleKeeper "k2")).insert "k3" (sampleKeeper "k3")
  dbs := ((Std.ExtTreeMap.empty.insert "a" sampleMaster).insert "b"
    (sampleStandby "b" "k2")).insert "c" (sampleStandby "c" "k3")
  proxy := {}

theorem updateCluster_elects_syncStandby_iff_sample
    : ∃ s' newcd,
        ({} : Sentinel).updateCluster (.simplest 0) (sampleSwitch "k2") ∅ = .ok (s', newcd)
          ∧
        newcd.cluster.status.master = "b"
          ∧
        ((newcd.cluster.status.master ≠ "a"
            →
          newcd.cluster.status.master ∈ ["b"] ∧ newcd.cluster.status.master ∈ ["b"])
            ↔
          ClusterStatus.pauseActive (sampleSwitch "k2").cluster.status 0 = true
            ∨
          SwitchesToSyncStandbys (.simplest 0) {} (sampleSwitch "k2") sampleMaster) := by
  have hrun : (({} : Sentinel).updateCluster (.simplest 0) (sampleSwitch "k2") ∅).toOption.map
      (fun r => r.2.cluster.status.master) = some "b" := by
    decide +kernel
  obtain ⟨⟨s', newcd⟩, hrun, hmaster⟩ := Except.exists_ok_of_toOption_map hrun
  refine ⟨s', newcd, hrun, hmaster, ?_⟩
  exact updateCluster_elects_syncStandby_iff (.simplest 0) {} s' (sampleSwitch "k2") newcd ∅
    sampleMaster rfl (by decide +kernel) rfl rfl hrun

/--
A manual switch elects the asynchronous standby although synchronous replication is in force.
-/
theorem updateCluster_elects_asyncStandby
    : ∃ (env : Env) (s s' : Sentinel) (cd newcd : ClusterData) (pis : ProxiesInfo) (curMasterDB : DB),
        cd.cluster.status.phase = .normal
          ∧
        cd.dbs[cd.cluster.status.master]? = some curMasterDB
          ∧
        cd.cluster.defSpec.synchronousReplication = true
          ∧
        curMasterDB.spec.synchronousReplication = true
          ∧
        s.updateCluster env cd pis = .ok (s', newcd)
          ∧
        newcd.cluster.status.master ≠ cd.cluster.status.master
          ∧
        ¬ (newcd.cluster.status.master ∈ curMasterDB.status.synchronousStandbys.elems
            ∧
          newcd.cluster.status.master ∈ curMasterDB.spec.synchronousStandbys.elems) := by
  have hrun : (({} : Sentinel).updateCluster (.simplest 0) (sampleSwitch "k3") ∅).toOption.map
      (fun r => r.2.cluster.status.master) = some "c" := by
    decide +kernel
  obtain ⟨⟨s', newcd⟩, hrun, hmaster⟩ := Except.exists_ok_of_toOption_map hrun
  dsimp only at hmaster
  refine ⟨.simplest 0, {}, s', sampleSwitch "k3", newcd, ∅, sampleMaster, rfl, by decide +kernel,
    rfl, rfl, hrun, ?_, ?_⟩
  . rw [hmaster]
    decide
  . rw [hmaster]
    decide

end Sentinel
end Hysteron
