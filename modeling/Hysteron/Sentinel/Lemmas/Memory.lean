import Hysteron.Sentinel.Check
import Hysteron.Sentinel.Lemmas.State
import Hysteron.Sentinel.Lemmas.Update

/-!
The memory of a sentinel across a check. An update only touches its convergence tracking and its
backoffs, so the error timers and the histories are those that the merge of the published state has
left.
-/

namespace Hysteron
namespace Sentinel

variable {env : Env} {s s' : Sentinel} {now : Time} {cd cd' newcd : ClusterData} {pis : ProxiesInfo}
variable {uid : String}

section Frame

structure Unaffected {γ : Type u} (view : Sentinel → γ) : Prop where
  infos : ∀ (s : Sentinel) infos, view { s with dbConvergenceInfos := infos } = view s
  timers : ∀ (s : Sentinel) timers, view { s with leaderRaceBackoffTimers := timers } = view s
  lastSwitch : ∀ (s : Sentinel) t, view { s with autoFailbackLastSwitchAt := t } = view s

/--
A relation between two states of the memory that everything an update at `now` does to it keeps.
-/
structure Frame (now : Time) (R : Sentinel → Sentinel → Prop) : Prop where
  refl : ∀ (s : Sentinel), R s s
  trans : ∀ {s s' s'' : Sentinel}, R s s' → R s' s'' → R s s''
  tracked : ∀ (s : Sentinel) (db : DB) (timeout : Duration),
    R s (s.trackDBConvergence now db timeout)
  timers : ∀ (s : Sentinel) timers, R s { s with leaderRaceBackoffTimers := timers }
  lastSwitch : ∀ (s : Sentinel), R s { s with autoFailbackLastSwitchAt := now }

namespace Frame

variable {R : Sentinel → Sentinel → Prop} {curMasterDBUID : String} {curMasterDB : DB}

theorem trackValidDBs (hR : Frame now R) (s : Sentinel) (wantType : DBType)
    : R s (s.trackValidDBs now cd wantType) := by
  unfold Sentinel.trackValidDBs
  refine FinMap.foldl_rel R hR.refl hR.trans _ cd.dbs ?_ s
  intro s _ db
  split
  . split
    . exact hR.tracked s db _
    . exact hR.refl s
  . exact hR.refl s

theorem trackCandidates (hR : Frame now R) (s : Sentinel) : R s (s.trackCandidates now cd) :=
  hR.trans (hR.trackValidDBs s _) (hR.trackValidDBs _ _)

theorem clearLeaderRaceBackoff (hR : Frame now R) (s : Sentinel) (masterUID : String)
    : R s (s.clearLeaderRaceBackoff masterUID) :=
  hR.timers s _

theorem shouldDelayLeaderRace (hR : Frame now R) (s : Sentinel) (failedMaster : DB)
    (candidates : List DB) (window : Duration)
    : R s (s.shouldDelayLeaderRace now failedMaster candidates window).1 := by
  unfold Sentinel.shouldDelayLeaderRace
  split
  . exact hR.refl s
  . split
    . exact hR.timers s _
    . split
      . split
        . exact hR.timers s _
        . split
          . exact hR.refl s
          . exact hR.timers s _
      . exact hR.timers s _

theorem chooseBestNewMaster (hR : Frame env.now R) {failInterval : Duration} {best : Option DB}
    {clearBackoff : Bool}
    (h : s.chooseBestNewMaster env newcd curMasterDB failInterval = .ok (s', best, clearBackoff))
    : R s s' := by
  simp only [Sentinel.chooseBestNewMaster, Except.bind_eq_ok_iff] at h
  obtain ⟨candidates, -, h⟩ := h
  split at h
  . cases h
    exact hR.trackCandidates s
  . split at h
    . simp only [Except.pure_eq_ok, Except.ok.injEq, Prod.mk.injEq] at h
      rw [← h.1]
      exact hR.trackCandidates s
    . have hdelay : R s ((s.trackCandidates env.now newcd).shouldDelayLeaderRace env.now curMasterDB
          candidates failInterval).1 :=
        hR.trans (hR.trackCandidates s) (hR.shouldDelayLeaderRace _ curMasterDB candidates failInterval)
      split at h
      all_goals
        next hs =>
        simp only [Except.pure_eq_ok, Except.ok.injEq, Prod.mk.injEq] at h
        rw [← h.1]
        simpa [hs] using hdelay

theorem electAutomatic (hR : Frame env.now R) {e : Election}
    (h : s.electAutomatic env newcd curMasterDBUID curMasterDB = .ok e)
    : R s e.sentinel := by
  have htracked : R s (s.trackDBConvergence env.now curMasterDB
      newcd.cluster.defSpec.convergenceTimeout) :=
    hR.tracked s curMasterDB _
  unfold Sentinel.electAutomatic at h
  dsimp only at h
  split at h
  . simp only [electAutoFailback, Except.bind_eq_ok_iff] at h
    obtain ⟨target, -, h⟩ := h
    have hsearched (s : Sentinel) : R s (if newcd.cluster.defSpec.unsafeAutoFailback then
        s.trackCandidates env.now newcd else s) := by
      split
      . exact hR.trackCandidates s
      . exact hR.refl s
    have hcleared := hR.trans (hR.trans htracked (hR.clearLeaderRaceBackoff _ curMasterDBUID))
      (hsearched _)
    split at h
    . cases h
      exact hcleared
    . cases h
      exact hR.trans hcleared (hR.lastSwitch _)
  . simp only [electFailover, Except.bind_eq_ok_iff] at h
    obtain ⟨⟨s', best, clearBackoff⟩, hchoose, h⟩ := h
    have hs' := hR.trans htracked (hR.chooseBestNewMaster hchoose)
    cases h
    dsimp only
    split
    . exact hR.trans hs' (hR.clearLeaderRaceBackoff _ _)
    . exact hs'

theorem electManually (hR : Frame env.now R) (s : Sentinel) (wanted : String)
    : R s (s.electManually env newcd curMasterDBUID curMasterDB wanted).sentinel :=
  hR.trans (hR.tracked s curMasterDB _) (hR.clearLeaderRaceBackoff _ _)

theorem elect (hR : Frame env.now R) {e : Election}
    (h : s.elect env newcd curMasterDBUID curMasterDB = .ok e)
    : R s e.sentinel := by
  simp only [Sentinel.elect, Except.bind_eq_ok_iff] at h
  obtain ⟨outcome, -, h⟩ := h
  split at h
  . exact hR.electAutomatic h
  . exact hR.trans (hR.trackCandidates s) (hR.electAutomatic h)
  . cases h
    exact hR.electManually s _
  . cases h
    exact hR.trans (hR.trackCandidates s) (hR.electManually _ _)

theorem keepMaster (hR : Frame env.now R) {masterDBUID : String}
    (h : s.keepMaster env cd newcd masterDBUID curMasterDB pis = .ok (s', cd'))
    : R s s' := by
  unfold Sentinel.keepMaster at h
  split at h
  . cases h
  . split at h
    . simp only [reconcileStandbys, Except.bind_eq_ok_iff, Except.pure_eq_ok, Except.ok.injEq,
        Prod.mk.injEq] at h
      obtain ⟨standbys, -, best, -, rfl, -⟩ := h
      exact hR.trackValidDBs s _
    . cases h
      exact hR.refl s

theorem updateNormal (hR : Frame env.now R) (h : s.updateNormal env cd pis = .ok (s', newcd))
    : R s s' := by
  unfold Sentinel.updateNormal at h
  dsimp only at h
  split at h
  . cases h
  . simp only [applyElection, Except.bind_eq_ok_iff, Except.pure_eq_ok, Except.ok.injEq,
      Prod.mk.injEq] at h
    obtain ⟨election, helect, ⟨s₁, mid⟩, happly, followed, -, rfl, -⟩ := h
    have hs := hR.elect helect
    split at happly
    . exact hR.trans hs (hR.keepMaster happly)
    . split at happly
      . cases happly
      . cases happly
        exact hs

theorem initCluster (hR : Frame env.now R) (h : s.initCluster env cd = .ok (s', newcd))
    : R s s' := by
  have hawait (h : s.awaitInitialDB env cd = .ok (s', newcd)) : R s s' := by
    unfold awaitInitialDB at h
    dsimp only at h
    split at h
    . cases h
    . cases h
      exact hR.tracked s _ _
  unfold Sentinel.initCluster at h
  split at h
  . cases h
  . unfold initNew at h
    dsimp only at h
    split at h
    . split at h
      . cases h
      . cases h
        exact hR.refl s
    . exact hawait h
  . unfold initExisting at h
    dsimp only at h
    split at h
    . split at h
      . cases h
      . split at h
        . cases h
        . cases h
          exact hR.refl s
    . split at h
      . cases h
      . split at h
        . cases h
          exact hR.refl s
        . split at h
          . cases h
            exact hR.tracked s _ _
          . cases h
            exact hR.tracked s _ _
  . unfold initPITR at h
    dsimp only at h
    split at h
    . split at h
      . cases h
      . split at h
        . cases h
        . cases h
          exact hR.refl s
    . exact hawait h
  . cases h

theorem updateCluster (hR : Frame env.now R) (h : s.updateCluster env cd pis = .ok (s', newcd))
    : R s s' := by
  unfold Sentinel.updateCluster at h
  split at h
  . simp only [Except.bind_eq_ok_iff, Except.pure_eq_ok, Except.ok.injEq, Prod.mk.injEq] at h
    obtain ⟨⟨s₁, mid⟩, hinit, newcd', -, rfl, -⟩ := h
    exact hR.initCluster hinit
  . split at h
    . cases h
      exact hR.refl s
    . simp only [Except.bind_eq_ok_iff, Except.pure_eq_ok, Except.ok.injEq, Prod.mk.injEq] at h
      obtain ⟨⟨s₁, mid⟩, hnormal, newcd', -, rfl, -⟩ := h
      exact hR.updateNormal hnormal
  . cases h

end Frame

/--
A view of the memory that an update at `now` leaves as it is. A view may depend on the databases that
are tracked, as long as it takes those that are not for tracked since `now`.
-/
structure UnaffectedAt (now : Time) {γ : Type u} (view : Sentinel → γ) : Prop where
  tracked : ∀ (s : Sentinel) (db : DB) (timeout : Duration),
    view (s.trackDBConvergence now db timeout) = view s
  timers : ∀ (s : Sentinel) timers, view { s with leaderRaceBackoffTimers := timers } = view s
  lastSwitch : ∀ (s : Sentinel) t, view { s with autoFailbackLastSwitchAt := t } = view s

theorem Unaffected.unaffectedAt {γ : Type u} {view : Sentinel → γ} (hview : Unaffected view)
    (now : Time) : UnaffectedAt now view :=
  ⟨fun _ db timeout => trackDBConvergence_keeps view hview.infos db timeout, hview.timers,
    hview.lastSwitch⟩

namespace UnaffectedAt

variable {γ : Type u} {view : Sentinel → γ} {curMasterDBUID : String} {curMasterDB : DB}

theorem frame (hview : UnaffectedAt now view) : Frame now (fun s s' => view s' = view s) where
  refl _ := rfl
  trans h h' := h'.trans h
  tracked := hview.tracked
  timers := hview.timers
  lastSwitch s := hview.lastSwitch s now

theorem elect (hview : UnaffectedAt env.now view) {e : Election}
    (h : s.elect env newcd curMasterDBUID curMasterDB = .ok e)
    : view e.sentinel = view s :=
  hview.frame.elect h

theorem updateCluster (hview : UnaffectedAt env.now view)
    (h : s.updateCluster env cd pis = .ok (s', newcd))
    : view s' = view s :=
  hview.frame.updateCluster h

end UnaffectedAt

theorem unaffectedAt_dbConvergenceState (now : Time)
    : UnaffectedAt now (fun s => s.dbConvergenceState now) where
  tracked _ db timeout := funext fun db' => funext fun timeout' =>
    dbConvergenceState_trackDBConvergence db db' timeout timeout'
  timers _ _ := rfl
  lastSwitch _ _ := rfl

theorem unaffected_dbNotIncreasingXLogPos : Unaffected dbNotIncreasingXLogPos :=
  ⟨fun _ _ => rfl, fun _ _ => rfl, fun _ _ => rfl⟩

end Frame

section Observations

structure Observations where
  keeperErrorTimers : FinMap String Time
  dbErrorTimers : FinMap String Time
  keeperInfoHistories : FinMap String KeeperInfoHistory
  proxyInfoHistories : FinMap String ProxyInfoHistory
  lastLeadershipCount : Nat
  sleepInterval : Duration

def observations (s : Sentinel) : Observations where
  keeperErrorTimers := s.keeperErrorTimers
  dbErrorTimers := s.dbErrorTimers
  keeperInfoHistories := s.keeperInfoHistories
  proxyInfoHistories := s.proxyInfoHistories
  lastLeadershipCount := s.lastLeadershipCount
  sleepInterval := s.sleepInterval

@[simp]
theorem observations_updateDBConvergenceInfos
    : (s.updateDBConvergenceInfos now cd).observations = s.observations := by
  refine FinMap.foldl_keeps observations _ _ ?_ s
  intro s uid db
  unfold updateDBConvergenceInfo
  split
  . rfl
  . dsimp only
    split
    . rfl
    . split <;> rfl

theorem unaffected_observations : Unaffected observations :=
  ⟨fun _ _ => rfl, fun _ _ => rfl, fun _ _ => rfl⟩

end Observations

section Merge

variable {keepersInfo fresh : KeepersInfo} {kihs : FinMap String KeeperInfoHistory}

def reportsHealthy (fresh : KeepersInfo) (db : DB) : Bool :=
  (reportedState fresh db).any (fun dbs => dbs.healthy)

def runTimer (now : Time) (timer : Option Time) : Option Time := some (timer.getD now)

theorem getElem?_insertIfNew_self (timers : FinMap String Time) (uid : String)
    : (timers.insertIfNew uid now)[uid]? = runTimer now timers[uid]? := by
  rw [Std.ExtTreeMap.getElem?_insertIfNew]
  by_cases hmem : uid ∈ timers
  . rw [if_neg (by simp [hmem])]
    obtain ⟨t, ht⟩ := Option.isSome_iff_exists.mp (Std.ExtTreeMap.mem_iff_isSome_getElem?.mp hmem)
    simp [ht, runTimer]
  . rw [if_pos (by simp [hmem]), Std.ExtTreeMap.getElem?_eq_none hmem]
    rfl

theorem getElem?_insertIfNew_of_ne (timers : FinMap String Time) {uid uid' : String}
    (h : uid' ≠ uid) : (timers.insertIfNew uid now)[uid']? = timers[uid']? := by
  rw [Std.ExtTreeMap.getElem?_insertIfNew]
  rw [if_neg (by simp [Ne.symm h])]

theorem getElem?_updateKeeperErrors (keepers : FinMap String Keeper)
    : (s.updateKeeperErrors now fresh keepers).keeperErrorTimers[uid]?
        =
      if uid ∈ keepers then
        if uid ∈ fresh then none else runTimer now s.keeperErrorTimers[uid]?
      else
        s.keeperErrorTimers[uid]? := by
  unfold updateKeeperErrors
  rw [FinMap.foldl_get (fun (s : Sentinel) uid => s.keeperErrorTimers[uid]?) _
    (fun uid _ old => if uid ∈ fresh then none else runTimer now old) keepers]
  . cases hk : keepers[uid]? with
    | none =>
      have hmem : uid ∉ keepers := by simpa using hk
      simp [hmem]
    | some k =>
      have hmem : uid ∈ keepers := by simp [Std.ExtTreeMap.mem_iff_isSome_getElem?, hk]
      simp [hmem]
  . intro s uid k _
    by_cases hmem : uid ∈ fresh
    . simp [hmem, cleanKeeperError]
    . simp only [Std.ExtTreeMap.contains_iff_mem, hmem, ↓reduceIte]
      exact getElem?_insertIfNew_self _ _
  . intro s uid k uid' _ hne
    by_cases hmem : uid ∈ fresh
    . simp [hmem, cleanKeeperError, Std.ExtTreeMap.getElem?_erase, Ne.symm hne]
    . simp [hmem, setKeeperError, getElem?_insertIfNew_of_ne _ hne]

theorem dbErrorTimers_updateDBMemory (db : DB)
    : (s.updateDBMemory now fresh db).dbErrorTimers
        =
      if reportsHealthy fresh db then
        s.dbErrorTimers.erase db.uid
      else
        s.dbErrorTimers.insertIfNew db.uid now := by
  unfold updateDBMemory reportsHealthy
  cases reportedState fresh db with
  | none => rfl
  | some dbs =>
    simp only [Option.any_some]
    split <;> split <;> rfl

theorem getElem?_dbErrorTimers (dbs : FinMap String DB)
    (hkeyed : ∀ (uid : String) (db : DB), dbs[uid]? = some db → db.uid = uid)
    : (dbs.foldl (fun s _ db => s.updateDBMemory now fresh db) s).dbErrorTimers[uid]?
        =
      match dbs[uid]? with
      | some db => if reportsHealthy fresh db then none else runTimer now s.dbErrorTimers[uid]?
      | none => s.dbErrorTimers[uid]? := by
  rw [FinMap.foldl_get (fun (s : Sentinel) uid => s.dbErrorTimers[uid]?) _
    (fun _ db old => if reportsHealthy fresh db then none else runTimer now old) dbs]
  . cases dbs[uid]? <;> rfl
  . intro s uid db hdb
    rw [dbErrorTimers_updateDBMemory, hkeyed uid db hdb]
    split
    . simp
    . exact getElem?_insertIfNew_self _ _
  . intro s uid db uid' hdb hne
    rw [dbErrorTimers_updateDBMemory, hkeyed uid db hdb]
    split
    . simp [Std.ExtTreeMap.getElem?_erase, Ne.symm hne]
    . exact getElem?_insertIfNew_of_ne _ hne

structure MergedMemory (s s' : Sentinel) (now : Time) (cd : ClusterData) (fresh : KeepersInfo)
    : Prop where
  keeperErrorTimer : ∀ (uid : String),
    s'.keeperErrorTimers[uid]?
      =
    if uid ∈ mergedKeepers now fresh cd then
      if uid ∈ fresh then none else runTimer now s.keeperErrorTimers[uid]?
    else
      s.keeperErrorTimers[uid]?
  dbErrorTimer : ∀ (uid : String),
    s'.dbErrorTimers[uid]?
      =
    match cd.dbs[uid]? with
    | some db => if reportsHealthy fresh db then none else runTimer now s.dbErrorTimers[uid]?
    | none => s.dbErrorTimers[uid]?
  keeperInfoHistories : s'.keeperInfoHistories = s.keeperInfoHistories
  proxyInfoHistories : s'.proxyInfoHistories = s.proxyInfoHistories
  lastLeadershipCount : s'.lastLeadershipCount = s.lastLeadershipCount

theorem observations_updateKeepersHealthMemory (cd : ClusterData)
    : (s.updateKeepersHealthMemory now cd).observations = s.observations :=
  FinMap.foldl_keeps observations
    (fun s' _ k => s'.updateHealthySince now k (s.updateKeeperHealth now cd k).status.healthy)
    cd.keepers (fun _ _ _ => rfl) s

theorem updateKeeperErrors_keeps (keepers : FinMap String Keeper)
    : { (s.updateKeeperErrors now fresh keepers).observations with
        keeperErrorTimers := s.keeperErrorTimers }
        =
      s.observations := by
  refine FinMap.foldl_keeps (fun s' : Sentinel =>
    { s'.observations with keeperErrorTimers := s.keeperErrorTimers })
    (fun s uid (_ : Keeper) =>
      if fresh.contains uid then s.cleanKeeperError uid else s.setKeeperError now uid) keepers ?_ s
  intro s' uid k
  split <;> rfl

theorem updateDBsMemory_keeps (dbs : FinMap String DB)
    : { (dbs.foldl (fun s _ db => s.updateDBMemory now fresh db) s).observations with
        dbErrorTimers := s.dbErrorTimers }
        =
      s.observations := by
  refine FinMap.foldl_keeps (fun s' : Sentinel =>
    { s'.observations with dbErrorTimers := s.dbErrorTimers })
    (fun s (_ : String) db => s.updateDBMemory now fresh db) dbs ?_ s
  intro s' uid db
  unfold updateDBMemory
  split
  . rfl
  . dsimp only
    split <;> split <;> rfl

def mergedMemory (s : Sentinel) (now : Time) (cd : ClusterData) (fresh : KeepersInfo) : Sentinel :=
  let merged := { cd with keepers := mergedKeepers now fresh cd }
  let s := (s.updateKeeperErrors now fresh merged.keepers).updateKeepersHealthMemory now merged
  cd.dbs.foldl (fun s _ db => s.updateDBMemory now fresh db) s

theorem mergedMemory_merged
    (hkeyed : ∀ (uid : String) (db : DB), cd.dbs[uid]? = some db → db.uid = uid)
    : MergedMemory s (mergedMemory s now cd fresh) now cd fresh := by
  let merged : ClusterData := { cd with keepers := mergedKeepers now fresh cd }
  let s₁ : Sentinel := s.updateKeeperErrors now fresh merged.keepers
  let s₂ : Sentinel := s₁.updateKeepersHealthMemory now merged
  have hobs₁ : { s₁.observations with keeperErrorTimers := s.keeperErrorTimers } = s.observations :=
    updateKeeperErrors_keeps merged.keepers
  have hobs₂ : s₂.observations = s₁.observations := observations_updateKeepersHealthMemory merged
  have hobs₃ : { (mergedMemory s now cd fresh).observations with dbErrorTimers := s₂.dbErrorTimers }
      = s₂.observations := updateDBsMemory_keeps cd.dbs
  simp only [observations, Observations.mk.injEq, true_and] at hobs₁ hobs₂ hobs₃
  constructor
  case keeperErrorTimer =>
    intro uid
    rw [hobs₃.1, hobs₂.1]
    exact getElem?_updateKeeperErrors merged.keepers
  case dbErrorTimer =>
    intro uid
    rw [← hobs₁.1, ← hobs₂.2.1]
    exact getElem?_dbErrorTimers cd.dbs hkeyed
  case keeperInfoHistories => rw [hobs₃.2.1, hobs₂.2.2.1, hobs₁.2.1]
  case proxyInfoHistories => rw [hobs₃.2.2.1, hobs₂.2.2.2.1, hobs₁.2.2.1]
  case lastLeadershipCount => rw [hobs₃.2.2.2.1, hobs₂.2.2.2.2.1, hobs₁.2.2.2.1]

theorem updateKeepersStatus_memory
    (hkeyed : ∀ (uid : String) (db : DB), cd.dbs[uid]? = some db → db.uid = uid)
    (h : s.updateKeepersStatus now cd keepersInfo false = .ok (s', cd', kihs))
    : MergedMemory s s' now cd (s.freshKeepersInfo now cd keepersInfo)
        ∧
      kihs = s.nextHistories now cd keepersInfo := by
  unfold updateKeepersStatus at h
  dsimp only at h
  split at h
  . next hfirst => cases hfirst
  . split at h
    . cases h
    . cases h
      exact ⟨mergedMemory_merged hkeyed, rfl⟩

theorem updateKeepersStatus_firstRunHistories
    (h : s.updateKeepersStatus now cd keepersInfo true = .ok (s', cd', kihs))
    : s' = s ∧ kihs = s.firstRunHistories cd keepersInfo := by
  unfold updateKeepersStatus at h
  cases h
  exact ⟨rfl, rfl⟩

theorem getElem?_firstRunHistories
    : (s.firstRunHistories cd keepersInfo)[uid]?
        =
      match (ownKeepersInfo cd keepersInfo)[uid]? with
      | some ki => some { keeperInfo := ki, seen := false }
      | none => s.keeperInfoHistories[uid]? := by
  unfold firstRunHistories
  rw [FinMap.foldl_get (fun (m : FinMap String KeeperInfoHistory) uid => m[uid]?) _
    (fun _ ki _ => some { keeperInfo := ki, seen := false })]
  . cases (ownKeepersInfo cd keepersInfo)[uid]? <;> rfl
  . intro m uid ki _
    simp
  . intro m uid ki uid' _ hne
    simp [Std.ExtTreeMap.getElem?_insert, Ne.symm hne]

theorem getElem?_nextHistories
    : (s.nextHistories now cd keepersInfo)[uid]?
        =
      match (ownKeepersInfo cd keepersInfo)[uid]? with
      | some ki =>
        if (s.keeperInfoHistories[uid]?).any (fun kih => kih.keeperInfo.infoUID = ki.infoUID) then
          s.keeperInfoHistories[uid]?
        else
          some { keeperInfo := ki, seen := true, timer := now }
      | none => s.keeperInfoHistories[uid]? := by
  unfold nextHistories
  rw [FinMap.foldl_get (fun (m : FinMap String KeeperInfoHistory) uid => m[uid]?) _
    (fun uid ki old =>
      if (s.keeperInfoHistories[uid]?).any (fun kih => kih.keeperInfo.infoUID = ki.infoUID) then
        old
      else
        some { keeperInfo := ki, seen := true, timer := now })]
  . cases (ownKeepersInfo cd keepersInfo)[uid]? <;> rfl
  . intro m uid ki _
    split
    . rfl
    . simp
  . intro m uid ki uid' _ hne
    split
    . rfl
    . simp [Std.ExtTreeMap.getElem?_insert, Ne.symm hne]

theorem nextHistories_cases {ki : KeeperInfo}
    (hki : (ownKeepersInfo cd keepersInfo)[uid]? = some ki)
    : (∃ (kih : KeeperInfoHistory),
        s.keeperInfoHistories[uid]? = some kih
          ∧
        kih.keeperInfo.infoUID = ki.infoUID
          ∧
        (s.nextHistories now cd keepersInfo)[uid]? = some kih)
        ∨
      (s.nextHistories now cd keepersInfo)[uid]?
        = some { keeperInfo := ki, seen := true, timer := now } := by
  rw [getElem?_nextHistories, hki]
  dsimp only
  split
  . next hsame =>
    rw [Option.any_eq_true] at hsame
    obtain ⟨kih, hkih, huid⟩ := hsame
    exact .inl ⟨kih, hkih, by simpa using huid, hkih⟩
  . exact .inr rfl

end Merge

section Check

variable {inp : CheckInput}

def CheckInput.firstRun (inp : CheckInput) (s : Sentinel) : Bool :=
  decide (s.lastLeadershipCount ≠ inp.leadershipCount)

def CheckInput.start (inp : CheckInput) (s : Sentinel) (cd : ClusterData) : Sentinel :=
  { s with sleepInterval := cd.cluster.defSpec.sleepInterval }.gainLeadership inp.env.now cd
    inp.leadershipCount

structure Completed (inp : CheckInput) (s s' : Sentinel) (cd newcd : ClusterData)
    (merged : Sentinel) (observed : ClusterData) (kihs : FinMap String KeeperInfoHistory)
    : Prop where
  valid : cd.cluster.spec.validate = .ok ()
  merge : (inp.start s cd).updateKeepersStatus inp.env.now cd inp.keepersInfo (inp.firstRun s)
    = .ok (merged, observed, kihs)
  update : ∃ (s₁ : Sentinel),
    (merged.activeProxiesInfos inp.env.now (getProxiesInfo inp.proxies)).1.updateCluster inp.env
        observed (merged.activeProxiesInfos inp.env.now (getProxiesInfo inp.proxies)).2
      = .ok (s₁, newcd)
  keeperErrorTimers : s'.keeperErrorTimers = merged.keeperErrorTimers
  dbErrorTimers : s'.dbErrorTimers = merged.dbErrorTimers
  keeperInfoHistories : s'.keeperInfoHistories
    = if inp.putOK && inp.publishOK then kihs else merged.keeperInfoHistories
  proxyInfoHistories : s'.proxyInfoHistories
    = (merged.activeProxiesInfos inp.env.now (getProxiesInfo inp.proxies)).1.proxyInfoHistories
  lastLeadershipCount : s'.lastLeadershipCount = merged.lastLeadershipCount

theorem reconcile_ok {kihs : FinMap String KeeperInfoHistory}
    (h : (s.reconcile env leadershipCount cd keepersInfo proxiesInfo).result = .ok (newcd, kihs))
    : ∃ (merged : Sentinel) (observed : ClusterData),
        (s.gainLeadership env.now cd leadershipCount).updateKeepersStatus env.now cd keepersInfo
            (decide (s.lastLeadershipCount ≠ leadershipCount))
          = .ok (merged, observed, kihs)
          ∧
        (merged.activeProxiesInfos env.now proxiesInfo).1.updateCluster env observed
            (merged.activeProxiesInfos env.now proxiesInfo).2
          = .ok ((s.reconcile env leadershipCount cd keepersInfo proxiesInfo).sentinel, newcd) := by
  unfold reconcile at h ⊢
  dsimp only at h ⊢
  split at h
  . cases h
  . next merged observed kihs' hmerge =>
    split at h
    . cases h
    . next s₁ newcd' hupdate =>
      cases h
      exact ⟨merged, observed, hmerge, hupdate⟩

theorem completed_of_reconcile {merged s₁ : Sentinel} {observed : ClusterData}
    {kihs : FinMap String KeeperInfoHistory} (hvalid : cd.cluster.spec.validate = .ok ())
    (hmerge : (inp.start s cd).updateKeepersStatus inp.env.now cd inp.keepersInfo (inp.firstRun s)
      = .ok (merged, observed, kihs))
    (hupdate : (merged.activeProxiesInfos inp.env.now (getProxiesInfo inp.proxies)).1.updateCluster
        inp.env observed (merged.activeProxiesInfos inp.env.now (getProxiesInfo inp.proxies)).2
      = .ok (s₁, newcd))
    (hsaved : s'.observations = { s₁.observations with
      keeperInfoHistories :=
        if inp.putOK && inp.publishOK then kihs else s₁.keeperInfoHistories })
    : Completed inp s s' cd newcd merged observed kihs := by
  have hobs := (unaffected_observations.unaffectedAt _).updateCluster hupdate
  simp only [observations, Observations.mk.injEq] at hobs hsaved
  obtain ⟨hkeeperTimers, hdbTimers, hkeeperInfos, hproxyInfos, hcount, -⟩ := hobs
  obtain ⟨hkeeperTimers', hdbTimers', hkeeperInfos', hproxyInfos', hcount', -⟩ := hsaved
  exact {
    valid := hvalid
    merge := hmerge
    update := ⟨s₁, hupdate⟩
    keeperErrorTimers := hkeeperTimers'.trans hkeeperTimers
    dbErrorTimers := hdbTimers'.trans hdbTimers
    keeperInfoHistories := by
      rw [hkeeperInfos', hkeeperInfos]
      rfl
    proxyInfoHistories := hproxyInfos'.trans hproxyInfos
    lastLeadershipCount := hcount'.trans hcount
  }

theorem clusterSentinelCheck_completed (h : s.clusterSentinelCheck inp cd = (s', some newcd))
    : ∃ (merged : Sentinel) (observed : ClusterData) (kihs : FinMap String KeeperInfoHistory),
        Completed inp s s' cd newcd merged observed kihs := by
  unfold clusterSentinelCheck at h
  split at h
  . cases h
  . split at h
    . cases h
    . next hvalid =>
      dsimp only at h
      split at h
      . cases h
      . split at h
        . cases h
        . next newcd' kihs hresult =>
          obtain ⟨merged, observed, hmerge, hupdate⟩ := reconcile_ok hresult
          refine ⟨merged, observed, kihs, ?_⟩
          split at h
          . next hfailed =>
            cases h
            refine completed_of_reconcile (by simpa using hvalid) hmerge hupdate ?_
            rw [← Bool.not_and, Bool.not_eq_true'] at hfailed
            rw [hfailed]
            rfl
          . next hok =>
            cases h
            refine completed_of_reconcile (by simpa using hvalid) hmerge hupdate ?_
            rw [observations_updateDBConvergenceInfos, if_pos (by simpa using hok)]
            rfl

end Check

end Sentinel
end Hysteron
