import Hysteron.Sentinel.Lemmas.Update

/-!
Where an update can fail. On cluster data in which the keeper of every database is registered and the
master exists, the searches for candidates never fail, and neither does a reconciliation.
-/

namespace Hysteron
namespace Sentinel

variable {env : Env} {s : Sentinel} {now : Time} {cd newcd : ClusterData} {pis : ProxiesInfo}
variable {search : CandidateSearch} {masterDB curMasterDB : DB} {fault : Fault}

section Searches

variable (hreg : ∀ (uid : String) (db : DB), cd.dbs[uid]? = some db → db.spec.keeperUID ∈ cd.keepers)
include hreg

theorem dbStatus_ne_nilDeref (dbUID : String) : s.dbStatus now cd dbUID ≠ .error .nilDeref := by
  unfold dbStatus
  split
  . simp [unknownDBUID]
  . next db hdb =>
    have hmem := hreg dbUID db hdb
    rw [Std.ExtTreeMap.mem_iff_isSome_getElem?] at hmem
    obtain ⟨keeper, hkeeper⟩ := Option.isSome_iff_exists.mp hmem
    rw [hkeeper]
    simp

theorem validDBsByStatus_isOk (wantType : DBType)
    : ∃ (standbys : DBsByStatus), s.validDBsByStatus now cd wantType = .ok standbys := by
  have hnone : FinMap.anyValue (cd.dbs.filter (fun _ db => isValidOfType cd wantType db.uid))
      (fun db => decide (s.dbStatus now cd db.uid = .error .nilDeref)) = false := by
    rw [FinMap.anyValue_eq_false_iff]
    intro uid db _
    simpa using dbStatus_ne_nilDeref hreg db.uid
  unfold validDBsByStatus
  dsimp only
  rw [hnone]
  exact ⟨_, rfl⟩

theorem findBestStandbys_isOk
    : ∃ (standbys : List DB), s.findBestStandbys env search cd masterDB = .ok standbys := by
  obtain ⟨standbys, hstandbys⟩ : ∃ standbys,
      s.validDBsByStatus env.now cd .replicaLine = .ok standbys := validDBsByStatus_isOk hreg _
  simp [findBestStandbys, validStandbysByStatus, hstandbys]

theorem findBestNewMasters_isOk
    : ∃ (candidates : List DB), s.findBestNewMasters env search cd masterDB = .ok candidates := by
  obtain ⟨standbys, hstandbys⟩ : ∃ standbys,
      s.findBestStandbys env search cd masterDB = .ok standbys := findBestStandbys_isOk hreg
  obtain ⟨masters, hmasters⟩ : ∃ masters,
      s.validDBsByStatus env.now cd .primaryLine = .ok masters := validDBsByStatus_isOk hreg _
  simp [findBestNewMasters, validMastersByStatus, hstandbys, hmasters]

theorem chooseBestNewMaster_isOk (failInterval : Duration)
    : ∃ (result : Sentinel × Option DB × Bool),
        s.chooseBestNewMaster env cd curMasterDB failInterval = .ok result := by
  obtain ⟨candidates, hcandidates⟩ : ∃ candidates,
      s.findBestNewMasters env .failover cd curMasterDB = .ok candidates :=
    findBestNewMasters_isOk hreg
  simp only [chooseBestNewMaster, hcandidates, Except.bind_ok]
  split
  . exact ⟨_, rfl⟩
  . split
    . exact ⟨_, rfl⟩
    . split <;> exact ⟨_, rfl⟩

theorem chooseAutoFailbackTarget_isOk
    : ∃ (target : Option DB), s.chooseAutoFailbackTarget env cd curMasterDB = .ok target := by
  obtain ⟨candidates, hcandidates⟩ : ∃ candidates,
      s.findBestNewMasters env .autoFailback cd curMasterDB = .ok candidates :=
    findBestNewMasters_isOk hreg
  simp only [chooseAutoFailbackTarget, hcandidates, Except.bind_ok]
  split
  . exact ⟨_, rfl⟩
  . split
    . exact ⟨_, rfl⟩
    . split <;> exact ⟨_, rfl⟩

theorem manualSwitchOutcome_isOk (curMasterDBUID : String)
    : ∃ (outcome : ManualSwitchOutcome),
        s.manualSwitchOutcome env cd curMasterDBUID curMasterDB = .ok outcome := by
  obtain ⟨candidates, hcandidates⟩ : ∃ candidates,
      s.findBestNewMasters env .manualSwitch cd curMasterDB = .ok candidates :=
    findBestNewMasters_isOk hreg
  simp only [manualSwitchOutcome, hcandidates, Except.bind_ok]
  repeat' split
  all_goals exact ⟨_, rfl⟩

theorem electAutomatic_isOk (curMasterDBUID : String)
    : ∃ (election : Election),
        s.electAutomatic env cd curMasterDBUID curMasterDB = .ok election := by
  unfold electAutomatic
  dsimp only
  generalize s.trackDBConvergence env.now curMasterDB cd.cluster.defSpec.convergenceTimeout = tracked
  split
  . unfold electAutoFailback
    obtain ⟨target, htarget⟩ : ∃ target, (tracked.clearLeaderRaceBackoff
        curMasterDBUID).chooseAutoFailbackTarget env cd curMasterDB = .ok target :=
      chooseAutoFailbackTarget_isOk hreg
    simp only [htarget, Except.bind_ok]
    split <;> exact ⟨_, rfl⟩
  . unfold electFailover
    obtain ⟨result, hresult⟩ : ∃ result, tracked.chooseBestNewMaster env cd curMasterDB
        cd.cluster.defSpec.failInterval = .ok result := chooseBestNewMaster_isOk hreg _
    simp only [hresult, Except.bind_ok]
    exact ⟨_, rfl⟩

theorem elect_isOk (curMasterDBUID : String)
    : ∃ (election : Election), s.elect env cd curMasterDBUID curMasterDB = .ok election := by
  obtain ⟨outcome, houtcome⟩ : ∃ outcome,
      s.manualSwitchOutcome env cd curMasterDBUID curMasterDB = .ok outcome :=
    manualSwitchOutcome_isOk hreg _
  simp only [elect, houtcome, Except.bind_ok]
  cases outcome with
  | noTarget => exact electAutomatic_isOk hreg _
  | notEligible => exact electAutomatic_isOk hreg _
  | alreadyMaster => exact ⟨_, rfl⟩
  | switchTo dbUID => exact ⟨_, rfl⟩

end Searches

section Candidates

variable (hkeyed : cd.Keyed)
include hkeyed

theorem mem_findBestStandbys {standbys : List DB} {c : DB}
    (h : s.findBestStandbys env search cd masterDB = .ok standbys) (hc : c ∈ standbys)
    : cd.dbs[c.uid]? = some c := by
  simp only [findBestStandbys, Except.bind_eq_ok_iff, Except.pure_eq_ok, Except.ok.injEq] at h
  obtain ⟨byStatus, hstatus, rfl⟩ := h
  rw [List.mem_insertionSort, List.mem_filter, FinMap.mem_valuesIn] at hc
  obtain ⟨⟨uid, hgood⟩, -⟩ := hc
  have hdb := (getElem?_validDBsByStatus_good hkeyed hstatus hgood).1
  rw [hkeyed uid c hdb]
  exact hdb

theorem mem_findBestNewMasters {candidates : List DB} {c : DB}
    (h : s.findBestNewMasters env search cd masterDB = .ok candidates) (hc : c ∈ candidates)
    : cd.dbs[c.uid]? = some c := by
  simp only [findBestNewMasters, Except.bind_eq_ok_iff, Except.pure_eq_ok, Except.ok.injEq] at h
  obtain ⟨standbys, hstandbys, masters, hmasters, rfl⟩ := h
  rw [sortCandidateMasters, List.mem_insertionSort, List.mem_append] at hc
  cases hc with
  | inl hstandby => exact mem_findBestStandbys hkeyed hstandbys (List.mem_filter.mp hstandby).1
  | inr hmaster =>
    rw [List.mem_filter, FinMap.mem_valuesIn] at hmaster
    obtain ⟨⟨uid, hgood⟩, -⟩ := hmaster
    have hdb := (getElem?_validDBsByStatus_good hkeyed hmasters hgood).1
    rw [hkeyed uid c hdb]
    exact hdb

omit hkeyed in
theorem mem_pickNewMaster {candidates : List DB} {c : DB} {clearBackoff : Bool}
    (h : pickNewMaster cd curMasterDB candidates = (some c, clearBackoff)) : c ∈ candidates := by
  unfold pickNewMaster at h
  split at h
  . simp only [Prod.mk.injEq] at h
    exact List.mem_of_head? h.1
  . dsimp only at h
    split at h
    . cases h
    . split at h
      . next hfind =>
        cases h
        exact List.mem_of_find?_eq_some hfind
      . cases h

theorem chooseBestNewMaster_mem {s' : Sentinel} {c : DB} {clearBackoff : Bool}
    {failInterval : Duration}
    (h : s.chooseBestNewMaster env cd curMasterDB failInterval = .ok (s', some c, clearBackoff))
    : cd.dbs[c.uid]? = some c := by
  simp only [chooseBestNewMaster, Except.bind_eq_ok_iff] at h
  obtain ⟨candidates, hcandidates, h⟩ := h
  have hmem : c ∈ candidates := by
    split at h
    . cases h
    . split at h
      . simp only [Except.pure_eq_ok, Except.ok.injEq, Prod.mk.injEq] at h
        exact mem_pickNewMaster h.2
      . split at h
        . cases h
        . simp only [Except.pure_eq_ok, Except.ok.injEq, Prod.mk.injEq] at h
          exact mem_pickNewMaster h.2
  exact mem_findBestNewMasters hkeyed hcandidates hmem

omit hkeyed in
theorem mem_of_bestPriorityAbove {priority : Int} {candidates : List DB} {target : DB}
    (h : bestPriorityAbove cd priority candidates = some target) : target ∈ candidates := by
  induction candidates generalizing priority with
  | nil => cases h
  | cons c candidates ih =>
    unfold bestPriorityAbove at h
    split at h
    . exact List.mem_cons_of_mem _ (ih h)
    . split at h
      . next ht =>
        cases h
        exact List.mem_cons_of_mem _ (ih ht)
      . cases h
        exact List.mem_cons_self

theorem chooseAutoFailbackTarget_mem {target : DB}
    (h : s.chooseAutoFailbackTarget env cd curMasterDB = .ok (some target))
    : cd.dbs[target.uid]? = some target := by
  unfold chooseAutoFailbackTarget at h
  dsimp only at h
  split at h
  . cases h
  . simp only [Except.bind_eq_ok_iff] at h
    obtain ⟨candidates, hcandidates, h⟩ := h
    split at h
    . cases h
    . next t ht =>
      split at h
      . cases h
      . simp only [Except.pure_eq_ok, Except.ok.injEq] at h
        split at h
        . cases h
          exact mem_findBestNewMasters hkeyed hcandidates (mem_of_bestPriorityAbove ht)
        . cases h

theorem electAutomatic_mem {curMasterDBUID : String} {election : Election}
    (h : s.electAutomatic env cd curMasterDBUID curMasterDB = .ok election)
    : election.wantedMasterDBUID = curMasterDBUID
        ∨
      ∃ (db : DB), cd.dbs[election.wantedMasterDBUID]? = some db := by
  unfold electAutomatic at h
  dsimp only at h
  split at h
  . simp only [electAutoFailback, Except.bind_eq_ok_iff] at h
    obtain ⟨target, htarget, h⟩ := h
    cases target with
    | none =>
      cases h
      exact .inl rfl
    | some target =>
      cases h
      exact .inr ⟨target, chooseAutoFailbackTarget_mem hkeyed htarget⟩
  . simp only [electFailover, Except.bind_eq_ok_iff, Except.pure_eq_ok, Except.ok.injEq] at h
    obtain ⟨⟨sb, best, clearBackoff⟩, hbest, rfl⟩ := h
    cases best with
    | none => exact .inl rfl
    | some db => exact .inr ⟨db, chooseBestNewMaster_mem hkeyed hbest⟩

theorem manualSwitchOutcome_mem {curMasterDBUID dbUID : String}
    (h : s.manualSwitchOutcome env cd curMasterDBUID curMasterDB = .ok (.switchTo dbUID))
    : ∃ (db : DB), cd.dbs[dbUID]? = some db := by
  unfold manualSwitchOutcome at h
  split at h
  . cases h
  . split at h
    . cases h
    . split at h
      . cases h
      . split at h
        . cases h
        . simp only [Except.bind_eq_ok_iff] at h
          obtain ⟨candidates, hcandidates, h⟩ := h
          split at h
          . next hany =>
            cases h
            obtain ⟨c, hc, heq⟩ := by simpa using hany
            exact ⟨c, heq ▸ mem_findBestNewMasters hkeyed hcandidates hc⟩
          . cases h

theorem elect_mem {curMasterDBUID : String} {election : Election}
    (h : s.elect env cd curMasterDBUID curMasterDB = .ok election)
    : election.wantedMasterDBUID = curMasterDBUID
        ∨
      ∃ (db : DB), cd.dbs[election.wantedMasterDBUID]? = some db := by
  simp only [elect, Except.bind_eq_ok_iff] at h
  obtain ⟨outcome, houtcome, h⟩ := h
  cases outcome with
  | noTarget => exact electAutomatic_mem hkeyed h
  | notEligible => exact electAutomatic_mem hkeyed h
  | alreadyMaster =>
    cases h
    exact .inl rfl
  | switchTo dbUID =>
    cases h
    exact .inr (manualSwitchOutcome_mem hkeyed houtcome)

end Candidates

section Normal

theorem reconcileStandbys_isOk {masterDBUID : String}
    (hreg : ∀ (uid : String) (db : DB), newcd.dbs[uid]? = some db →
      db.spec.keeperUID ∈ newcd.keepers)
    : ∃ (result : Sentinel × ClusterData),
        s.reconcileStandbys env cd newcd masterDBUID curMasterDB = .ok result := by
  unfold reconcileStandbys
  dsimp only
  generalize hused : s.removeUnusableDBs cd newcd masterDBUID = used
  have hreg₀ (uid : String) (db : DB) (hdb : used.dbs[uid]? = some db)
      : db.spec.keeperUID ∈ used.keepers := by
    rw [← hused] at hdb ⊢
    exact hreg uid db (getElem?_removeUnusableDBs hdb)
  obtain ⟨standbys, hstandbys⟩ : ∃ standbys,
      s.validDBsByStatus env.now used .replicaLine = .ok standbys := validDBsByStatus_isOk hreg₀ _
  rw [validStandbysByStatus, hstandbys, Except.bind_ok]
  have hreg₁ (uid : String) (db : DB) (hdb : (cleanInitMode standbys.good used).dbs[uid]? = some db)
      : db.spec.keeperUID ∈ (cleanInitMode standbys.good used).keepers := by
    rw [getElem?_cleanInitMode] at hdb
    obtain ⟨db₀, hdb₀, rfl⟩ := Option.map_eq_some_iff.mp hdb
    split <;> exact hreg₀ uid db₀ hdb₀
  obtain ⟨best, hbest⟩ : ∃ best, (s.trackValidDBs env.now used .replicaLine).findBestStandbys env
      .syncStandbys (cleanInitMode standbys.good used) curMasterDB = .ok best :=
    findBestStandbys_isOk hreg₁
  rw [hbest, Except.bind_ok]
  exact ⟨_, rfl⟩

theorem masterRole_error {clusterSpec : DefSpec} (h : masterRole clusterSpec = .error fault)
    : fault = .nilDeref ∧ clusterSpec.role = .standby ∧ clusterSpec.standbyConfig = none := by
  unfold masterRole at h
  split at h
  . next hrole =>
    split at h
    . next hconfig =>
      cases h
      unfold externalFollowConfig at hconfig
      split at hconfig
      . next hnone =>
        cases hconfig
        exact ⟨rfl, hrole, hnone⟩
      . cases hconfig
    . cases h
  . cases h

theorem keepMaster_isOk {masterDBUID : String}
    (hreg : ∀ (uid : String) (db : DB), newcd.dbs[uid]? = some db →
      db.spec.keeperUID ∈ newcd.keepers)
    (hmaster : newcd.dbs[masterDBUID]? = some masterDB)
    : ∃ (result : Sentinel × ClusterData),
        s.keepMaster env cd newcd masterDBUID curMasterDB pis = .ok result := by
  unfold keepMaster
  rw [hmaster]
  dsimp only
  split
  . refine reconcileStandbys_isOk ?_
    intro uid db hdb
    rw [getElem?_confirmMaster] at hdb
    split at hdb
    . cases hdb
      have hmem := hreg masterDBUID masterDB hmaster
      unfold confirmMasterRole
      split <;> exact hmem
    . exact hreg uid db hdb
  . exact ⟨_, rfl⟩

theorem applyElection_error {curMasterDBUID : String} {election : Election}
    (hreg : ∀ (uid : String) (db : DB), newcd.dbs[uid]? = some db →
      db.spec.keeperUID ∈ newcd.keepers)
    (hmaster : newcd.dbs[curMasterDBUID]? = some masterDB)
    (hwanted : election.wantedMasterDBUID = curMasterDBUID
      ∨ ∃ (db : DB), newcd.dbs[election.wantedMasterDBUID]? = some db)
    (h : applyElection env election cd newcd curMasterDBUID curMasterDB pis = .error fault)
    : fault = .nilDeref
        ∧
      newcd.cluster.defSpec.role = .standby
        ∧
      newcd.cluster.defSpec.standbyConfig = none := by
  unfold applyElection at h
  split at h
  . obtain ⟨result, hresult⟩ : ∃ result, election.sentinel.keepMaster env cd newcd curMasterDBUID
        curMasterDB pis = .ok result := keepMaster_isOk hreg hmaster
    rw [hresult] at h
    cases h
  . next hne =>
    obtain ⟨db, hdb⟩ := hwanted.resolve_left hne
    split at h
    . next hpromote =>
      cases h
      unfold promoteNewMaster at hpromote
      dsimp only at hpromote
      rw [hmaster] at hpromote
      dsimp only at hpromote
      split at hpromote
      . next hrole =>
        cases hpromote
        exact masterRole_error hrole
      . rw [hdb] at hpromote
        cases hpromote
    . cases h

end Normal

section Init

inductive InitFault (cd : ClusterData) : Fault → Prop where
  | noKeepers : InitFault cd (.error ("cannot choose initial master: " ++ "no keepers registered"))
  | noKeeperState (keeperUID : String)
    : InitFault cd (.error ("keeper " ++ ClusterSpec.quoted keeperUID ++ " state not available"))
  | unknownInitMode (name : String) : InitFault cd (.error ("unknown init mode " ++ name))
  | incompleteSpec
    (h : cd.cluster.defSpec.initMode = none
      ∨ (cd.cluster.defSpec.initMode = some .existing ∧ cd.cluster.defSpec.existingConfig = none)
      ∨ (cd.cluster.defSpec.role = .standby ∧ cd.cluster.defSpec.standbyConfig = none))
    : InitFault cd .nilDeref

theorem findInitialKeeper_error (h : findInitialKeeper env cd = .error fault)
    : fault = .error "no keepers registered" := by
  unfold findInitialKeeper at h
  split at h
  . cases h
    rfl
  . next hsize =>
    have hlt := env.randFn_lt cd.keepers.size (by omega)
    split at h
    . next hkey =>
      rw [List.getElem?_eq_none_iff, Std.ExtTreeMap.length_keys] at hkey
      omega
    . next key hkey =>
      have hmem := List.mem_of_getElem? hkey
      rw [Std.ExtTreeMap.mem_keys, Std.ExtTreeMap.mem_iff_isSome_getElem?] at hmem
      obtain ⟨k, hk⟩ := Option.isSome_iff_exists.mp hmem
      rw [hk] at h
      cases h

theorem initialKeeper_error (h : initialKeeper env cd = .error fault) : InitFault cd fault := by
  unfold initialKeeper at h
  split at h
  . next hfind =>
    cases h
    cases findInitialKeeper_error hfind
    exact .noKeepers
  . next hfind => cases findInitialKeeper_error hfind
  . cases h

variable (hmaster : cd.cluster.status.master ≠ "" →
  ∃ (db : DB), cd.dbs[cd.cluster.status.master]? = some db)
include hmaster

theorem initCluster_error (h : s.initCluster env cd = .error fault) : InitFault cd fault := by
  unfold initCluster at h
  split at h
  . next hmode =>
    cases h
    exact .incompleteSpec (.inl hmode)
  . unfold initNew at h
    dsimp only at h
    split at h
    . split at h
      . next hk =>
        cases h
        exact initialKeeper_error hk
      . cases h
    . next hne =>
      obtain ⟨db, hdb⟩ := hmaster hne
      simp [awaitInitialDB, hdb] at h
  . next hmode =>
    unfold initExisting at h
    dsimp only at h
    split at h
    . split at h
      . next hconfig =>
        cases h
        exact .incompleteSpec (.inr (.inl ⟨hmode, hconfig⟩))
      . split at h
        . cases h
          exact .noKeeperState _
        . cases h
    . next hne =>
      obtain ⟨db, hdb⟩ := hmaster hne
      rw [hdb] at h
      dsimp only at h
      split at h
      . cases h
      . split at h <;> cases h
  . unfold initPITR at h
    dsimp only at h
    split at h
    . split at h
      . next hk =>
        cases h
        exact initialKeeper_error hk
      . split at h
        . next hrole =>
          cases h
          obtain ⟨rfl, hstandby⟩ := masterRole_error hrole
          exact .incompleteSpec (.inr (.inr hstandby))
        . cases h
    . next hne =>
      obtain ⟨db, hdb⟩ := hmaster hne
      simp [awaitInitialDB, hdb] at h
  . next name _ =>
    cases h
    exact .unknownInitMode name

end Init

end Sentinel
end Hysteron
