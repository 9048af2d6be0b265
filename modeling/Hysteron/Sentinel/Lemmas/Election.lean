import Hysteron.Sentinel.Lemmas.Selection

/-!
Which master an update leaves, and the ways in which a database can be elected.
-/

namespace Hysteron
namespace Sentinel

variable {env : Env} {s s' : Sentinel} {cd newcd newcd' : ClusterData} {pis : ProxiesInfo}
variable {curMasterDBUID : String} {curMasterDB : DB}

@[simp]
theorem removeOldKeepers_cluster (now : Time) (cd : ClusterData)
    : (removeOldKeepers now cd).cluster = cd.cluster := rfl

@[simp]
theorem removeOldKeepers_dbs (now : Time) (cd : ClusterData)
    : (removeOldKeepers now cd).dbs = cd.dbs := rfl

theorem finishUpdate_cluster (h : finishUpdate now cd newcd = .ok newcd')
    : newcd'.cluster = newcd.cluster := by
  simp only [finishUpdate, setDBSpecFromClusterSpec, Except.bind_eq_ok_iff, Except.pure_eq_ok,
    Except.ok.injEq] at h
  obtain ⟨mid, hmid, rfl⟩ := h
  split at hmid
  . cases hmid
  . cases hmid
    unfold bumpGenerations updateOrphanMemberSlots
    dsimp only
    split <;> rfl

theorem updateFollowers_cluster
    (h : updateFollowers newcd curMasterDBUID wanted = .ok newcd')
    : newcd'.cluster = newcd.cluster := by
  unfold updateFollowers at h
  split at h
  . cases h
  . cases h
    rfl

theorem resizeStandbys_frame (env : Env) (masterDBUID : String) (standbys : DBsByStatus)
    (newcd : ClusterData)
    : ∃ (dbs : FinMap String DB),
        resizeStandbys env masterDBUID standbys newcd = { newcd with dbs } := by
  unfold resizeStandbys
  dsimp only
  split <;> exact ⟨_, rfl⟩

theorem reconcileStandbys_frame
    (h : s.reconcileStandbys env cd newcd masterDBUID curMasterDB = .ok (s', newcd'))
    : ∃ (dbs : FinMap String DB), newcd' = { newcd with dbs } := by
  simp only [reconcileStandbys, Except.bind_eq_ok_iff, Except.pure_eq_ok, Except.ok.injEq,
    Prod.mk.injEq] at h
  obtain ⟨standbys, -, best, -, -, rfl⟩ := h
  obtain ⟨dbs, hdbs⟩ := resizeStandbys_frame env masterDBUID standbys
    (updateSynchronousStandbys env standbys.good best masterDBUID
      (cleanInitMode standbys.good (s.removeUnusableDBs cd newcd masterDBUID)))
  rw [hdbs]
  exact ⟨_, rfl⟩

theorem reconcileStandbys_cluster
    (h : s.reconcileStandbys env cd newcd masterDBUID curMasterDB = .ok (s', newcd'))
    : newcd'.cluster = newcd.cluster := by
  obtain ⟨dbs, rfl⟩ := reconcileStandbys_frame h
  rfl

theorem reconcileStandbys_keepers
    (h : s.reconcileStandbys env cd newcd masterDBUID curMasterDB = .ok (s', newcd'))
    : newcd'.keepers = newcd.keepers := by
  obtain ⟨dbs, rfl⟩ := reconcileStandbys_frame h
  rfl

theorem keepMaster_cluster
    (h : s.keepMaster env cd newcd masterDBUID curMasterDB pis = .ok (s', newcd'))
    : newcd'.cluster = newcd.cluster := by
  unfold keepMaster at h
  split at h
  . cases h
  . split at h
    . rw [reconcileStandbys_cluster h]
      rfl
    . cases h
      rfl

theorem promoteNewMaster_master (h : promoteNewMaster newcd curMasterDBUID wanted = .ok newcd')
    : newcd'.cluster.status.master = wanted := by
  unfold promoteNewMaster at h
  dsimp only at h
  repeat' split at h
  all_goals cases h
  rfl

@[simp]
theorem clearManualSwitch_master (election : Election)
    : (clearManualSwitch election newcd).cluster.status.master = newcd.cluster.status.master := by
  unfold clearManualSwitch
  split <;> rfl

theorem applyElection_master {election : Election}
    (hcur : newcd.cluster.status.master = curMasterDBUID)
    (h : applyElection env election cd newcd curMasterDBUID curMasterDB pis = .ok (s', newcd'))
    : newcd'.cluster.status.master = election.wantedMasterDBUID := by
  unfold applyElection at h
  split at h
  . next hkeep =>
    rw [keepMaster_cluster h]
    rw [hkeep]
    exact hcur
  . split at h
    . cases h
    . next hpromote =>
      cases h
      exact promoteNewMaster_master hpromote

theorem updateNormal_cases (h : s.updateNormal env cd pis = .ok (s', newcd))
    : ∃ (curMasterDB : DB) (election : Election) (mid : ClusterData),
        cd.dbs[cd.cluster.status.master]? = some curMasterDB
          ∧
        s.elect env (removeOldKeepers env.now cd) cd.cluster.status.master curMasterDB = .ok election
          ∧
        applyElection env election cd (clearManualSwitch election (removeOldKeepers env.now cd))
          cd.cluster.status.master curMasterDB pis = .ok (s', mid)
          ∧
        updateFollowers mid cd.cluster.status.master election.wantedMasterDBUID = .ok newcd := by
  unfold updateNormal at h
  dsimp only at h
  split at h
  . cases h
  . next curMasterDB hcur =>
    simp only [Except.bind_eq_ok_iff, Except.pure_eq_ok, Except.ok.injEq, Prod.mk.injEq] at h
    obtain ⟨election, helect, ⟨sm, mid⟩, hmid, newcd', hfollow, rfl, rfl⟩ := h
    exact ⟨curMasterDB, election, mid, hcur, helect, hmid, hfollow⟩

theorem updateNormal_master (h : s.updateNormal env cd pis = .ok (s', newcd))
    : ∃ (curMasterDB : DB) (election : Election),
        cd.dbs[cd.cluster.status.master]? = some curMasterDB
          ∧
        s.elect env (removeOldKeepers env.now cd) cd.cluster.status.master curMasterDB = .ok election
          ∧
        newcd.cluster.status.master = election.wantedMasterDBUID := by
  obtain ⟨curMasterDB, election, mid, hcur, helect, hmid, hfollow⟩ := updateNormal_cases h
  refine ⟨curMasterDB, election, hcur, helect, ?_⟩
  rw [updateFollowers_cluster hfollow]
  exact applyElection_master (by simp [removeOldKeepers]) hmid

end Sentinel
end Hysteron
