import Hysteron.Sentinel.Check
import Hysteron.Util.Except

/-!
What the selection of candidates guarantees, and that it does not depend on the convergence tracking
that happens during the same check.
-/

namespace Hysteron
namespace Sentinel

variable {env : Env} {s s' : Sentinel} {now : Time} {cd : ClusterData}

def SameVerdicts (now : Time) (s s' : Sentinel) : Prop :=
  ∀ (db : DB) (timeout : Duration),
    s.dbConvergenceState now db timeout = s'.dbConvergenceState now db timeout

theorem dbConvergenceState_eq_converged_iff {db : DB} {timeout : Duration}
    : s.dbConvergenceState now db timeout = .converged
        ↔
      db.status.currentGeneration = db.generation := by
  unfold dbConvergenceState
  split
  . next h => simp [h]
  . next h =>
    simp only [h, iff_false]
    split
    . simp
    . split <;> simp

theorem convergenceTimer_trackDBConvergence (tracked db : DB) (timeout : Duration)
    : (s.trackDBConvergence now tracked timeout).convergenceTimer now db
        =
      s.convergenceTimer now db := by
  unfold trackDBConvergence
  split
  . rfl
  . unfold convergenceTimer
    rw [Std.ExtTreeMap.getElem?_insertIfNew]
    by_cases h : compare tracked.uid db.uid = .eq ∧ tracked.uid ∉ s.dbConvergenceInfos
    . -- A database that was not tracked is judged as if its timer started now, which it does.
      have huid : tracked.uid = db.uid := by simpa using h.1
      have hnone : s.dbConvergenceInfos[db.uid]? = none := by
        rw [← huid]
        exact Std.ExtTreeMap.getElem?_eq_none h.2
      rw [if_pos h, hnone]
    . rw [if_neg h]

theorem dbConvergenceState_trackDBConvergence (tracked db : DB) (timeout timeout' : Duration)
    : (s.trackDBConvergence now tracked timeout).dbConvergenceState now db timeout'
        =
      s.dbConvergenceState now db timeout' := by
  unfold dbConvergenceState
  rw [convergenceTimer_trackDBConvergence]

theorem sameVerdicts_trackDBConvergence (tracked : DB) (timeout : Duration)
    : SameVerdicts now (s.trackDBConvergence now tracked timeout) s :=
  fun db timeout' => dbConvergenceState_trackDBConvergence tracked db timeout timeout'

theorem SameVerdicts.trans {s'' : Sentinel} (h : SameVerdicts now s s')
    (h' : SameVerdicts now s' s'') : SameVerdicts now s s'' :=
  fun db timeout => (h db timeout).trans (h' db timeout)

theorem sameVerdicts_trackValidDBs (wantType : DBType)
    : SameVerdicts now (s.trackValidDBs now cd wantType) s := by
  intro db timeout
  unfold trackValidDBs
  refine FinMap.foldl_keeps (fun s => s.dbConvergenceState now db timeout) _ cd.dbs ?_ s
  intro s _ db'
  split
  . split
    . exact dbConvergenceState_trackDBConvergence _ _ _ _
    . rfl
  . rfl

theorem sameVerdicts_trackCandidates : SameVerdicts now (s.trackCandidates now cd) s :=
  (sameVerdicts_trackValidDBs _).trans (sameVerdicts_trackValidDBs _)

theorem sameVerdicts_clearLeaderRaceBackoff (masterUID : String)
    : SameVerdicts now (s.clearLeaderRaceBackoff masterUID) s :=
  fun _ _ => rfl

theorem dbStatus_congr (h : SameVerdicts now s s') (dbUID : String)
    : s.dbStatus now cd dbUID = s'.dbStatus now cd dbUID := by
  simp only [dbStatus, dbStatusOn, h _ _]

theorem validDBsByStatus_congr (h : SameVerdicts now s s') (wantType : DBType)
    : s.validDBsByStatus now cd wantType = s'.validDBsByStatus now cd wantType := by
  simp only [validDBsByStatus, dbStatus_congr h]

theorem findBestNewMasters_congr (h : SameVerdicts env.now s s') (search : CandidateSearch)
    (masterDB : DB)
    : s.findBestNewMasters env search cd masterDB = s'.findBestNewMasters env search cd masterDB := by
  simp only [findBestNewMasters, findBestStandbys, validStandbysByStatus, validMastersByStatus,
    validDBsByStatus_congr h]

theorem chooseAutoFailbackTarget_congr (h : SameVerdicts env.now s s')
    (hsince : s.keeperHealthySince = s'.keeperHealthySince)
    (hlast : s.autoFailbackLastSwitchAt = s'.autoFailbackLastSwitchAt) (curMasterDB : DB)
    : s.chooseAutoFailbackTarget env cd curMasterDB
        =
      s'.chooseAutoFailbackTarget env cd curMasterDB := by
  have hdue (spec : DefSpec) (keeper : Keeper)
      : s.autoFailbackDue env.now spec keeper = s'.autoFailbackDue env.now spec keeper := by
    unfold autoFailbackDue
    rw [hsince]
    rw [hlast]
  unfold chooseAutoFailbackTarget
  simp only [findBestNewMasters_congr h, hdue]

@[simp]
theorem trackDBConvergence_keeperHealthySince (db : DB) (timeout : Duration)
    : (s.trackDBConvergence now db timeout).keeperHealthySince = s.keeperHealthySince := by
  unfold trackDBConvergence
  split <;> rfl

@[simp]
theorem trackDBConvergence_autoFailbackLastSwitchAt (db : DB) (timeout : Duration)
    : (s.trackDBConvergence now db timeout).autoFailbackLastSwitchAt
        =
      s.autoFailbackLastSwitchAt := by
  unfold trackDBConvergence
  split <;> rfl

theorem trackDBConvergence_keeps {γ : Type u} (get : Sentinel → γ)
    (h : ∀ (s : Sentinel) infos, get { s with dbConvergenceInfos := infos } = get s)
    (db : DB) (timeout : Duration) : get (s.trackDBConvergence now db timeout) = get s := by
  unfold trackDBConvergence
  split
  . rfl
  . exact h _ _

theorem trackValidDBs_keeps {γ : Type u} (get : Sentinel → γ)
    (h : ∀ (s : Sentinel) infos, get { s with dbConvergenceInfos := infos } = get s)
    (wantType : DBType) : get (s.trackValidDBs now cd wantType) = get s := by
  unfold trackValidDBs
  refine FinMap.foldl_keeps get _ cd.dbs ?_ s
  intro s _ db
  split
  . split
    . exact trackDBConvergence_keeps get h db _
    . rfl
  . rfl

theorem trackCandidates_keeps {γ : Type u} (get : Sentinel → γ)
    (h : ∀ (s : Sentinel) infos, get { s with dbConvergenceInfos := infos } = get s)
    : get (s.trackCandidates now cd) = get s := by
  unfold trackCandidates
  rw [trackValidDBs_keeps get h]
  rw [trackValidDBs_keeps get h]

end Sentinel
end Hysteron
