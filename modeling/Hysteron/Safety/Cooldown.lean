import Hysteron.Safety.CheckRuns
import Hysteron.Safety.MasterChange

/-!
The cooldown of the auto-failback over the checks of one leader. Only the memory of the sentinel holds
the time of the last one.
-/

namespace Hysteron
namespace Sentinel

variable {env : Env} {s s' : Sentinel} {now : Time} {cd cd' newcd : ClusterData} {pis : ProxiesInfo}
variable {inp : CheckInput} {kihs : FinMap String KeeperInfoHistory}

theorem lastSwitch_frame (now : Time)
    : Frame now (fun s s' => s'.autoFailbackLastSwitchAt = s.autoFailbackLastSwitchAt
        ∨ s'.autoFailbackLastSwitchAt = now) where
  refl _ := .inl rfl
  trans := by
    rintro s s' s'' h (heq | heq)
    . rw [heq]
      exact h
    . exact .inr heq
  tracked s db timeout := .inl (trackDBConvergence_autoFailbackLastSwitchAt db timeout)
  timers _ _ := .inl rfl
  lastSwitch _ := .inr rfl

theorem lastSwitch_updateKeepersStatus {keepersInfo : KeepersInfo} {firstRun : Bool}
    (h : s.updateKeepersStatus now cd keepersInfo firstRun = .ok (s', cd', kihs))
    : s'.autoFailbackLastSwitchAt = s.autoFailbackLastSwitchAt := by
  have herrors (fresh : KeepersInfo) (keepers : FinMap String Keeper)
      : (s.updateKeeperErrors now fresh keepers).autoFailbackLastSwitchAt
        = s.autoFailbackLastSwitchAt := by
    refine FinMap.foldl_keeps autoFailbackLastSwitchAt _ _ ?_ s
    intro s _ k
    split <;> rfl
  have hhealth (s : Sentinel) (cd : ClusterData)
      : (s.updateKeepersHealthMemory now cd).autoFailbackLastSwitchAt
        = s.autoFailbackLastSwitchAt :=
    FinMap.foldl_keeps autoFailbackLastSwitchAt
      (fun s' _ k => s'.updateHealthySince now k (s.updateKeeperHealth now cd k).status.healthy)
      cd.keepers (fun _ _ _ => rfl) s
  unfold updateKeepersStatus at h
  dsimp only at h
  split at h
  . cases h
    rfl
  . split at h
    . cases h
    . cases h
      refine (FinMap.foldl_keeps autoFailbackLastSwitchAt _ _ ?_ _).trans
        ((hhealth _ _).trans (herrors _ _))
      intro s _ db
      unfold updateDBMemory
      repeat' split
      all_goals rfl

theorem clusterSentinelCheck_lastSwitch (h : s.clusterSentinelCheck inp cd = (s', some newcd))
    : ∃ (merged s₁ : Sentinel) (observed : ClusterData) (kihs : FinMap String KeeperInfoHistory),
        (inp.start s cd).updateKeepersStatus inp.env.now cd inp.keepersInfo (inp.firstRun s)
            = .ok (merged, observed, kihs)
          ∧
        (merged.activeProxiesInfos inp.env.now (getProxiesInfo inp.proxies)).1.updateCluster inp.env
            observed (merged.activeProxiesInfos inp.env.now (getProxiesInfo inp.proxies)).2
            = .ok (s₁, newcd)
          ∧
        s'.autoFailbackLastSwitchAt = s₁.autoFailbackLastSwitchAt := by
  unfold clusterSentinelCheck at h
  split at h
  . cases h
  . split at h
    . cases h
    . dsimp only at h
      split at h
      . cases h
      . split at h
        . cases h
        . next newcd' kihs hresult =>
          obtain ⟨merged, observed, hmerge, hupdate⟩ := reconcile_ok hresult
          split at h
          . cases h
            exact ⟨merged, _, observed, kihs, hmerge, hupdate, rfl⟩
          . cases h
            refine ⟨merged, _, observed, kihs, hmerge, hupdate, ?_⟩
            refine FinMap.foldl_keeps autoFailbackLastSwitchAt _ _ ?_ _
            intro s _ db
            unfold updateDBConvergenceInfo
            repeat' split
            all_goals rfl

theorem AutoFailbackDue.lastSwitch {curMasterDB : DB} {dbUID : String}
    (hdue : AutoFailbackDue env s cd curMasterDB dbUID) (hphase : cd.cluster.status.phase = .normal)
    (hpause : cd.cluster.status.pauseActive env.now = false)
    (hcur : cd.dbs[cd.cluster.status.master]? = some curMasterDB)
    (hne : dbUID ≠ cd.cluster.status.master) (h : s.updateCluster env cd pis = .ok (s', newcd))
    : s'.autoFailbackLastSwitchAt = env.now := by
  unfold updateCluster at h
  simp only [hphase, hpause, Bool.false_eq_true, if_false, Except.bind_eq_ok_iff, Except.pure_eq_ok,
    Except.ok.injEq, Prod.mk.injEq] at h
  obtain ⟨⟨s₁, mid⟩, hnormal, -, -, rfl, -⟩ := h
  simp only [updateNormal, hcur, applyElection, Except.bind_eq_ok_iff, Except.pure_eq_ok,
    Except.ok.injEq, Prod.mk.injEq] at hnormal
  obtain ⟨election, helect, ⟨s₁, mid⟩, happly, -, -, rfl, -⟩ := hnormal
  have hwanted := elect_of_due helect (.inr hdue)
  rcases elect_cases helect with hswitch | ⟨-, searched, hsearched, hauto⟩
  . exact absurd hswitch (hdue.2.1 _)
  . unfold electAutomatic at hauto
    dsimp only at hauto
    rw [removeOldKeepers_cluster, if_pos ((masterOK_tracked hsearched _).trans hdue.2.2.1)] at hauto
    simp only [electAutoFailback, Except.bind_eq_ok_iff] at hauto
    obtain ⟨target, -, hauto⟩ := hauto
    cases target with
    | none =>
      cases hauto
      exact absurd hwanted.symm hne
    | some target =>
      cases hauto
      rw [if_neg (hwanted.trans_ne hne)] at happly
      split at happly
      . cases happly
      . cases happly
        rfl

end Sentinel

namespace CheckRun

variable {r : CheckRun} {i j n : Nat}

structure FailsBack (r : CheckRun) (n : Nat) : Prop where
  phase : (r.read n).cluster.status.phase = .normal
  moved : (r.written n).cluster.status.master ≠ (r.read n).cluster.status.master
  unasked : (r.read n).cluster.status.manualSwitch = none
  masterOK : ∀ (merged : Sentinel) (observed : ClusterData) (kihs : FinMap String KeeperInfoHistory)
      (masterDB : DB),
    ((r.inp n).start (r.memory n) (r.read n)).updateKeepersStatus (r.now n) (r.read n)
        (r.inp n).keepersInfo (r.firstRun n) = .ok (merged, observed, kihs) →
      observed.dbs[(r.read n).cluster.status.master]? = some masterDB →
        merged.masterOK (r.now n) (r.read n).cluster.defSpec masterDB = true

def lastSwitch (r : CheckRun) (n : Nat) : Time :=
  ((r.inp n).start (r.memory n) (r.read n)).autoFailbackLastSwitchAt

theorem lastSwitch_after (hn : n < r.length)
    : (r.after n).autoFailbackLastSwitchAt = r.lastSwitch n
        ∨ (r.after n).autoFailbackLastSwitchAt = r.now n := by
  obtain ⟨merged, s₁, observed, kihs, hmerge, hupdate, hlast⟩ :=
    Sentinel.clusterSentinelCheck_lastSwitch (Prod.ext rfl (r.check n hn))
  have hupdated := (Sentinel.lastSwitch_frame (r.now n)).updateCluster hupdate
  rw [after, hlast, lastSwitch, ← Sentinel.lastSwitch_updateKeepersStatus hmerge]
  exact hupdated

theorem lastSwitch_succ (hn : n + 1 < r.length) (hlater : r.firstRun (n + 1) = false)
    : r.lastSwitch (n + 1) = (r.after n).autoFailbackLastSwitchAt := by
  rw [lastSwitch, start_laterRun hlater, memory_succ hn hlater]

theorem FailsBack.lastSwitch (h : r.FailsBack n) (hn : n < r.length)
    : (r.after n).autoFailbackLastSwitchAt = r.now n
        ∧
      ((r.read n).cluster.defSpec.autoFailbackCooldown ≤ 0
        ∨ r.lastSwitch n = 0
        ∨ (r.read n).cluster.defSpec.autoFailbackCooldown ≤ r.now n - r.lastSwitch n) := by
  obtain ⟨merged, s₁, observed, kihs, hmerge, hupdate, hlast⟩ :=
    Sentinel.clusterSentinelCheck_lastSwitch (Prod.ext rfl (r.check n hn))
  have hcluster := Sentinel.updateKeepersStatus_cluster hmerge
  have hsound := sound_read hn
  have hobserved := hsound.of_derived (Sentinel.derived_updateKeepersStatus hsound.assigned
    (Sentinel.keyed_keepersInfo _) hmerge)
  have hphase : observed.cluster.status.phase = .normal := hcluster ▸ h.phase
  have hmoved : (r.written n).cluster.status.master ≠ observed.cluster.status.master :=
    hcluster ▸ h.moved
  obtain ⟨masterDB, hmaster, -⟩ := hobserved.master hphase
  obtain ⟨hpause, hdue⟩ :=
    (Sentinel.updateCluster_changes_master_iff hphase hmaster hupdate hmoved).mp rfl
  rcases hdue with hswitch | hfailback | hfailover
  . obtain ⟨targetDB, ⟨req, keeper, hreq, -⟩, -⟩ := hswitch
    rw [hcluster, h.unasked] at hreq
    cases hreq
  . refine ⟨hlast.trans (hfailback.lastSwitch hphase hpause hmaster hmoved hupdate), ?_⟩
    obtain ⟨-, -, -, before, target, after, keeper, -, -, -, -, -, -, hcooldown⟩ := hfailback
    simp only [Sentinel.autoFailbackDue, Bool.and_eq_true, Bool.or_eq_true, decide_eq_true_eq,
      hcluster] at hcooldown
    rw [CheckRun.lastSwitch, ← Sentinel.lastSwitch_updateKeepersStatus hmerge]
    exact or_assoc.mp hcooldown.2
  . have hok := h.masterOK merged observed kihs masterDB hmerge (hcluster ▸ hmaster)
    rw [← hcluster] at hok
    exact absurd (hok.symm.trans hfailover.2.1) (by decide)

/--
While one sentinel leads, the auto-failbacks that it makes are at least the cooldown apart.
-/
theorem failbacks_apart (r : CheckRun) (hij : i < j) (hj : j < r.length)
    (hleader : ∀ (n : Nat), i < n → n ≤ j → r.firstRun n = false) (hclock : 0 < r.now i)
    (hi : r.FailsBack i) (hfailback : r.FailsBack j)
    : (r.read j).cluster.defSpec.autoFailbackCooldown ≤ r.now j - r.now i := by
  -- the last switch that later checks know of is not before check `i`
  have hlast (n : Nat) (hin : i ≤ n) (hnj : n < j)
      : r.now i ≤ (r.after n).autoFailbackLastSwitchAt := by
    induction n, hin using Nat.le_induction with
    | base => exact le_of_eq (hi.lastSwitch (by omega)).1.symm
    | succ n hin ih =>
      rcases lastSwitch_after (r := r) (n := n + 1) (by omega) with heq | heq
      . rw [heq, lastSwitch_succ (by omega) (hleader (n + 1) (by omega) (by omega))]
        exact ih (by omega)
      . rw [heq]
        exact now_le (by omega) (by omega)
  obtain ⟨k, rfl⟩ : ∃ (k : Nat), j = k + 1 := ⟨j - 1, by omega⟩
  have hknown := hlast k (by omega) (by omega)
  rw [← lastSwitch_succ hj (hleader (k + 1) hij le_rfl)] at hknown
  have hnow := now_le (m := i) hj (by omega)
  rcases (hfailback.lastSwitch hj).2 with hnone | hzero | hcooldown
  . exact hnone.trans (sub_nonneg.mpr hnow)
  . rw [hzero] at hknown
    exact absurd hclock (not_lt.mpr hknown)
  . exact hcooldown.trans (sub_le_sub_left hknown _)

section Sample

def sampleFailback : ClusterSpec where
  initMode := some .new
  unsafeAutoFailback := some true
  autoFailbackMinUptime := some 0
  autoFailbackCooldown := some 15

theorem reachable_sampleFailback : commitSystem.Reachable (sampleReplicated sampleFailback) :=
  reachable_sampleChecked (by decide +kernel) (reachable_sampleChecked (by decide +kernel)
    (reachable_sampleChecked (by decide +kernel) (reachable_sampleChecked (by decide +kernel)
      (.init ⟨"cluster", sampleFailback, rfl⟩))))

def samplePriorities (n : Nat) : Sentinel.CheckInput :=
  let now : Time := 10 * (n + 1)
  let later := decide (3 ≤ n)
  sampleCheck now (if later then 3 else 2) [
    { sampleInfo now "k1" (some (if later then sampleState "ddd" 1 else sampleState "d" 3)) with
      masterPriority := if later then 9 else 0 },
    { sampleInfo now "k2" (some (sampleState "dd" (n + 1))) with masterPriority := 5 }]

theorem sampleFailback_writes
    : ∀ n < 4, (steadyWrite samplePriorities {} (sampleReplicated sampleFailback) n).isSome = true
        ∧ ∀ m ≤ n, ∀ uid ∈ (steadyStates samplePriorities {}
          (sampleReplicated sampleFailback) m).2.dbs.keys, uid.length ≤ if 3 ≤ n then 3 else 2 := by
  decide +kernel

def sampleFailbackRun : CheckRun :=
  steady samplePriorities {} (sampleReplicated sampleFailback) 4 reachable_sampleFailback
    (fun n hn => (sampleFailback_writes n hn).1) (fun _ _ => rfl)
    (fun n _ => by simp [samplePriorities, sampleCheck, Env.simplest])
    (fun n hn m hm => Env.fresh_simplest (by
      simpa using (sampleFailback_writes n hn).2 m hm))
    (by simp [samplePriorities, sampleCheck])

def sampleMasterOK (n : Nat) : Option Bool := do
  let (merged, observed, _) ← (((sampleFailbackRun.inp n).start (sampleFailbackRun.memory n)
    (sampleFailbackRun.read n)).updateKeepersStatus (sampleFailbackRun.now n) (sampleFailbackRun.read n)
      (sampleFailbackRun.inp n).keepersInfo (sampleFailbackRun.firstRun n)).toOption
  let masterDB ← observed.dbs[(sampleFailbackRun.read n).cluster.status.master]?
  return merged.masterOK (sampleFailbackRun.now n) (sampleFailbackRun.read n).cluster.defSpec masterDB

theorem failsBack_of_sample (n : Nat)
    (h : (sampleFailbackRun.read n).cluster.status.phase = .normal
      ∧ (sampleFailbackRun.written n).cluster.status.master
        ≠ (sampleFailbackRun.read n).cluster.status.master
      ∧ (sampleFailbackRun.read n).cluster.status.manualSwitch = none
      ∧ sampleMasterOK n = some true) : sampleFailbackRun.FailsBack n where
  phase := h.1
  moved := h.2.1
  unasked := h.2.2.1
  masterOK merged observed kihs masterDB hmerge hmaster := by
    have hok := h.2.2.2
    simpa [sampleMasterOK, hmerge, hmaster, Except.toOption] using hok

theorem failbacks_apart_sample
    : (sampleFailbackRun.read 3).cluster.defSpec.autoFailbackCooldown ≤ (40 : Time) - 20 := by
  have hlater : ∀ n ≤ 3, 1 < n → sampleFailbackRun.firstRun n = false := by decide +kernel
  exact failbacks_apart sampleFailbackRun (i := 1) (j := 3) (by decide) (by decide)
    (fun n hi hj => hlater n hj hi) (by decide) (failsBack_of_sample 1 (by decide +kernel))
    (failsBack_of_sample 3 (by decide +kernel))

end Sample

end CheckRun
end Hysteron
