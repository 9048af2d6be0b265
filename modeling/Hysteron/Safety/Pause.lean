import Hysteron.Safety.Commits

/-!
What a check does while the cluster is paused. The topology stays as it is, but a request to fail a
keeper is consumed without an effect.
-/

namespace Hysteron

structure ClusterData.SameTopology (cd cd' : ClusterData) : Prop where
  dbs : ∀ (uid : String),
    (cd'.dbs[uid]?).map (fun db => (db.spec, db.generation))
      =
    (cd.dbs[uid]?).map (fun db => (db.spec, db.generation))
  master : cd'.cluster.status.master = cd.cluster.status.master
  spec : cd'.cluster.spec = cd.cluster.spec
  proxy : cd'.proxy = cd.proxy
  manualSwitch : cd'.cluster.status.manualSwitch = cd.cluster.status.manualSwitch

def ClusterData.ForceFails (cd : ClusterData) (keeperUID : String) : Prop :=
  ∃ (k : Keeper), cd.keepers[keeperUID]? = some k ∧ k.status.forceFail = true

namespace Sentinel

variable {env : Env} {s s' : Sentinel} {cd cd' newcd : ClusterData} {now : Time}
variable {keepersInfo : KeepersInfo} {kihs : FinMap String KeeperInfoHistory} {pis : ProxiesInfo}

theorem updateCluster_paused (hphase : cd.cluster.status.phase = .normal)
    (hpause : cd.cluster.status.pauseActive env.now = true)
    (h : s.updateCluster env cd pis = .ok (s', newcd))
    : newcd = cd := by
  unfold updateCluster at h
  simp only [hphase, hpause, if_true] at h
  cases h
  rfl

theorem sameTopology_updateKeepersStatus
    (h : s.updateKeepersStatus now cd keepersInfo false = .ok (s', cd', kihs))
    : cd.SameTopology cd' := by
  have hmerged := updateKeepersStatus_merged h
  refine ⟨?_, ?_, ?_, hmerged.proxy, ?_⟩
  . intro uid
    rw [hmerged.getElem?_dbs, Option.map_map]
    congr
    funext db
    simp only [Function.comp_apply, updateDBHealth_mergeReport_keeps]
  . rw [hmerged.cluster]
  . rw [hmerged.cluster]
  . rw [hmerged.cluster]

theorem not_forceFails_updateKeepersStatus {keeperUID : String}
    (h : s.updateKeepersStatus now cd keepersInfo false = .ok (s', cd', kihs))
    : ¬ cd'.ForceFails keeperUID := by
  rintro ⟨k, hk, hforce⟩
  rw [(updateKeepersStatus_merged h).getElem?_keepers, Option.map_eq_some_iff] at hk
  obtain ⟨k₀, -, rfl⟩ := hk
  cases hforce

/--
A check of a paused cluster leaves the topology and a manual switch alone. It also leaves the
requests to fail a keeper exactly if there is none.
-/
theorem paused_step (env : Env) (s s₁ s₂ s₃ : Sentinel) (cd observed newcd : ClusterData)
    (keepersInfo : KeepersInfo) (kihs : FinMap String KeeperInfoHistory) (pis : ProxiesInfo)
    (hphase : cd.cluster.status.phase = .normal)
    (hpause : cd.cluster.status.pauseActive env.now = true)
    (hmerge : s.updateKeepersStatus env.now cd keepersInfo false = .ok (s₁, observed, kihs))
    (hupdate : s₂.updateCluster env observed pis = .ok (s₃, newcd))
    : cd.SameTopology newcd
        ∧
      ((∀ (keeperUID : String), cd.ForceFails keeperUID → newcd.ForceFails keeperUID)
        ↔
       ∀ (keeperUID : String), ¬ cd.ForceFails keeperUID) := by
  have hcluster := updateKeepersStatus_cluster hmerge
  obtain rfl : newcd = observed := by
    refine updateCluster_paused ?_ ?_ hupdate
    . rw [hcluster, hphase]
    . rw [hcluster, hpause]
  refine ⟨sameTopology_updateKeepersStatus hmerge, ?_⟩
  constructor
  . intro hkept keeperUID hforce
    exact not_forceFails_updateKeepersStatus hmerge (hkept keeperUID hforce)
  . intro hnone keeperUID hforce
    exact absurd hforce (hnone keeperUID)

section Sample

def sampleHealthy (now : Time) : List KeeperInfo :=
  [sampleInfo now "k1" (some (sampleState "d" 3)), sampleInfo now "k2" (some (sampleState "dd" 2))]

def samplePaused : ClusterData :=
  commanded 6 (.pauseCluster "" 0) (sampleReplicated { initMode := some .new })

def samplePausedFailure : ClusterData :=
  commanded 6 (.pauseCluster "" 0)
    (commanded 5 (.failKeeper "k1") (sampleReplicated { initMode := some .new }))

def sampleStep (cd : ClusterData) : Except Fault ClusterData := do
  let (s, observed, _) ← updateKeepersStatus { lastLeadershipCount := 1 } 7 cd
    (getKeepersInfo (sampleHealthy 7)) false
  let (_, newcd) ← s.updateCluster (.simplest 7) observed ∅
  return newcd

theorem sampleStep_cases (h : sampleStep cd = .ok newcd)
    : ∃ (s₁ s₃ : Sentinel) (observed : ClusterData) (kihs : FinMap String KeeperInfoHistory),
        updateKeepersStatus { lastLeadershipCount := 1 } 7 cd (getKeepersInfo (sampleHealthy 7))
            false
          = .ok (s₁, observed, kihs)
          ∧
        s₁.updateCluster (.simplest 7) observed ∅ = .ok (s₃, newcd) := by
  simp only [sampleStep, Except.bind_eq_ok_iff, Except.pure_eq_ok, Except.ok.injEq] at h
  obtain ⟨⟨s₁, observed, kihs⟩, hmerge, ⟨s₃, newcd'⟩, hupdate, rfl⟩ := h
  exact ⟨s₁, s₃, observed, kihs, hmerge, hupdate⟩

theorem paused_step_sample
    : ∃ (newcd : ClusterData),
        sampleStep samplePaused = .ok newcd ∧ samplePaused.SameTopology newcd := by
  have hrun : (sampleStep samplePaused).toOption.map (fun _ => ()) = some () := by decide +kernel
  obtain ⟨newcd, hrun, -⟩ := Except.exists_ok_of_toOption_map hrun
  obtain ⟨s₁, s₃, observed, kihs, hmerge, hupdate⟩ := sampleStep_cases hrun
  exact ⟨newcd, hrun, (paused_step (.simplest 7) _ s₁ s₁ s₃ samplePaused observed newcd _ kihs ∅
    (by decide +kernel) (by decide +kernel) hmerge hupdate).1⟩

/--
The request to fail the keeper of the master is gone after the check, and the master stays when the
pause ends.
-/
theorem paused_step_loses_request
    : samplePausedFailure.cluster.status.phase = .normal
        ∧
      samplePausedFailure.cluster.status.pauseActive 7 = true
        ∧
      samplePausedFailure.ForceFails "k1"
        ∧
      ∃ (newcd : ClusterData),
        sampleStep samplePausedFailure = .ok newcd
          ∧
        ¬ newcd.ForceFails "k1"
          ∧
        (sampleChecked 9 2 (sampleHealthy 9)
          (commanded 8 .resumeCluster newcd.roundTrip)).cluster.status.master = "d" := by
  have hforce : samplePausedFailure.keepers["k1"]?.map (fun k => k.status.forceFail)
      = some true := by
    decide +kernel
  have hrun : (sampleStep samplePausedFailure).toOption.map (fun newcd =>
      (sampleChecked 9 2 (sampleHealthy 9)
        (commanded 8 .resumeCluster newcd.roundTrip)).cluster.status.master) = some "d" := by
    decide +kernel
  obtain ⟨newcd, hrun, hmaster⟩ := Except.exists_ok_of_toOption_map hrun
  obtain ⟨s₁, s₃, observed, kihs, hmerge, hupdate⟩ := sampleStep_cases hrun
  refine ⟨by decide +kernel, by decide +kernel, Option.map_eq_some_iff.mp hforce, newcd, hrun, ?_,
    hmaster⟩
  have hphase : observed.cluster.status.phase = .normal := by
    rw [updateKeepersStatus_cluster hmerge]
    decide +kernel
  have hpause : observed.cluster.status.pauseActive 7 = true := by
    rw [updateKeepersStatus_cluster hmerge]
    decide +kernel
  rw [updateCluster_paused hphase hpause hupdate]
  exact not_forceFails_updateKeepersStatus hmerge

end Sample

end Sentinel
end Hysteron
