import Hysteron.Safety.Commits
import Hysteron.Safety.SyncSet

/-!
What repeated names in the reports of a master do to its synchronous standbys. A standby that is
reported twice gets known to be in sync twice, and then the known standbys never are the required ones
again.
-/

namespace Hysteron

structure ClusterData.NoRepetition (cd : ClusterData) : Prop where
  required : ∀ (masterDB : DB), cd.dbs[cd.cluster.status.master]? = some masterDB →
    masterDB.spec.synchronousStandbys.elems.Nodup
  known : ∀ (masterDB : DB), cd.dbs[cd.cluster.status.master]? = some masterDB →
    masterDB.status.synchronousStandbys.elems.Nodup

namespace Sentinel

variable {env : Env} {cd observed newcd : ClusterData} {masterDB masterDB' : DB}

def ReportedOnce (masterDB : DB) : Prop :=
  (Slices.commonElements masterDB.status.curSynchronousStandbys.elems
    masterDB.spec.synchronousStandbys.elems).Nodup

theorem nodup_knownStandbys (hknown : masterDB.status.synchronousStandbys.elems.Nodup)
    (hreported : ReportedOnce masterDB) : (knownStandbys masterDB).Nodup := by
  unfold knownStandbys
  dsimp only
  split
  . exact hknown
  . refine List.Nodup.append (hknown.filter _) (hreported.filter _) ?_
    intro uid hold hnew
    exact (Slices.mem_difference.mp hnew).2 hold

theorem knownStandbys_perm (hrequired : masterDB.spec.synchronousStandbys.elems.Nodup)
    (hknown : masterDB.status.synchronousStandbys.elems.Nodup) (hreported : ReportedOnce masterDB)
    (hcovers : ∀ uid ∈ masterDB.spec.synchronousStandbys.elems,
      uid ∈ masterDB.status.curSynchronousStandbys.elems)
    : (knownStandbys masterDB).Perm masterDB.spec.synchronousStandbys.elems := by
  rw [List.perm_ext_iff_of_nodup (nodup_knownStandbys hknown hreported) hrequired]
  intro uid
  rw [mem_knownStandbys]
  constructor
  . exact And.left
  . intro h
    exact ⟨h, .inr (hcovers uid h)⟩

/--
One round of a sentinel with a healthy converged master that it keeps: it merges the reports into the
stored cluster data and updates the result.
-/
structure Round (env : Env) (cd observed newcd : ClusterData) (masterDB : DB) : Prop where
  merge : ∃ (s s' : Sentinel) (published : List KeeperInfo) (firstRun : Bool)
    (kihs : FinMap String KeeperInfoHistory),
    s.updateKeepersStatus env.now cd (getKeepersInfo published) firstRun = .ok (s', observed, kihs)
  update : ∃ (s s' : Sentinel) (pis : ProxiesInfo),
    s.updateCluster env observed pis = .ok (s', newcd)
  fresh : env.Fresh observed.dbs
  phase : observed.cluster.status.phase = .normal
  notPaused : observed.cluster.status.pauseActive env.now = false
  sync : syncRepl observed.cluster.defSpec = true
  master : observed.dbs[observed.cluster.status.master]? = some masterDB
  settled : Settled masterDB
  kept : newcd.cluster.status.master = observed.cluster.status.master

def roundSystem (start : ClusterData) (guard : DB → Prop) : TransitionSystem ClusterData where
  init cd := cd = start
  step cd cd' := ∃ (env : Env) (observed newcd : ClusterData) (masterDB : DB),
    Round env cd observed newcd masterDB ∧ guard masterDB ∧ cd' = newcd.roundTrip

namespace Round

variable (hround : Round env cd observed newcd masterDB)

include hround

theorem stored
    : observed.cluster = cd.cluster
        ∧
      ∃ (db : DB),
        cd.dbs[cd.cluster.status.master]? = some db
          ∧
        masterDB.spec = db.spec
          ∧
        masterDB.status.synchronousStandbys = db.status.synchronousStandbys := by
  obtain ⟨s, s', published, firstRun, kihs, hmerge⟩ := hround.merge
  have hcluster := updateKeepersStatus_cluster hmerge
  refine ⟨hcluster, ?_⟩
  rw [← hcluster]
  exact updateKeepersStatus_known hmerge hround.master

theorem sound_observed (h : cd.Sound) : observed.Sound := by
  obtain ⟨s, s', published, firstRun, kihs, hmerge⟩ := hround.merge
  exact sound_clusterStep h (.updateKeepersStatus s s' env.now published firstRun kihs hmerge)

theorem sound (h : cd.Sound) : newcd.roundTrip.Sound := by
  obtain ⟨s, s', pis, hupdate⟩ := hround.update
  have hobserved := hround.sound_observed h
  have hnewcd := sound_clusterStep hobserved (.updateCluster env s s' pis hround.fresh hupdate)
  exact sound_clusterStep hnewcd (.stored newcd)

theorem noRepetition_observed (h : cd.NoRepetition)
    : masterDB.spec.synchronousStandbys.elems.Nodup
        ∧
      masterDB.status.synchronousStandbys.elems.Nodup := by
  obtain ⟨-, db, hdb, hspec, hknown⟩ := hround.stored
  rw [hspec, hknown]
  exact ⟨h.required db hdb, h.known db hdb⟩

theorem noRepetition (hsound : cd.Sound) (h : cd.NoRepetition) (hreported : ReportedOnce masterDB)
    : newcd.roundTrip.NoRepetition := by
  obtain ⟨hrequired, hknown⟩ := hround.noRepetition_observed h
  have hknown := nodup_knownStandbys hknown hreported
  obtain ⟨s, s', pis, hupdate⟩ := hround.update
  obtain ⟨masterDB', usable, good, best, hsetup⟩ := exists_syncSetup (hround.sound_observed hsound)
    hround.fresh hround.phase hround.notPaused hround.sync hround.master hround.settled hround.kept
    hupdate
  have hnew : masterDB'.spec.synchronousStandbys.elems.Nodup
      ∧ masterDB'.status.synchronousStandbys.elems.Nodup := by
    obtain ⟨-, -, hrequired', -, known, hperm, hknown'⟩ | ⟨-, -, -, hrequired', -, hknown'⟩ :=
      hsetup.cases hround.sync
    . rw [hrequired', hknown', Slice.elems_some, Slice.elems_some]
      refine ⟨?_, (hperm.nodup_iff.mpr hknown).filter _⟩
      exact Std.ExtTreeSet.distinct_toList.imp (fun hne heq => hne (compare_eq_iff_eq.mpr heq))
    . rw [hrequired', hknown', Slice.elems_some]
      exact ⟨hrequired, hknown⟩
  have hstored (db : DB)
      (hdb : newcd.roundTrip.dbs[newcd.roundTrip.cluster.status.master]? = some db)
      : db = masterDB'.roundTrip := by
    obtain ⟨db₀, hdb₀, rfl⟩ := getElem?_roundTrip hdb
    change newcd.dbs[newcd.cluster.status.master]? = some db₀ at hdb₀
    rw [hround.kept, hsetup.master] at hdb₀
    cases hdb₀
    rfl
  constructor
  . intro db hdb
    rw [hstored db hdb]
    simpa [DB.roundTrip, DBSpec.roundTrip] using hnew.1
  . intro db hdb
    rw [hstored db hdb]
    simpa [DB.roundTrip, DBStatus.roundTrip] using hnew.2

end Round

/--
As long as no report repeats a required standby, no standby gets known to be in sync twice, and a
report that covers the required standbys makes the known ones the required ones.
-/
theorem reports_settle (start : ClusterData) (hsound : start.Sound) (hstart : start.NoRepetition)
    (cd : ClusterData) (hreach : (roundSystem start ReportedOnce).Reachable cd)
    : (∀ (masterDB : DB), cd.dbs[cd.cluster.status.master]? = some masterDB →
        masterDB.status.synchronousStandbys.elems.Nodup)
        ∧
      ∀ (env : Env) (observed newcd : ClusterData) (masterDB : DB),
        Round env cd observed newcd masterDB → ReportedOnce masterDB →
          (∀ uid ∈ masterDB.spec.synchronousStandbys.elems,
            uid ∈ masterDB.status.curSynchronousStandbys.elems) →
          (knownStandbys masterDB).Perm masterDB.spec.synchronousStandbys.elems := by
  have hinv : (roundSystem start ReportedOnce).Inductive
      (fun cd => cd.Sound ∧ cd.NoRepetition) := by
    constructor
    . rintro cd rfl
      exact ⟨hsound, hstart⟩
    . rintro cd cd' ⟨hsound, h⟩ ⟨env, observed, newcd, masterDB, hround, hreported, rfl⟩
      exact ⟨hround.sound hsound, hround.noRepetition hsound h hreported⟩
  obtain ⟨-, h⟩ := hinv.of_reachable hreach
  refine ⟨h.known, ?_⟩
  intro env observed newcd masterDB hround hreported hcovers
  obtain ⟨hrequired, hknown⟩ := hround.noRepetition_observed h
  exact knownStandbys_perm hrequired hknown hreported hcovers

section Sample

def sampleReport (now : Time) (generation : Int) (reported : List String) : List KeeperInfo :=
  [sampleInfo now "k1" (some { sampleState "a" generation with
      timelineID := 1
      synchronousStandbys := some reported }),
    sampleInfo now "k2" (some { sampleState "b" generation with timelineID := 1 })]

def sampleRound (now : Time) (generation : Int) (reported : List String) (cd : ClusterData)
    : Except Fault (ClusterData × ClusterData) := do
  let (s, observed, _) ← updateKeepersStatus { lastLeadershipCount := 1 } now cd
    (getKeepersInfo (sampleReport now generation reported)) false
  let (_, newcd) ← s.updateCluster (.simplest now 1) observed ∅
  return (observed, newcd)

def sampleFits (now : Time) (observed newcd : ClusterData) : Bool :=
  observed.dbs.keys.all (fun uid => uid.length ≤ 1) &&
    observed.cluster.status.phase = .normal &&
    observed.cluster.status.pauseActive now = false &&
    syncRepl observed.cluster.defSpec &&
    (observed.dbs[observed.cluster.status.master]?).any (fun masterDB =>
      masterDB.status.healthy && masterDB.status.currentGeneration = masterDB.generation) &&
    newcd.cluster.status.master = observed.cluster.status.master

theorem round_of_sampleFits {now : Time} {generation : Int} {reported : List String}
    (h : sampleRound now generation reported cd = .ok (observed, newcd))
    (hfits : sampleFits now observed newcd = true)
    (hmaster : observed.dbs[observed.cluster.status.master]? = some masterDB)
    : Round (.simplest now 1) cd observed newcd masterDB := by
  simp only [sampleRound, Except.bind_eq_ok_iff, Except.pure_eq_ok, Except.ok.injEq,
    Prod.mk.injEq] at h
  obtain ⟨⟨s, _, kihs⟩, hmerge, ⟨s', _⟩, hupdate, rfl, rfl⟩ := h
  simp only [sampleFits, hmaster, Bool.and_eq_true, decide_eq_true_eq, Option.any_some,
    List.all_eq_true] at hfits
  obtain ⟨⟨⟨⟨⟨hfresh, hphase⟩, hpause⟩, hsync⟩, hsettled⟩, hkept⟩ := hfits
  exact ⟨⟨_, s, _, _, kihs, hmerge⟩, ⟨s, s', ∅, hupdate⟩, Env.fresh_simplest hfresh, hphase, hpause,
    hsync, hmaster, hsettled, hkept⟩

def syncLists (cd : ClusterData) : Option (List String × List String × List String) :=
  (cd.dbs[cd.cluster.status.master]?).map (fun masterDB =>
    (masterDB.spec.synchronousStandbys.elems, masterDB.status.synchronousStandbys.elems,
      masterDB.status.curSynchronousStandbys.elems))

theorem syncLists_eq_some {required known reported : List String}
    (h : syncLists cd = some (required, known, reported))
    : ∃ (masterDB : DB),
        cd.dbs[cd.cluster.status.master]? = some masterDB
          ∧
        masterDB.spec.synchronousStandbys.elems = required
          ∧
        masterDB.status.synchronousStandbys.elems = known
          ∧
        masterDB.status.curSynchronousStandbys.elems = reported := by
  simpa [syncLists] using h

def sampleUnknown : ClusterData := sampleSync sampleSyncSpec (sampleSyncMaster ["b"] [] []) 2

theorem sound_sampleUnknown : sampleUnknown.Sound := sound_sampleSync sampleSyncSpec 2 rfl rfl rfl

theorem noRepetition_sampleUnknown : sampleUnknown.NoRepetition := by
  have hmaster : sampleUnknown.dbs[sampleUnknown.cluster.status.master]?
      = some (sampleSyncMaster ["b"] [] []) := getElem?_sampleSync_master _ _ _
  constructor
  all_goals
    intro masterDB h
    rw [hmaster] at h
    cases h
    decide

theorem reports_settle_sample
    : ∃ (observed newcd : ClusterData) (masterDB : DB),
        Round (.simplest 1 1) sampleUnknown observed newcd masterDB
          ∧
        masterDB.spec.synchronousStandbys.elems = ["b"]
          ∧
        (knownStandbys masterDB).Perm masterDB.spec.synchronousStandbys.elems := by
  have hrun : (sampleRound 1 2 ["b"] sampleUnknown).toOption.map (fun r =>
      (sampleFits 1 r.1 r.2, syncLists r.1)) = some (true, some (["b"], [], ["b"])) := by
    decide +kernel
  obtain ⟨⟨observed, newcd⟩, hrun, hresult⟩ := Except.exists_ok_of_toOption_map hrun
  rw [Prod.mk.injEq] at hresult
  obtain ⟨masterDB, hmaster, hrequired, -, hreported⟩ := syncLists_eq_some hresult.2
  have hround := round_of_sampleFits hrun hresult.1 hmaster
  refine ⟨observed, newcd, masterDB, hround, hrequired, ?_⟩
  refine (reports_settle sampleUnknown sound_sampleUnknown noRepetition_sampleUnknown sampleUnknown
    (.init rfl)).2 _ observed newcd masterDB hround ?_ ?_
  . unfold ReportedOnce
    rw [hrequired, hreported]
    decide
  . rw [hrequired, hreported]
    exact fun _ => id

/--
The master reports its standby twice. The standby is then known to be in sync twice, and a report that
covers the required standbys does not make the known ones the required ones any more.
-/
theorem repeated_report_wedges
    : ∃ (start cd : ClusterData),
        start.Sound
          ∧
        start.NoRepetition
          ∧
        (∀ (masterDB : DB), start.dbs[start.cluster.status.master]? = some masterDB →
          masterDB.status.synchronousStandbys.elems = [])
          ∧
        (roundSystem start (fun _ => True)).Reachable cd
          ∧
        (∃ (masterDB : DB),
          cd.dbs[cd.cluster.status.master]? = some masterDB
            ∧
          ¬ masterDB.status.synchronousStandbys.elems.Nodup)
          ∧
        ∃ (env : Env) (observed newcd : ClusterData) (masterDB : DB),
          Round env cd observed newcd masterDB
            ∧
          (∀ uid ∈ masterDB.spec.synchronousStandbys.elems,
            uid ∈ masterDB.status.curSynchronousStandbys.elems)
            ∧
          ¬ (knownStandbys masterDB).Perm masterDB.spec.synchronousStandbys.elems := by
  have hfirst : (sampleRound 1 2 ["b", "b"] sampleUnknown).toOption.map (fun r =>
      (sampleFits 1 r.1 r.2 && (syncLists r.1).isSome, syncLists r.2.roundTrip))
      = some (true, some (["b"], ["b", "b"], [])) := by
    decide +kernel
  have hsecond : (sampleRound 1 2 ["b", "b"] sampleUnknown >>=
      fun r => sampleRound 2 3 ["b"] r.2.roundTrip).toOption.map (fun r =>
        (sampleFits 2 r.1 r.2, syncLists r.1))
      = some (true, some (["b"], ["b", "b"], ["b"])) := by
    decide +kernel
  obtain ⟨⟨observed, newcd⟩, hrun, hresult⟩ := Except.exists_ok_of_toOption_map hfirst
  rw [Prod.mk.injEq, Bool.and_eq_true] at hresult
  obtain ⟨⟨hfits, hmaster⟩, hlists⟩ := hresult
  obtain ⟨masterDB₁, hmaster₁, -, hknown, -⟩ := syncLists_eq_some hlists
  rw [hrun] at hsecond
  obtain ⟨⟨observed', newcd'⟩, hrun', hresult'⟩ := Except.exists_ok_of_toOption_map hsecond
  rw [Prod.mk.injEq] at hresult'
  obtain ⟨masterDB', hmaster', hrequired', hknown', hreported'⟩ := syncLists_eq_some hresult'.2
  rw [syncLists, Option.isSome_map] at hmaster
  obtain ⟨masterDB, hmaster⟩ := Option.isSome_iff_exists.mp hmaster
  refine ⟨sampleUnknown, newcd.roundTrip, sound_sampleUnknown, noRepetition_sampleUnknown, ?_, ?_,
    ⟨masterDB₁, hmaster₁, ?_⟩, _, observed', newcd', masterDB',
    round_of_sampleFits hrun' hresult'.1 hmaster', ?_, ?_⟩
  . intro masterDB h
    have hstart : sampleUnknown.dbs[sampleUnknown.cluster.status.master]?
        = some (sampleSyncMaster ["b"] [] []) := getElem?_sampleSync_master _ _ _
    rw [hstart] at h
    cases h
    rfl
  . exact .step (.init rfl) ⟨_, observed, newcd, masterDB, round_of_sampleFits hrun hfits hmaster,
      trivial, rfl⟩
  . rw [hknown]
    decide
  . rw [hrequired', hreported']
    exact fun _ => id
  . unfold knownStandbys
    rw [hrequired', hreported', hknown']
    decide

end Sample

end Sentinel
end Hysteron
