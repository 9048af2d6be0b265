import Hysteron.Safety.Origins
import Hysteron.Util.VersionLog

/-!
Generations of databases. Whoever writes the cluster data, the generation of a database counts the
changes of its spec, except for a request to reinitialize a replica, which changes the spec and keeps
the generation. Without such requests the generation identifies the spec.
-/

namespace Hysteron

namespace Sentinel

variable {env : Env} {s s' : Sentinel} {now : Time} {cd newcd base mid followed : ClusterData}
variable {pis : ProxiesInfo} {uid : String} {db db' : DB}

theorem updateCluster_generation (h : cd.Sound) (hfresh : env.Fresh cd.dbs)
    (hrun : s.updateCluster env cd pis = .ok (s', newcd)) (hdb : cd.dbs[uid]? = some db)
    (hdb' : newcd.dbs[uid]? = some db')
    : db'.generation = if db'.spec = db.spec then db.generation else db.generation + 1 := by
  rcases updateCluster_origins h hfresh hrun with rfl | ⟨mid, -, -, horigins, hfinished⟩
  . rw [hdb] at hdb'
    cases hdb'
    simp
  . obtain ⟨orphans, heq⟩ := hfinished.getElem?_dbs uid
    rw [hdb'] at heq
    obtain ⟨midDB, hmidDB, rfl⟩ := Option.map_eq_some_iff.mp heq.symm
    rcases horigins uid midDB hmidDB with ⟨db₀, hdb₀, hinherits⟩ | ⟨⟨n, hnew⟩, -, -⟩
    . rw [hdb] at hdb₀
      cases hdb₀
      simp only [finishGeneration, hdb, ne_eq, ite_not, hinherits.generation]
    . exact absurd hnew.symm (hfresh.ne_of_getElem? hdb n)

section Json

theorem roundTrip_dbSpecFromClusterSpec {clusterSpec : ClusterSpec}
    (h : clusterSpec.roundTrip = clusterSpec) (dt : DBType) (spec : DBSpec)
    : (dbSpecFromClusterSpec clusterSpec.withDefaults (.ok dt) spec).roundTrip
        =
      dbSpecFromClusterSpec clusterSpec.withDefaults (.ok dt) spec := by
  obtain ⟨hparameters, hmatchers, hslots⟩ := ClusterSpec.roundTrip_eq_iff.mp h
  rw [DBSpec.roundTrip_eq_iff]
  cases dt with
  | primaryLine => exact ⟨hparameters, hmatchers, hslots⟩
  | replicaLine =>
    refine ⟨hparameters, rfl, ?_⟩
    unfold dbSpecFromClusterSpec
    dsimp only
    split
    . exact hslots
    . rfl

/--
Cluster data whose specs the store keeps, also once the reported parameters have been merged into the
cluster spec.
-/
structure Normalized (cd : ClusterData) : Prop where
  clusterSpec : cd.cluster.spec.roundTrip = cd.cluster.spec
  dbSpec : ∀ (uid : String) (db : DB), cd.dbs[uid]? = some db → db.spec.roundTrip = db.spec
  pgParameters : ∀ (uid : String) (db : DB), cd.dbs[uid]? = some db →
    FinMap.omitEmpty db.status.pgParameters = db.status.pgParameters

theorem normalized_roundTrip (cd : ClusterData) : Normalized cd.roundTrip where
  clusterSpec := by simp [ClusterData.roundTrip]
  dbSpec := by
    intro uid db hdb
    simp only [ClusterData.roundTrip, Std.ExtTreeMap.getElem?_map, Option.map_eq_some_iff] at hdb
    obtain ⟨db₀, -, rfl⟩ := hdb
    exact DBSpec.roundTrip_roundTrip _
  pgParameters := by
    intro uid db hdb
    simp only [ClusterData.roundTrip, Std.ExtTreeMap.getElem?_map, Option.map_eq_some_iff] at hdb
    obtain ⟨db₀, -, rfl⟩ := hdb
    exact FinMap.omitEmpty_omitEmpty _

theorem reportedState_normalized {inp : CheckInput} {dbs : PostgresState}
    (h : reportedState (s.freshKeepersInfo now cd inp.keepersInfo) db = some dbs)
    : FinMap.omitEmpty dbs.pgParameters = dbs.pgParameters := by
  unfold reportedState at h
  split at h
  . cases h
  . next ki hki =>
    have hmem := mem_of_getKeepersInfo (getElem?_freshKeepersInfo.mp hki).1
    obtain ⟨published, -, rfl⟩ := List.mem_map.mp hmem
    split at h
    . cases h
    . next state hstate =>
      split at h
      . cases h
        obtain ⟨state', -, rfl⟩ := Option.map_eq_some_iff.mp hstate
        exact FinMap.omitEmpty_omitEmpty _
      . cases h

theorem normalized_updateKeepersStatus {inp : CheckInput} {firstRun : Bool}
    {kihs : FinMap String KeeperInfoHistory} (h : Normalized cd)
    (hrun : s.updateKeepersStatus now cd inp.keepersInfo firstRun = .ok (s', newcd, kihs))
    : Normalized newcd := by
  cases firstRun with
  | true =>
    rw [(updateKeepersStatus_firstRun hrun).2]
    exact h
  | false =>
    have hmerged := updateKeepersStatus_merged hrun
    constructor
    case clusterSpec =>
      rw [hmerged.cluster]
      exact h.clusterSpec
    case dbSpec =>
      intro uid db' hdb'
      rw [hmerged.getElem?_dbs] at hdb'
      obtain ⟨db, hdb, rfl⟩ := Option.map_eq_some_iff.mp hdb'
      simp only [updateDBHealth_mergeReport_keeps]
      exact h.dbSpec uid db hdb
    case pgParameters =>
      intro uid db' hdb'
      rw [hmerged.getElem?_dbs] at hdb'
      obtain ⟨db, hdb, rfl⟩ := Option.map_eq_some_iff.mp hdb'
      simp only [updateDBHealth, mergeReport]
      split
      . exact h.pgParameters uid db hdb
      . next dbs hreport =>
        unfold mergeDBState
        dsimp only
        split
        . exact reportedState_normalized hreport
        . exact h.pgParameters uid db hdb

theorem normalized_updateCluster (hsound : cd.Sound) (hfresh : env.Fresh cd.dbs) (h : Normalized cd)
    (hrun : s.updateCluster env cd pis = .ok (s', newcd)) (hdb' : newcd.dbs[uid]? = some db')
    : db'.spec.roundTrip = db'.spec := by
  rcases updateCluster_origins hsound hfresh hrun with rfl | ⟨mid, hmid, hspec, -, hfinished⟩
  . exact h.dbSpec uid db' hdb'
  . have hnormal : mid.cluster.spec.roundTrip = mid.cluster.spec := by
      rcases hspec with hsame | ⟨uid, db, hdb, hmerged⟩
      . rw [hsame]
        exact h.clusterSpec
      . rw [hmerged, ClusterSpec.roundTrip_eq_iff]
        have hcluster := ClusterSpec.roundTrip_eq_iff.mp h.clusterSpec
        exact ⟨h.pgParameters uid db hdb, hcluster.2.1, hcluster.2.2⟩
    obtain ⟨orphans, heq⟩ := hfinished.getElem?_dbs uid
    rw [hdb'] at heq
    obtain ⟨midDB, hmidDB, rfl⟩ := Option.map_eq_some_iff.mp heq.symm
    obtain ⟨dt, hdt⟩ := Option.isSome_iff_exists.mp (hmid.assigned.typed uid midDB hmidDB)
    have htype := (dbType_eq_ok_iff hmid.assigned.keyed hmidDB).mpr hdt
    simp only [finishSpec, htype]
    exact roundTrip_dbSpecFromClusterSpec hnormal dt midDB.spec

end Json

end Sentinel

section Commits

variable {w : Writer} {cd cd' : ClusterData} {uid : String} {db db' : DB}

def Writer.Reinitializes (db : DB) : Writer → Prop
  | .command _ (.reinitializeReplica _ target) => ClusterSpec.trimSpace target = db.spec.keeperUID
  | _ => False

/--
The database is to be reinitialized and its spec does not say so yet.
-/
def Writer.ChangesSilently (w : Writer) (cd : ClusterData) (db : DB) : Prop :=
  w.Reinitializes db ∧ (Operations.markForResync cd.cluster.status.master db).spec ≠ db.spec

def GenerationCounts (db db' : DB) : Prop :=
  db'.generation = if db'.spec = db.spec then db.generation else db.generation + 1

theorem generationCounts_check {inp : Sentinel.CheckInput} {s : Sentinel} (hsound : cd.Sound)
    (hnormal : Sentinel.Normalized cd) (hfresh : inp.env.Fresh cd.dbs)
    (hcheck : (s.clusterSentinelCheck inp cd).2 = some cd') (hdb : cd.dbs[uid]? = some db)
    (hdb' : cd'.roundTrip.dbs[uid]? = some db') : GenerationCounts db db' := by
  obtain ⟨-, s₁, s₂, s₃, s₄, firstRun, observed, kihs, pis, hstatus, hupdate⟩ :=
    Sentinel.clusterSentinelCheck_cases hcheck
  have hobserved := hsound.of_derived
    (Sentinel.derived_updateKeepersStatus hsound.assigned (Sentinel.keyed_keepersInfo inp) hstatus)
  have hfresh' := Sentinel.fresh_updateKeepersStatus hfresh hstatus
  obtain ⟨newDB, hnewDB, rfl⟩ := getElem?_roundTrip hdb'
  -- The merge of the published state leaves generation and spec alone.
  obtain ⟨mergedDB, hmergedDB, hgeneration, hspec⟩ := Sentinel.updateKeepersStatus_db hstatus hdb
  have hcount := Sentinel.updateCluster_generation hobserved hfresh' hupdate hmergedDB hnewDB
  have hstored := Sentinel.normalized_updateCluster hobserved hfresh'
    (Sentinel.normalized_updateKeepersStatus hnormal hstatus) hupdate hnewDB
  unfold GenerationCounts DB.roundTrip
  rw [hstored, ← hgeneration, ← hspec]
  exact hcount

theorem generationCounts_self (h : db.spec.roundTrip = db.spec) : GenerationCounts db db.roundTrip := by
  unfold GenerationCounts DB.roundTrip
  simp [h]

theorem generationCounts_markForResync_iff {masterDBUID : String} (h : db.spec.roundTrip = db.spec)
    : GenerationCounts db (Operations.markForResync masterDBUID db).roundTrip
        ↔
      (Operations.markForResync masterDBUID db).spec = db.spec := by
  have hstored : (Operations.markForResync masterDBUID db).spec.roundTrip
      = (Operations.markForResync masterDBUID db).spec := by
    rw [DBSpec.roundTrip_eq_iff] at h ⊢
    exact h
  have hgeneration : (Operations.markForResync masterDBUID db).generation = db.generation := rfl
  unfold GenerationCounts DB.roundTrip
  dsimp only
  rw [hstored, hgeneration]
  split
  . next heq => exact ⟨fun _ => heq, fun _ => rfl⟩
  . next hne => exact ⟨fun h => by omega, fun h => absurd h hne⟩

theorem generationCounts_commit_iff (hsound : cd.Sound) (hnormal : Sentinel.Normalized cd)
    (hcommit : Commit w cd cd') (hdb : cd.dbs[uid]? = some db) (hdb' : cd'.dbs[uid]? = some db')
    : GenerationCounts db db' ↔ ¬ w.ChangesSilently cd db := by
  have hspec := hnormal.dbSpec uid db hdb
  cases hcommit with
  | check inp s hfresh hcheck =>
    have hcounts := generationCounts_check hsound hnormal hfresh hcheck hdb hdb'
    simp [hcounts, Writer.ChangesSilently, Writer.Reinitializes]
  | command now c hrun =>
    obtain ⟨newDB, hnewDB, rfl⟩ := getElem?_roundTrip hdb'
    -- A database that is not the target of a request stays as it is.
    have hkept (hsame : newDB = db) (hother : ¬ Writer.Reinitializes db (.command now c))
        : GenerationCounts db newDB.roundTrip
          ↔ ¬ Writer.ChangesSilently (.command now c) cd db := by
      rw [hsame]
      simp [generationCounts_self hspec, Writer.ChangesSilently, hother]
    by_cases hc : ∃ (order : VisitOrder String) (target : String), c = .reinitializeReplica order target
    . obtain ⟨order, target, rfl⟩ := hc
      obtain ⟨targetDB, htarget, hkeeper, hne, rfl⟩ :=
        Operations.reinitializeReplica_ok hsound.assigned hrun
      simp only [Operations.setStatus, Std.ExtTreeMap.getElem?_modify, compare_eq_iff_eq] at hnewDB
      split at hnewDB
      . next heq =>
        rw [heq, hdb] at hnewDB htarget
        cases hnewDB
        cases htarget
        rw [generationCounts_markForResync_iff hspec]
        simp [Writer.ChangesSilently, Writer.Reinitializes, hkeeper]
      . next hother =>
        rw [hdb] at hnewDB
        cases hnewDB
        refine hkept rfl ?_
        intro hreinit
        exact hother (hsound.assigned.exclusive _ _ _ _ htarget hdb (hkeeper.trans hreinit))
    . have heffect := Operations.command_effect c hsound.assigned hrun
      obtain ⟨oldDB, holdDB, hcases⟩ := heffect.db_cases hnewDB
      rw [hdb] at holdDB
      cases holdDB
      refine hkept (hcases.resolve_right (fun h => hc h.1)) ?_
      intro hreinit
      cases c with
      | reinitializeReplica order target => exact hc ⟨order, target, rfl⟩
      | _ => exact hreinit

theorem normalized_of_commits (h : commitSystem.Reachable cd) : Sentinel.Normalized cd := by
  cases h with
  | init h =>
    obtain ⟨uid, spec, rfl⟩ := h
    exact Sentinel.normalized_roundTrip _
  | step _ h =>
    obtain ⟨w, hcommit⟩ := h
    cases hcommit <;> exact Sentinel.normalized_roundTrip _

end Commits

section History

structure History where
  versions : List ClusterData
  applied : FinMap String DB := ∅

def Writer.Counted (w : Writer) (cd : ClusterData) : Prop :=
  ∀ (uid : String) (db : DB), cd.dbs[uid]? = some db → ¬ w.ChangesSilently cd db

/--
Commits, of which only those allowed are made, and keepers that apply any version they have read. A
UID is never generated a second time.
-/
inductive HistoryStep (allowed : Writer → ClusterData → Prop) : History → History → Prop where
  | commit {w : Writer} {cd cd' : ClusterData} {older : List ClusterData} {applied : FinMap String DB}
    (hallowed : allowed w cd) (hcommit : Commit w cd cd')
    (hunused : ∀ (uid : String), uid ∈ cd'.dbs → uid ∉ cd.dbs → ∀ old ∈ older, uid ∉ old.dbs)
    : HistoryStep allowed ⟨cd :: older, applied⟩ ⟨cd' :: cd :: older, applied⟩
  | apply {versions : List ClusterData} {applied : FinMap String DB} {seen : ClusterData}
    {uid : String} {db : DB} (hseen : seen ∈ versions) (hdb : seen.dbs[uid]? = some db)
    : HistoryStep allowed ⟨versions, applied⟩ ⟨versions, applied.insert uid db⟩

def historySystem (allowed : Writer → ClusterData → Prop) : TransitionSystem History where
  init h := ∃ (cd : ClusterData), commitSystem.init cd ∧ h = { versions := [cd] }
  step := HistoryStep allowed

def specLog (versions : List ClusterData) (uid : String) : VersionLog DBSpec :=
  versions.filterMap (fun cd => cd.dbs[uid]?.map (fun db => (db.generation, db.spec)))

variable {w : Writer} {cd cd' : ClusterData} {older versions : List ClusterData} {uid : String}
variable {db : DB}

theorem mem_specLog (hcd : cd ∈ versions) (hdb : cd.dbs[uid]? = some db)
    : (db.generation, db.spec) ∈ specLog versions uid := by
  rw [specLog, List.mem_filterMap]
  exact ⟨cd, hcd, by rw [hdb]; rfl⟩

theorem specLog_cons_some (hdb : cd.dbs[uid]? = some db)
    : specLog (cd :: older) uid = (db.generation, db.spec) :: specLog older uid := by
  simp [specLog, hdb]

theorem specLog_cons_none (hdb : cd.dbs[uid]? = none)
    : specLog (cd :: older) uid = specLog older uid := by
  simp [specLog, hdb]

theorem specLog_eq_nil (h : ∀ old ∈ older, uid ∉ old.dbs) : specLog older uid = [] := by
  rw [specLog, List.filterMap_eq_nil_iff]
  intro old hold
  rw [Std.ExtTreeMap.getElem?_eq_none (h old hold)]
  rfl

theorem valid_specLog_commit (hcd : commitSystem.Reachable cd) (hcounted : w.Counted cd)
    (hcommit : Commit w cd cd')
    (hunused : ∀ (uid : String), uid ∈ cd'.dbs → uid ∉ cd.dbs → ∀ old ∈ older, uid ∉ old.dbs)
    (hvalid : (specLog (cd :: older) uid).Valid) : (specLog (cd' :: cd :: older) uid).Valid := by
  cases hdb' : cd'.dbs[uid]? with
  | none =>
    rw [specLog_cons_none hdb']
    exact hvalid
  | some db' =>
    rw [specLog_cons_some hdb']
    cases hdb : cd.dbs[uid]? with
    | none =>
      have hmem' : uid ∈ cd'.dbs := by
        rw [Std.ExtTreeMap.mem_iff_isSome_getElem?, hdb']
        rfl
      have hmem : uid ∉ cd.dbs := by simpa using hdb
      rw [specLog_cons_none hdb, specLog_eq_nil (hunused uid hmem' hmem)]
      exact .first _ _
    | some db =>
      rw [specLog_cons_some hdb] at hvalid ⊢
      have hcounts := (generationCounts_commit_iff (sound_of_commits hcd)
        (normalized_of_commits hcd) hcommit hdb hdb').mpr (hcounted uid db hdb)
      unfold GenerationCounts at hcounts
      split at hcounts
      . next hspec =>
        rw [hcounts, hspec]
        exact .keep hvalid
      . rw [hcounts]
        exact .bump _ hvalid

structure History.Consistent (h : History) : Prop where
  reachable : ∀ (cd : ClusterData), h.versions.head? = some cd → commitSystem.Reachable cd
  valid : ∀ (uid : String), (specLog h.versions uid).Valid
  applied : ∀ (uid : String) (db : DB), h.applied[uid]? = some db →
    (db.generation, db.spec) ∈ specLog h.versions uid

theorem consistent_inductive : (historySystem Writer.Counted).Inductive History.Consistent where
  init := by
    rintro _ ⟨cd, hinit, rfl⟩
    refine ⟨?_, ?_, by simp⟩
    . rintro _ ⟨⟩
      exact .init hinit
    . intro uid
      cases hdb : cd.dbs[uid]? with
      | none => rw [specLog_cons_none hdb]; exact .nil
      | some db => rw [specLog_cons_some hdb]; exact .first _ _
  step := by
    rintro _ _ h (⟨hallowed, hcommit, hunused⟩ | ⟨hseen, hdb⟩)
    . have hcd := h.reachable _ rfl
      refine ⟨?_, ?_, ?_⟩
      . rintro _ ⟨⟩
        exact hcd.step ⟨_, hcommit⟩
      . intro uid
        exact valid_specLog_commit hcd hallowed hcommit hunused (h.valid uid)
      . intro uid db hdb
        have hmem := h.applied uid db hdb
        rw [specLog, List.filterMap_cons]
        split
        . exact hmem
        . exact .tail _ hmem
    . refine ⟨h.reachable, h.valid, ?_⟩
      intro uid' db' hdb'
      simp only [Std.ExtTreeMap.getElem?_insert, compare_eq_iff_eq] at hdb'
      split at hdb'
      . next heq =>
        cases hdb'
        exact mem_specLog hseen (heq ▸ hdb)
      . exact h.applied uid' db' hdb'

/--
Whoever writes the next version, the generation of a database counts the changes of its spec exactly
if no request to reinitialize it changes the spec. If there are no such requests, then equal
generations mean equal specs in all committed versions, also in the one that a keeper has applied.
-/
theorem generation_identifies_spec (uid : String)
    : (∀ {w : Writer} {cd cd' : ClusterData} {db db' : DB},
        commitSystem.Reachable cd → Commit w cd cd' →
        cd.dbs[uid]? = some db → cd'.dbs[uid]? = some db' →
        (db'.generation = (if db'.spec = db.spec then db.generation else db.generation + 1)
          ↔
        ¬ w.ChangesSilently cd db))
        ∧
      ∀ {h : History}, (historySystem Writer.Counted).Reachable h →
        (∀ cd ∈ h.versions, ∀ cd' ∈ h.versions, ∀ {db db' : DB},
          cd.dbs[uid]? = some db → cd'.dbs[uid]? = some db' → db.generation = db'.generation →
          db.spec = db'.spec)
          ∧
        ∀ {appliedDB db : DB} {cd : ClusterData},
          h.versions.head? = some cd → cd.dbs[uid]? = some db → h.applied[uid]? = some appliedDB →
          appliedDB.generation = db.generation → appliedDB.spec = db.spec := by
  refine ⟨?_, ?_⟩
  . intro w cd cd' db db' hcd hcommit hdb hdb'
    exact generationCounts_commit_iff (sound_of_commits hcd) (normalized_of_commits hcd) hcommit hdb
      hdb'
  . intro h hreach
    have hconsistent := consistent_inductive.of_reachable hreach
    refine ⟨?_, ?_⟩
    . intro cd hcd cd' hcd' db db' hdb hdb' hgeneration
      exact (hconsistent.valid uid).eq_of_number_eq (mem_specLog hcd hdb) (mem_specLog hcd' hdb')
        hgeneration
    . intro appliedDB db cd hhead hdb happlied hgeneration
      have hcd := List.mem_of_mem_head? hhead
      exact (hconsistent.valid uid).eq_of_number_eq (hconsistent.applied uid _ happlied)
        (mem_specLog hcd hdb) hgeneration

section Sample

def sampleFirst : ClusterData := sampleChecked 1 0 [sampleInfo 1 "k1" none] sampleCreated

def sampleSecond : ClusterData :=
  sampleChecked 2 1 [sampleInfo 2 "k1" (some (sampleState "d" 0))] sampleFirst

theorem counted_check (inp : Sentinel.CheckInput) (s : Sentinel) (cd : ClusterData)
    : (Writer.check inp s).Counted cd := by
  intro uid db hdb hsilent
  exact hsilent.1

def sampleVersions (db : DB) : History where
  versions := [sampleSecond, sampleFirst, sampleCreated]
  applied := (∅ : FinMap String DB).insert "d" db

theorem reachable_sampleVersions {db : DB} (hdb : sampleFirst.dbs["d"]? = some db)
    : (historySystem Writer.Counted).Reachable (sampleVersions db) := by
  have hfirst : Commit (.check (sampleCheck 1 0 [sampleInfo 1 "k1" none])
      { lastLeadershipCount := 1 }) sampleCreated sampleFirst :=
    commit_checked (Env.fresh_simplest (by decide +kernel)) (by decide +kernel)
  have hsecond : Commit (.check (sampleCheck 2 1 [sampleInfo 2 "k1" (some (sampleState "d" 0))])
      { lastLeadershipCount := 1 }) sampleFirst sampleSecond :=
    commit_checked (Env.fresh_simplest (by decide +kernel)) (by decide +kernel)
  have hkeys : ∀ uid ∈ sampleSecond.dbs.keys, uid ∈ sampleFirst.dbs := by decide +kernel
  have hreach := TransitionSystem.Reachable.step (M := historySystem Writer.Counted)
    (.init ⟨sampleCreated, ⟨_, _, rfl⟩, rfl⟩) (.commit (counted_check _ _ _) hfirst (by simp))
  refine (hreach.step (.apply (.head _) hdb)).step (.commit (counted_check _ _ _) hsecond ?_)
  intro uid hnew hold
  exact absurd (hkeys uid (Std.ExtTreeMap.mem_keys.mpr hnew)) hold

theorem generation_identifies_spec_sample
    : ∃ (h : History) (cd : ClusterData) (db appliedDB : DB),
        h.versions.head? = some cd
          ∧
        cd.dbs["d"]? = some db
          ∧
        h.applied["d"]? = some appliedDB
          ∧
        appliedDB ≠ db
          ∧
        appliedDB.generation = db.generation
          ∧
        appliedDB.spec = db.spec := by
  have hdbs : ((sampleFirst.dbs["d"]?).map (fun db => (db.generation, db.status.healthy)),
      (sampleSecond.dbs["d"]?).map (fun db => (db.generation, db.status.healthy)))
      = (some (1, false), some (1, true)) := by
    decide +kernel
  simp only [Prod.mk.injEq, Option.map_eq_some_iff] at hdbs
  obtain ⟨⟨appliedDB, happlied, hgeneration, hdown⟩, ⟨db, hdb, hgeneration', hup⟩⟩ := hdbs
  have hsame : appliedDB.generation = db.generation := hgeneration.trans hgeneration'.symm
  have hne : appliedDB ≠ db := by
    rintro rfl
    rw [hdown] at hup
    cases hup
  have hrecord : (sampleVersions appliedDB).applied["d"]? = some appliedDB := by simp [sampleVersions]
  exact ⟨sampleVersions appliedDB, sampleSecond, db, appliedDB, rfl, hdb, hrecord, hne, hsame,
    ((generation_identifies_spec "d").2 (reachable_sampleVersions happlied)).2 rfl hdb hrecord hsame⟩

/--
The replica is set up and converged when it is reinitialized: its spec changes, its generation does
not.
-/
theorem reinitializeReplica_changes_silently
    : ∃ (w : Writer) (cd cd' : ClusterData) (db db' : DB),
        commitSystem.Reachable cd
          ∧
        Commit w cd cd'
          ∧
        cd.dbs["dd"]? = some db
          ∧
        cd'.dbs["dd"]? = some db'
          ∧
        db'.spec ≠ db.spec
          ∧
        db'.generation = db.generation := by
  let cd := sampleReplicated { initMode := some .new }
  let c : Operations.Command := .reinitializeReplica .stored "k2"
  have hcommit : Commit (.command 5 c) cd (commanded 5 c cd) := commit_commanded (by decide +kernel)
  have hdbs : (cd.dbs["dd"]?.bind (fun db => (commanded 5 c cd).dbs["dd"]?.map (fun db' =>
      decide (db'.spec ≠ db.spec ∧ db'.generation = db.generation)))) = some true := by
    decide +kernel
  simp only [Option.bind_eq_some_iff, Option.map_eq_some_iff, decide_eq_true_eq] at hdbs
  obtain ⟨db, hdb, db', hdb', hspec, hgeneration⟩ := hdbs
  exact ⟨_, cd, _, db, db', reachable_sampleReplicated, hcommit, hdb, hdb', hspec, hgeneration⟩

end Sample

end History

end Hysteron
