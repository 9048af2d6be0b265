import Hysteron.Cluster.Validated
import Hysteron.Safety.Origins
import Hysteron.Keeper.Settings

/-!
When the initial database is ready, its parameters can become those of the cluster spec. The keeper
writes one of two spellings of the WAL level, while the validation accepts more of them.
-/

namespace Hysteron

namespace Keeper

variable {cfg : Config} {readings : Readings} {initPGParameters : Option PGParameters} {db : DB}

theorem getElem?_copyParameters (dst src : PGParameters) (name : String)
    : (copyParameters dst src)[name]? = src[name]?.or dst[name]? :=
  FinMap.getElem?_foldl_insert dst src name

def userParameter (initPGParameters : Option PGParameters) (db : DB) (name : String)
    : Option String :=
  (specParameter db name).or
    (if db.spec.includeConfig then (initPGParameters.getD ∅)[name]? else none)

theorem getElem?_mandatory_hotStandbyFeedback (readings : Readings) (db : DB)
    : (mandatoryPGParameters readings db)["hot_standby_feedback"]? = none := by
  unfold mandatoryPGParameters
  dsimp only
  split
  . simp
  . split <;> simp

theorem getElem?_mandatory_walLevel (readings : Readings) (db : DB)
    : (mandatoryPGParameters readings db)["wal_level"]? = some (walLevel db) := by
  unfold mandatoryPGParameters
  dsimp only
  split
  . simp only [Std.ExtTreeMap.getElem?_insert, compare_eq_iff_eq, String.reduceEq, ↓reduceIte]
  . split
    . simp only [Std.ExtTreeMap.getElem?_insert, compare_eq_iff_eq, String.reduceEq, ↓reduceIte]
    . simp only [Std.ExtTreeMap.getElem?_insert, compare_eq_iff_eq, String.reduceEq, ↓reduceIte]

theorem getElem?_filteredPGParameters {name : String} (h : name ∉ managedPGParameters)
    (pgParameters : PGParameters)
    : (filteredPGParameters pgParameters)[name]? = pgParameters[name]? := by
  unfold filteredPGParameters
  rw [Std.ExtTreeMap.getElem?_filter']
  cases pgParameters[name]? <;> simp [h]

theorem getElem?_created_walLevel
    : (createPGParameters cfg readings initPGParameters db)["wal_level"]? = some (walLevel db) := by
  have hmandatory := getElem?_mandatory_walLevel readings db
  unfold createPGParameters
  dsimp only
  split
  all_goals
    split
    all_goals
      simp only [Std.ExtTreeMap.getElem?_insert, compare_eq_iff_eq, String.reduceEq, ↓reduceIte,
        getElem?_copyParameters, hmandatory, Option.some_or]

theorem getElem?_created_hotStandbyFeedback
    : (createPGParameters cfg readings initPGParameters db)["hot_standby_feedback"]?
        =
      if db.spec.enableLogicalSlotFailover then
        some "on"
      else
        userParameter initPGParameters db "hot_standby_feedback" := by
  have hmandatory := getElem?_mandatory_hotStandbyFeedback readings db
  have hspec : (db.spec.pgParameters.getD ∅)["hot_standby_feedback"]?
      = specParameter db "hot_standby_feedback" := by
    unfold specParameter
    cases db.spec.pgParameters <;> simp
  have hinit (parameters : PGParameters)
      : (if db.spec.includeConfig then parameters else ∅)["hot_standby_feedback"]?
        = if db.spec.includeConfig then parameters["hot_standby_feedback"]? else none := by
    split <;> simp
  unfold createPGParameters userParameter
  dsimp only
  split
  all_goals
    split
    all_goals
      simp only [Std.ExtTreeMap.getElem?_insert, compare_eq_iff_eq, String.reduceEq, ↓reduceIte,
        getElem?_copyParameters, hmandatory, hspec, hinit, Option.none_or]

end Keeper

namespace ClusterSpec

def normalized (raw : String) : String := toLower (trimSpace raw)

structure AllowsParameters (spec : DefSpec) (pgParameters : PGParameters) : Prop where
  walLevel : spec.managedLogicalReplicationSlots.elems ≠ [] →
    normalized (pgParameters["wal_level"]?.getD "") = "logical"
  hotStandbyFeedback : spec.enableLogicalSlotFailover = true → ∀ (raw : String),
    pgParameters["hot_standby_feedback"]? = some raw → normalized raw ∈ ["on", "true", "1"]

theorem validateReplication_pgParameters {s : DefSpec} (h : validateReplication s = .ok ())
    (pgParameters : PGParameters)
    : validateReplication { s with pgParameters := some pgParameters } = .ok ()
        ↔
      AllowsParameters s pgParameters := by
  unfold validateReplication at h ⊢
  simp only [Except.bind_eq_ok_iff] at h ⊢
  obtain ⟨⟨⟩, h₁, ⟨⟩, h₂, ⟨⟩, h₃, ⟨⟩, h₄, ⟨⟩, h₅, ⟨⟩, -, ⟨⟩, h₇, h⟩ := h
  -- The checks on the access files come last, whatever the parameters are.
  have hfiles : (do
      reject (s.pgHBA.elems.any (fun entry => entry.toList.contains '\n'))
        "pgHBA entries cannot contain newline characters"
      reject (s.pgIdent.elems.any (fun entry => entry.toList.contains '\n'))
        "pgIdent entries cannot contain newline characters") = Except.ok () := by
    split at h
    . split at h
      . exact h
      . obtain ⟨⟨⟩, -, h⟩ := Except.bind_eq_ok_iff.mp h
        exact h
    . exact h
  simp only [h₁, h₂, h₃, h₄, h₅, h₇, hfiles, Option.getD_some, true_and, exists_const,
    reject_eq_ok_iff, Bool.and_eq_false_iff, decide_eq_false_iff_not, not_not, ne_eq]
  constructor
  . rintro ⟨hlevel, hfeedback⟩
    constructor
    case walLevel => exact fun hslots => hlevel.resolve_left hslots
    case hotStandbyFeedback =>
      intro henabled raw hraw
      simp only [if_pos henabled, hraw, Except.bind_eq_ok_iff, reject_eq_ok_iff,
        decide_eq_false_iff_not, not_not] at hfeedback
      exact hfeedback.choose_spec.1
  . intro hallowed
    constructor
    . by_cases hslots : s.managedLogicalReplicationSlots.elems = []
      . exact .inl hslots
      . exact .inr (hallowed.walLevel hslots)
    . split
      . next henabled =>
        split
        . rfl
        . next raw hraw =>
          rw [Except.bind_eq_ok_iff]
          refine ⟨(), ?_, rfl⟩
          rw [reject_eq_ok_iff, decide_eq_false_iff_not, not_not]
          exact hallowed.hotStandbyFeedback henabled raw hraw
      . rfl

theorem validate_pgParameters {spec : ClusterSpec} (h : spec.validate = .ok ())
    (pgParameters : PGParameters)
    : ({ spec with pgParameters := some pgParameters } : ClusterSpec).validate = .ok ()
        ↔
      AllowsParameters spec.withDefaults pgParameters := by
  have hdefaults : ({ spec with pgParameters := some pgParameters } : ClusterSpec).withDefaults
      = { spec.withDefaults with pgParameters := some pgParameters } := rfl
  unfold validate at h ⊢
  rw [hdefaults]
  dsimp only at h ⊢
  generalize spec.withDefaults = s at h ⊢
  simp only [Except.bind_eq_ok_iff] at h ⊢
  obtain ⟨⟨⟩, htimings, h⟩ := h
  split at h
  . cases h
  . next initMode hmode =>
    simp only [Except.bind_eq_ok_iff] at h ⊢
    obtain ⟨⟨⟩, hreplication, ⟨⟩, hinit, hrole⟩ := h
    rw [← validateReplication_pgParameters hreplication pgParameters]
    constructor
    . rintro ⟨-, -, ⟨⟩, hreplication', -⟩
      exact hreplication'
    . intro hreplication'
      exact ⟨(), htimings, (), hreplication', (), hinit, hrole⟩

end ClusterSpec

namespace Sentinel

open Keeper

variable {env : Env} {s s' : Sentinel} {cd newcd : ClusterData} {pis : ProxiesInfo}

structure MergesParameters (cd : ClusterData) (db : DB) : Prop where
  phase : cd.cluster.status.phase = .initializing
  chosen : cd.cluster.status.master ≠ ""
  master : cd.dbs[cd.cluster.status.master]? = some db
  ready : Initialized db
  merge : cd.cluster.defSpec.mergePgParameters = true

theorem spec_of_mergesParameters {db : DB} (hmerges : MergesParameters cd db)
    (h : s.updateCluster env cd pis = .ok (s', newcd))
    : newcd.cluster.spec = { cd.cluster.spec with pgParameters := db.status.pgParameters } := by
  cases updateCluster_cases h with
  | paused hphase =>
    rw [hmerges.phase] at hphase
    cases hphase
  | normal hphase =>
    rw [hmerges.phase] at hphase
    cases hphase
  | initializing _ mid hmid hfinish =>
    rw [(finishUpdate_finished hfinish).cluster]
    cases hmid with
    | chosen _ hmaster => exact absurd hmaster hmerges.chosen
    | awaited db' _ hdb' hready =>
      rw [hmerges.master] at hdb'
      cases hdb'
      exact absurd hmerges.ready hready
    | restarted _ db' hdb' hready =>
      rw [hmerges.master] at hdb'
      cases hdb'
      exact absurd hmerges.ready hready
    | completed db' _ hdb' =>
      rw [hmerges.master] at hdb'
      cases hdb'
      unfold completeInit
      dsimp only
      rw [if_pos hmerges.merge]

theorem spec_of_not_mergesParameters (hnot : ∀ (db : DB), ¬ MergesParameters cd db)
    (h : s.updateCluster env cd pis = .ok (s', newcd)) : newcd.cluster.spec = cd.cluster.spec := by
  cases updateCluster_cases h with
  | paused _ heq => rw [heq]
  | normal _ base mid followed _ _ hbase hmid hfollow hfinish =>
    rw [(finishUpdate_finished hfinish).cluster, updateFollowers_cluster hfollow,
      normalCase_spec hmid, hbase.spec]
  | initializing hphase mid hmid hfinish =>
    rw [(finishUpdate_finished hfinish).cluster]
    cases hmid with
    | chosen => rfl
    | awaited => rfl
    | restarted => rfl
    | completed db hmaster hdb hready =>
      unfold completeInit
      dsimp only
      rw [if_neg (fun hmerge => hnot db ⟨hphase, hmaster, hdb, hready, hmerge⟩)]

/--
The spec of the initial database spells the WAL level as the keeper writes it if the cluster has
logical slots, and its feedback is on if they are failed over.
-/
structure SpellsParameters (spec : DefSpec) (initPGParameters : Option PGParameters) (db : DB)
    : Prop where
  walLevel : spec.managedLogicalReplicationSlots.elems ≠ [] →
    specParameter db "wal_level" = some "logical"
  hotStandbyFeedback : spec.enableLogicalSlotFailover = true →
    db.spec.enableLogicalSlotFailover = true
      ∨
    ∀ (raw : String), userParameter initPGParameters db "hot_standby_feedback" = some raw →
      ClusterSpec.normalized raw ∈ ["on", "true", "1"]

theorem allowsParameters_reported_iff {spec : DefSpec} {cfg : Keeper.Config} {readings : Readings}
    {initPGParameters : Option PGParameters} {db : DB}
    : ClusterSpec.AllowsParameters spec
          (filteredPGParameters (createPGParameters cfg readings initPGParameters db))
        ↔
      SpellsParameters spec initPGParameters db := by
  have hlevel : ClusterSpec.normalized (((filteredPGParameters
      (createPGParameters cfg readings initPGParameters db))["wal_level"]?).getD "") = "logical"
      ↔ specParameter db "wal_level" = some "logical" := by
    rw [getElem?_filteredPGParameters (by decide), getElem?_created_walLevel, Option.getD_some]
    unfold walLevel
    split
    . next h => exact iff_of_true (by decide +kernel) h
    . next h => exact iff_of_false (by decide +kernel) h
  have hfeedback : (∀ (raw : String), (filteredPGParameters
      (createPGParameters cfg readings initPGParameters db))["hot_standby_feedback"]? = some raw →
        ClusterSpec.normalized raw ∈ ["on", "true", "1"])
      ↔ (db.spec.enableLogicalSlotFailover = true
        ∨ ∀ (raw : String), userParameter initPGParameters db "hot_standby_feedback" = some raw →
          ClusterSpec.normalized raw ∈ ["on", "true", "1"]) := by
    rw [getElem?_filteredPGParameters (by decide), getElem?_created_hotStandbyFeedback]
    split
    . next h => exact iff_of_true (fun raw hraw => by cases hraw; decide +kernel) (.inl h)
    . next h => simp only [h, Bool.false_eq_true, false_or]
  constructor
  . intro h
    exact ⟨fun hslots => hlevel.mp (h.walLevel hslots),
      fun henabled => hfeedback.mp (h.hotStandbyFeedback henabled)⟩
  . intro h
    exact ⟨fun hslots => hlevel.mpr (h.walLevel hslots),
      fun henabled => hfeedback.mpr (h.hotStandbyFeedback henabled)⟩

/--
A sentinel that reads a valid cluster spec writes a valid one, except that the parameters which the
keeper has written for the initial database, once they are merged, must be spelled in the spec of
that database as the keeper writes them. `observed` is the cluster data with the reports merged.
-/
theorem merged_spec_valid_iff (env : Env) (s₁ s₂ s₃ s₄ : Sentinel) (now : Time)
    (cd observed newcd : ClusterData) (keepersInfo : KeepersInfo) (firstRun : Bool)
    (kihs : FinMap String KeeperInfoHistory) (pis : ProxiesInfo) (cfg : Keeper.Config)
    (readings : Readings) (initPGParameters : Option PGParameters)
    (hvalid : cd.cluster.spec.validate = .ok ())
    (hstatus : s₁.updateKeepersStatus now cd keepersInfo firstRun = .ok (s₂, observed, kihs))
    (hupdate : s₃.updateCluster env observed pis = .ok (s₄, newcd))
    (hreported : ∀ (db : DB), MergesParameters observed db →
      db.status.pgParameters
        = some (filteredPGParameters (createPGParameters cfg readings initPGParameters db)))
    : newcd.cluster.spec.validate = .ok ()
        ↔
      ∀ (db : DB), MergesParameters observed db →
        SpellsParameters cd.cluster.defSpec initPGParameters db := by
  have hcluster := updateKeepersStatus_cluster hstatus
  by_cases hmerges : ∃ (db : DB), MergesParameters observed db
  . obtain ⟨db, hmerges⟩ := hmerges
    have honly (db' : DB) (hmerges' : MergesParameters observed db') : db' = db := by
      have hsame := hmerges'.master
      rw [hmerges.master] at hsame
      exact (Option.some.inj hsame).symm
    rw [spec_of_mergesParameters hmerges hupdate, hcluster, hreported db hmerges,
      ClusterSpec.validate_pgParameters hvalid, allowsParameters_reported_iff]
    constructor
    . intro h db' hmerges'
      rw [honly db' hmerges']
      exact h
    . exact fun h => h db hmerges
  . rw [not_exists] at hmerges
    rw [spec_of_not_mergesParameters hmerges hupdate, hcluster]
    exact iff_of_true hvalid (fun db hdb => absurd hdb (hmerges db))

section Sample

def sampleLogicalSpec (walLevel : String) : ClusterSpec where
  initMode := some .new
  pgParameters := some ((∅ : PGParameters).insert "wal_level" walLevel)
  managedLogicalReplicationSlots :=
    some [{ name := "slot", database := "app", plugin := "pgoutput" }]

def sampleInitializing (walLevel : String) : ClusterData :=
  sampleChecked 1 0 [sampleInfo 1 "k1" none]
    (newClusterData (newCluster "cluster" (sampleLogicalSpec walLevel))).roundTrip

def sampleReadings : Readings where
  binaryVersion := some 16
  lastPGParameters := none

def sampleKeeperConfig : Keeper.Config where
  pgListenAddress := "10.0.0.1"
  pgPort := "5432"
  pgReplAuthMethod := "md5"
  pgReplUsername := "repluser"
  pgSUAuthMethod := "md5"
  pgSUUsername := "postgres"

def sampleWritten (db : DB) : PGParameters :=
  filteredPGParameters (createPGParameters sampleKeeperConfig sampleReadings none db)

def sampleMergedInfo (walLevel : String) : KeeperInfo :=
  sampleInfo 2 "k1" (some { sampleState "d" 1 with
    pgParameters := (sampleInitializing walLevel).dbs["d"]?.map sampleWritten })

theorem merged_spec_valid_sample
    : ∃ (s₂ s₄ : Sentinel) (observed newcd : ClusterData) (kihs : FinMap String KeeperInfoHistory),
        ({} : Sentinel).updateKeepersStatus 2 (sampleInitializing "logical")
            ((∅ : KeepersInfo).insert "k1" (sampleMergedInfo "logical")) false
          = .ok (s₂, observed, kihs)
          ∧
        ({} : Sentinel).updateCluster (.simplest 2 1) observed ∅ = .ok (s₄, newcd)
          ∧
        (∃ (db : DB), MergesParameters observed db)
          ∧
        newcd.cluster.spec.validate = .ok () := by
  have hvalid : (sampleInitializing "logical").cluster.spec.validate = .ok () := by decide +kernel
  have hstatus : (({} : Sentinel).updateKeepersStatus 2 (sampleInitializing "logical")
      ((∅ : KeepersInfo).insert "k1" (sampleMergedInfo "logical")) false).toOption.map
        (fun r => r.2.1.cluster.status.phase = .initializing
          && r.2.1.cluster.status.master = "d"
          && r.2.1.cluster.defSpec.mergePgParameters
          && r.2.1.dbs["d"]?.any (fun db =>
            db.status.healthy && db.status.currentGeneration = db.generation
              && db.status.pgParameters = some (sampleWritten db)
              && specParameter db "wal_level" = some "logical")
          && (({} : Sentinel).updateCluster (.simplest 2 1) r.2.1 ∅).toOption.map (fun _ => ())
            = some ())
      = some true := by
    decide +kernel
  obtain ⟨⟨s₂, observed, kihs⟩, hstatus, hobserved⟩ := Except.exists_ok_of_toOption_map hstatus
  simp only [Bool.and_eq_true, decide_eq_true_eq, Option.any_eq_true] at hobserved
  obtain ⟨⟨⟨⟨hphase, hmaster⟩, hmerge⟩, db, hdb, ⟨⟨hhealthy, hgeneration⟩, hwritten⟩, hlevel⟩,
    hupdate⟩ := hobserved
  obtain ⟨⟨s₄, newcd⟩, hupdate, -⟩ := Except.exists_ok_of_toOption_map hupdate
  rw [← hmaster] at hdb
  have honly (db' : DB) (hmerges : MergesParameters observed db') : db' = db := by
    have hsame := hmerges.master
    rw [hdb] at hsame
    exact (Option.some.inj hsame).symm
  refine ⟨s₂, s₄, observed, newcd, kihs, hstatus, hupdate,
    ⟨db, hphase, by rw [hmaster]; decide, hdb, ⟨hhealthy, hgeneration⟩, hmerge⟩, ?_⟩
  refine (merged_spec_valid_iff _ {} s₂ {} s₄ 2 _ observed newcd _ false kihs ∅ sampleKeeperConfig
    sampleReadings none hvalid hstatus hupdate ?_).mpr ?_
  . intro db' hmerges
    rw [honly db' hmerges]
    exact hwritten
  . intro db' hmerges
    rw [honly db' hmerges]
    exact ⟨fun _ => hlevel, fun henabled => absurd henabled (by decide +kernel)⟩

def sampleMerged (walLevel : String) : ClusterData :=
  sampleChecked 2 1 [sampleMergedInfo walLevel] (sampleInitializing walLevel)

/--
The validation accepts the WAL level `LOGICAL`, for which the keeper writes `replica`. Merging what
it reports leaves a cluster spec that the sentinels reject from then on.
-/
theorem merged_wal_level_rejected
    : (sampleLogicalSpec "LOGICAL").validate = .ok ()
        ∧
      commitSystem.Reachable (sampleInitializing "LOGICAL")
        ∧
      (sampleInitializing "LOGICAL").cluster.spec.validate = .ok ()
        ∧
      commitSystem.Reachable (sampleMerged "LOGICAL")
        ∧
      (sampleMerged "LOGICAL").cluster.spec.validate
        = .error ("managedLogicalReplicationSlots requires pgParameters.wal_level to be set to "
          ++ "\"logical\"")
        ∧
      ∀ (inp : CheckInput) (s : Sentinel),
        (s.clusterSentinelCheck inp (sampleMerged "LOGICAL")).2 = none := by
  have hreachable : commitSystem.Reachable (sampleInitializing "LOGICAL") :=
    reachable_sampleChecked (by decide +kernel)
      (.init ⟨"cluster", sampleLogicalSpec "LOGICAL", rfl⟩)
  have hinvalid : (sampleMerged "LOGICAL").cluster.spec.validate
      = .error ("managedLogicalReplicationSlots requires pgParameters.wal_level to be set to "
        ++ "\"logical\"") := by
    decide +kernel
  refine ⟨by decide +kernel, hreachable, by decide +kernel, ?_, hinvalid, ?_⟩
  . exact reachable_sampleChecked (by decide +kernel) hreachable
  . intro inp s
    by_contra hsome
    obtain ⟨cd', hcheck⟩ := Option.ne_none_iff_exists'.mp hsome
    have hvalid := (clusterSentinelCheck_cases hcheck).1
    rw [hinvalid] at hvalid
    cases hvalid

end Sample

end Sentinel
end Hysteron
