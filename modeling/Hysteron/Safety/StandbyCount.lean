import Hysteron.Safety.CheckRuns
import Hysteron.Safety.Followers
import Hysteron.Safety.SyncSet

/-!
How many standbys an update adds for a master that is healthy and has converged. It counts the
standbys that have not failed, which leaves out those that have not reported a generation yet, so
that it adds further ones while a standby is being initialized.
-/

namespace Hysteron
namespace Sentinel

variable {env : Env} {s s' : Sentinel} {now : Time} {cd cd' base newcd : ClusterData}
variable {pis : ProxiesInfo} {uid : String} {db db' masterDB : DB} {standbys : DBsByStatus}

section Count

def isNotFailedStandby (s : Sentinel) (now : Time) (cd : ClusterData) (uid : String) : Bool :=
  isValidOfType cd .replicaLine uid &&
    (s.dbStatus now cd uid = .ok .good || s.dbStatus now cd uid = .ok .converging)

def isInitializingStandby (s : Sentinel) (now : Time) (cd : ClusterData) (uid : String) : Bool :=
  match cd.dbs[uid]? with
  | none => false
  | some db =>
    db.spec.type = some .replicaLine && db.status.currentGeneration = noGeneration &&
      s.dbConvergenceState now db cd.cluster.defSpec.syncTimeout ≠ .convergenceFailed

def isLiveStandby (s : Sentinel) (now : Time) (cd : ClusterData) (uid : String) : Bool :=
  s.isNotFailedStandby now cd uid || s.isInitializingStandby now cd uid

def notFailedCount (s : Sentinel) (now : Time) (cd : ClusterData) : Nat :=
  FinMap.countKeys cd.dbs (s.isNotFailedStandby now cd)

def initializingCount (s : Sentinel) (now : Time) (cd : ClusterData) : Nat :=
  FinMap.countKeys cd.dbs (s.isInitializingStandby now cd)

def standbyCount (s : Sentinel) (now : Time) (cd : ClusterData) : Nat :=
  FinMap.countKeys cd.dbs (s.isLiveStandby now cd)

theorem isNotFailedStandby_eq_false_of_type (h : cd.dbs[uid]? = some db)
    (htype : db.spec.type ≠ some .replicaLine) : s.isNotFailedStandby now cd uid = false := by
  have hvalid : isValidOfType cd .replicaLine uid = false := by
    rw [← Bool.not_eq_true, isValidOfType_iff h]
    exact fun hvalid => htype hvalid.2
  rw [isNotFailedStandby, hvalid, Bool.false_and]

theorem GoodStandby.isNotFailedStandby (h : GoodStandby cd uid db)
    : s.isNotFailedStandby now cd uid = true := by
  have hvalid := (isValidOfType_iff h.known).mpr ⟨h.valid, h.replica⟩
  have hgood : s.dbStatus now cd uid = .ok .good :=
    (dbStatus_eq_good_iff h.known).mpr ⟨h.keeper, h.settled⟩
  simp [Sentinel.isNotFailedStandby, hvalid, hgood]

theorem isInitializingStandby_eq_false_of_type (h : cd.dbs[uid]? = some db)
    (htype : db.spec.type ≠ some .replicaLine) : s.isInitializingStandby now cd uid = false := by
  rw [isInitializingStandby, h]
  simp [htype]

theorem isLiveStandby_eq_false_of_type (h : cd.dbs[uid]? = some db)
    (htype : db.spec.type ≠ some .replicaLine) : s.isLiveStandby now cd uid = false := by
  rw [isLiveStandby, isNotFailedStandby_eq_false_of_type h htype,
    isInitializingStandby_eq_false_of_type h htype, Bool.false_or]

theorem standbyCount_eq
    : s.standbyCount now cd = s.notFailedCount now cd + s.initializingCount now cd := by
  apply FinMap.countKeys_or
  intro uid hmem hlive
  obtain ⟨db, hdb⟩ := Option.isSome_iff_exists.mp (Std.ExtTreeMap.mem_iff_isSome_getElem?.mp hmem)
  simp only [isNotFailedStandby, Bool.and_eq_true] at hlive
  obtain ⟨hvalid, -⟩ := (isValidOfType_iff hdb).mp hlive.1
  rw [isInitializingStandby, hdb]
  have hreports : db.status.currentGeneration ≠ noGeneration := by
    intro hnone
    rw [dbValidity, hdb] at hvalid
    simp [hnone] at hvalid
  simp [hreports]

theorem size_validStandbys (hkeyed : cd.Keyed) (h : s.validStandbysByStatus now cd = .ok standbys)
    : standbys.good.size + standbys.converging.size = s.notFailedCount now cd := by
  unfold validStandbysByStatus validDBsByStatus at h
  dsimp only at h
  split at h
  . cases h
  . cases h
    have hsize (status : DBStatusClass)
        : ((cd.dbs.filter (fun _ db => isValidOfType cd .replicaLine db.uid)).filter
            (fun _ db => s.dbStatus now cd db.uid = .ok status)).size
          = FinMap.countKeys cd.dbs (fun uid =>
            isValidOfType cd .replicaLine uid && decide (s.dbStatus now cd uid = .ok status)) := by
      apply FinMap.size_filter_filter
      . intro uid db hdb
        rw [hkeyed uid db hdb]
      . intro uid db hdb
        rw [hkeyed uid db hdb]
    rw [hsize, hsize, ← FinMap.countKeys_or]
    . apply FinMap.countKeys_congr
      intro uid
      simp only [isNotFailedStandby, Bool.and_or_distrib_left]
    . intro uid _ hgood
      simp only [Bool.and_eq_true, decide_eq_true_eq] at hgood
      simp [hgood.2]

end Count

section Judgement

def judged (db : DB) : DB := { db with status := reported db.status }

theorem spec_of_judged (h : judged db' = judged db) : db'.spec = db.spec :=
  congrArg (fun db => db.spec) h

structure SameJudgement (cd cd' : ClusterData) (uid : String) : Prop where
  defSpec : cd'.cluster.defSpec = cd.cluster.defSpec
  validity : dbValidity cd' uid = dbValidity cd uid
  db : (cd'.dbs[uid]?).map judged = (cd.dbs[uid]?).map judged
  keeper : ∀ (db : DB), cd.dbs[uid]? = some db →
    cd'.keepers[db.spec.keeperUID]? = cd.keepers[db.spec.keeperUID]?

namespace SameJudgement

theorem cases (h : SameJudgement cd cd' uid)
    : (cd.dbs[uid]? = none ∧ cd'.dbs[uid]? = none)
        ∨
      ∃ (db db' : DB),
        cd.dbs[uid]? = some db ∧ cd'.dbs[uid]? = some db' ∧ judged db' = judged db := by
  have hdb := h.db
  cases hold : cd.dbs[uid]? with
  | none =>
    rw [hold, Option.map_none, Option.map_eq_none_iff] at hdb
    exact .inl ⟨rfl, hdb⟩
  | some db =>
    rw [hold, Option.map_some, Option.map_eq_some_iff] at hdb
    obtain ⟨db', hdb', hjudged⟩ := hdb
    exact .inr ⟨db, db', rfl, hdb', hjudged⟩

theorem isValidOfType (h : SameJudgement cd cd' uid) (dt : DBType)
    : isValidOfType cd' dt uid = Hysteron.Sentinel.isValidOfType cd dt uid := by
  have htype : dbType cd' uid = dbType cd uid := by
    obtain ⟨hold, hnew⟩ | ⟨db, db', hold, hnew, hjudged⟩ := h.cases
    . rw [dbType, dbType, hold, hnew]
    . have hspec := spec_of_judged hjudged
      rw [dbType_of_getElem? hold, dbType_of_getElem? hnew, hspec]
  rw [Hysteron.Sentinel.isValidOfType, Hysteron.Sentinel.isValidOfType, h.validity, htype]

theorem dbConvergenceState (hverdicts : SameVerdicts now s s') (hjudged : judged db' = judged db)
    (timeout : Duration)
    : s'.dbConvergenceState now db' timeout = s.dbConvergenceState now db timeout := by
  have hstate (db : DB) : s'.dbConvergenceState now db timeout
      = s'.dbConvergenceState now (judged db) timeout := rfl
  rw [hstate, hjudged, ← hstate, hverdicts]

theorem dbStatus (h : SameJudgement cd cd' uid) (hverdicts : SameVerdicts now s s')
    : s'.dbStatus now cd' uid = s.dbStatus now cd uid := by
  obtain ⟨hold, hnew⟩ | ⟨db, db', hold, hnew, hjudged⟩ := h.cases
  . rw [Sentinel.dbStatus, Sentinel.dbStatus, hold, hnew]
  . have hkeeper : cd'.keepers[db'.spec.keeperUID]? = cd.keepers[db.spec.keeperUID]? := by
      rw [spec_of_judged hjudged]
      exact h.keeper db hold
    have hon (keeper : Keeper)
        : s'.dbStatusOn now cd' keeper db' = s.dbStatusOn now cd keeper db := by
      have htimeout : dbConvergenceTimeout cd' db' = dbConvergenceTimeout cd db := by
        have htimeout (db : DB)
            : dbConvergenceTimeout cd' db = dbConvergenceTimeout cd' (judged db) := rfl
        rw [htimeout, hjudged, ← htimeout, dbConvergenceTimeout, h.defSpec]
        rfl
      have hhealthy : db'.status.healthy = db.status.healthy :=
        congrArg (fun db => db.status.healthy) hjudged
      rw [dbStatusOn, dbStatusOn, htimeout, dbConvergenceState hverdicts hjudged, hhealthy]
    rw [Sentinel.dbStatus, Sentinel.dbStatus, hold, hnew]
    dsimp only
    rw [hkeeper]
    simp only [hon]

theorem isNotFailedStandby (h : SameJudgement cd cd' uid) (hverdicts : SameVerdicts now s s')
    : s'.isNotFailedStandby now cd' uid = s.isNotFailedStandby now cd uid := by
  rw [Sentinel.isNotFailedStandby, Sentinel.isNotFailedStandby, h.isValidOfType,
    h.dbStatus hverdicts]

theorem isInitializingStandby (h : SameJudgement cd cd' uid) (hverdicts : SameVerdicts now s s')
    : s'.isInitializingStandby now cd' uid = s.isInitializingStandby now cd uid := by
  rw [Sentinel.isInitializingStandby, Sentinel.isInitializingStandby]
  obtain ⟨hold, hnew⟩ | ⟨db, db', hold, hnew, hjudged⟩ := h.cases
  . rw [hold, hnew]
  . have hspec := spec_of_judged hjudged
    have hgeneration : db'.status.currentGeneration = db.status.currentGeneration :=
      congrArg (fun db => db.status.currentGeneration) hjudged
    rw [hold, hnew]
    dsimp only
    rw [dbConvergenceState hverdicts hjudged, hspec, hgeneration, h.defSpec]

theorem isLiveStandby (h : SameJudgement cd cd' uid) (hverdicts : SameVerdicts now s s')
    : s'.isLiveStandby now cd' uid = s.isLiveStandby now cd uid := by
  rw [Sentinel.isLiveStandby, Sentinel.isLiveStandby, h.isNotFailedStandby hverdicts,
    h.isInitializingStandby hverdicts]

end SameJudgement

end Judgement

section Resize

def standing (s : Sentinel) (now : Time) (cd : ClusterData) : ClusterData :=
  s.removeUnusableDBs cd (removeOldKeepers now cd) cd.cluster.status.master

def maxStandbys (cd : ClusterData) : Nat := cd.cluster.defSpec.maxStandbysPerSender.toNat

def missingStandbys (env : Env) (s : Sentinel) (cd : ClusterData) : List Keeper :=
  (freeKeepers env (s.standing env.now cd)).take
    (maxStandbys cd - s.notFailedCount env.now (s.standing env.now cd))

def UpToDate (cd : ClusterData) (db : DB) : Prop :=
  dbSpecFromClusterSpec cd.cluster.defSpec (.ok .replicaLine)
    (followerOf cd.cluster.status.master db).spec = db.spec

structure Resized (env : Env) (s : Sentinel) (cd newcd : ClusterData) (masterDB : DB) : Prop where
  keepers : newcd.keepers = (removeOldKeepers env.now cd).keepers
  defSpec : newcd.cluster.defSpec = cd.cluster.defSpec
  masterDB : ∃ (masterDB' : DB),
    newcd.dbs[cd.cluster.status.master]? = some masterDB'
      ∧
    masterDB'.spec.type = some .primaryLine
      ∧
    reported masterDB'.status = reported masterDB.status
  created : ∀ (uid : String), (uid ∈ newcd.dbs ∧ uid ∉ cd.dbs) ↔
    ∃ n < (missingStandbys env s cd).length, uid = env.uidFn n
  placed : ∀ (uid : String) (db : DB), newcd.dbs[uid]? = some db → uid ∉ cd.dbs →
    ∃ keeper ∈ freeKeepers env (s.standing env.now cd), db.spec.keeperUID = keeper.uid
  kept : ∀ (uid : String) (db' : DB), newcd.dbs[uid]? = some db' → uid ∈ cd.dbs →
    uid ≠ cd.cluster.status.master →
      ∃ (db : DB),
        (s.standing env.now cd).dbs[uid]? = some db
          ∧
        (s.isNotFailedStandby env.now (s.standing env.now cd) uid = false → UpToDate cd db →
          judged db' = judged db)

theorem sameJudgement_standing (h : cd.Assigned)
    (hmaster : cd.dbs[cd.cluster.status.master]? = some masterDB)
    (hdb : (s.standing now cd).dbs[uid]? = some db)
    : SameJudgement cd (s.standing now cd) uid := by
  have hcd : cd.dbs[uid]? = some db := getElem?_removeUnusableDBs hdb
  have hstays : (s.standing now cd).dbs[cd.cluster.status.master]?
      = cd.dbs[cd.cluster.status.master]? :=
    getElem?_removeUnusableDBs_master h.keyed hmaster (h.keyed _ masterDB hmaster)
  constructor
  case defSpec => rfl
  case validity =>
    refine dbValidity_congr rfl ?_
    rintro uid' (rfl | rfl)
    . rw [hdb, hcd]
    . rw [hstays]
  case db => rw [hdb, hcd]
  case keeper =>
    intro db hdb
    exact getElem?_removeOldKeepers h hdb now

theorem reported_setupSynchronousStandbys (good : FinMap String DB) (best : List DB)
    : reported (setupSynchronousStandbys env cd good best masterDB).status
        =
      reported masterDB.status := by
  have hmerge : reported (mergeReportedStandbys cd good masterDB).status
      = reported masterDB.status := by
    unfold mergeReportedStandbys
    dsimp only
    split
    . rfl
    . split <;> rfl
  unfold setupSynchronousStandbys
  dsimp only
  split
  . split
    . exact hmerge
    . exact hmerge
  . rfl

theorem mem_resizeStandbys_created (hfresh : env.Fresh cd.dbs)
    (hknown : ∀ uid ∈ newcd.dbs, uid ∈ cd.dbs) (masterDBUID : String)
    : (uid ∈ (resizeStandbys env masterDBUID standbys newcd).dbs ∧ uid ∉ cd.dbs)
        ↔
      ∃ n < ((freeKeepers env newcd).take
          (maxStandbys newcd - (standbys.good.size + standbys.converging.size))).length,
        uid = env.uidFn n := by
  unfold resizeStandbys
  dsimp only
  split
  . next hmany =>
    -- There is no room for others, so that nothing is missing.
    have hnone : maxStandbys newcd - (standbys.good.size + standbys.converging.size) = 0 := by
      unfold maxStandbys
      omega
    rw [hnone]
    simp only [List.take_zero, List.length_nil, Nat.not_lt_zero, false_and, exists_false, iff_false]
    rintro ⟨hmem, hnew⟩
    exact hnew (hknown uid (Std.ExtTreeMap.mem_of_mem_filter hmem))
  . simp only [addMissingStandbys, mem_addStandbysOn_iff, Nat.zero_add]
    constructor
    . rintro ⟨hmem | hadded, hnew⟩
      . exact absurd (hknown uid hmem) hnew
      . exact hadded
    . rintro ⟨n, hn, rfl⟩
      exact ⟨.inr ⟨n, hn, rfl⟩, hfresh.not_mem n⟩

section Confirm

variable (h : cd.Sound) (hbase : Base now cd base)
variable (hmaster : cd.dbs[cd.cluster.status.master]? = some masterDB)

include h hbase hmaster

theorem sameJudgement_confirmMaster (s : Sentinel) (pis : ProxiesInfo)
    (hne : uid ≠ cd.cluster.status.master)
    : SameJudgement (s.standing now cd)
        (s.removeUnusableDBs cd (confirmMaster base cd.cluster.status.master masterDB pis)
          cd.cluster.status.master) uid where
  defSpec := by
    have hspec : base.cluster.defSpec = cd.cluster.defSpec := by
      unfold Cluster.defSpec
      rw [hbase.spec]
    exact hspec
  validity := dbValidity_removeUnusableDBs_confirmMaster h.assigned hbase hmaster s pis hne
  db := congrArg (Option.map judged)
    (getElem?_removeUnusableDBs_confirmMaster h.assigned hbase hmaster s pis hne)
  keeper _ _ := congrArg (fun keepers => keepers[_]?) hbase.keepers

theorem getElem?_standing_confirmMaster (hphase : cd.cluster.status.phase = .normal) (s : Sentinel)
    (pis : ProxiesInfo)
    : ∃ (confirmed : DB),
        (s.removeUnusableDBs cd (confirmMaster base cd.cluster.status.master masterDB pis)
            cd.cluster.status.master).dbs[cd.cluster.status.master]? = some confirmed
          ∧
        confirmed.spec.type = some .primaryLine
          ∧
        confirmed.status = masterDB.status
          ∧
        confirmed.spec.keeperUID = masterDB.spec.keeperUID := by
  have hbaseMaster : base.dbs[cd.cluster.status.master]? = some masterDB := hbase.dbs ▸ hmaster
  have hconfirm
      : ∃ (confirmed : DB),
        (confirmMaster base cd.cluster.status.master masterDB pis).dbs[cd.cluster.status.master]?
          = some confirmed
          ∧
        confirmed.spec.type = some .primaryLine
          ∧
        (confirmMaster base cd.cluster.status.master masterDB pis).Sound :=
    sound_confirmMaster h hphase hbase hbaseMaster
  obtain ⟨confirmed, hconfirmed, hline, hsound⟩ := hconfirm
  refine ⟨confirmed, ?_, hline, ?_⟩
  . rw [getElem?_removeUnusableDBs_master hsound.assigned.keyed hmaster
      (h.assigned.keyed _ masterDB hmaster)]
    exact hconfirmed
  . rw [getElem?_confirmMaster, if_pos rfl, Option.some.injEq] at hconfirmed
    subst hconfirmed
    unfold confirmMasterRole
    split <;> exact ⟨rfl, rfl⟩

theorem notFailedCount_confirmMaster (hphase : cd.cluster.status.phase = .normal)
    (hverdicts : SameVerdicts now s s') (pis : ProxiesInfo)
    : s'.notFailedCount now (s.removeUnusableDBs cd
          (confirmMaster base cd.cluster.status.master masterDB pis) cd.cluster.status.master)
        =
      s.notFailedCount now (s.standing now cd) := by
  apply FinMap.countKeys_congr
  intro uid
  by_cases hne : uid = cd.cluster.status.master
  . -- The master is of the primary line in both.
    subst hne
    obtain ⟨confirmed, hconfirmed, hline, -⟩ :=
      getElem?_standing_confirmMaster h hbase hmaster hphase s pis
    have hstanding : (s.standing now cd).dbs[cd.cluster.status.master]? = some masterDB :=
      (getElem?_removeUnusableDBs_master h.assigned.keyed hmaster
        (h.assigned.keyed _ masterDB hmaster)).trans hmaster
    rw [isNotFailedStandby_eq_false_of_type hconfirmed (by simp [hline]),
      isNotFailedStandby_eq_false_of_type hstanding (by simp [h.type_master hmaster])]
    simp
  . have hlookup := getElem?_removeUnusableDBs_confirmMaster h.assigned hbase hmaster s pis hne
    have hjudgement := sameJudgement_confirmMaster h hbase hmaster s pis hne
    rw [hjudgement.isNotFailedStandby hverdicts, Std.ExtTreeMap.mem_iff_isSome_getElem?, hlookup,
      Std.ExtTreeMap.mem_iff_isSome_getElem?]
    rfl

theorem freeKeepers_confirmMaster (env : Env) (good : FinMap String DB) (best : List DB)
    (hphase : cd.cluster.status.phase = .normal) (s : Sentinel) (pis : ProxiesInfo)
    : freeKeepers env (updateSynchronousStandbys env good best cd.cluster.status.master
          (cleanInitMode good (s.removeUnusableDBs cd
            (confirmMaster base cd.cluster.status.master masterDB pis) cd.cluster.status.master)))
        =
      freeKeepers env (s.standing now cd) := by
  refine freeKeepers_congr hbase.keepers ?_
  intro uid
  have hclean (cd : ClusterData)
      : ((cleanInitMode good cd).dbs[uid]?).map (fun db => db.spec.keeperUID)
        = (cd.dbs[uid]?).map (fun db => db.spec.keeperUID) := by
    rw [getElem?_cleanInitMode, Option.map_map]
    congr 1
    funext db
    rw [Function.comp_apply]
    split <;> rfl
  rw [getElem?_updateSynchronousStandbys]
  split
  . next heq =>
    subst heq
    obtain ⟨confirmed, hconfirmed, -, -, hkeeper⟩ :=
      getElem?_standing_confirmMaster h hbase hmaster hphase s pis
    have hstanding : (s.standing now cd).dbs[cd.cluster.status.master]? = some masterDB :=
      (getElem?_removeUnusableDBs_master h.assigned.keyed hmaster
        (h.assigned.keyed _ masterDB hmaster)).trans hmaster
    have hsetup (cd : ClusterData) (db : DB)
        : (setupSynchronousStandbys env cd good best db).spec.keeperUID = db.spec.keeperUID :=
      (setupSynchronousStandbys_same good best).keeperUID
    rw [Option.map_map]
    simp only [Function.comp_def, hsetup]
    rw [hclean, hconfirmed, hstanding, Option.map_some, Option.map_some, hkeeper]
  . next hne =>
    rw [hclean, getElem?_removeUnusableDBs_confirmMaster h.assigned hbase hmaster s pis hne]
    rfl

end Confirm

theorem stored_standby {resized followed : ClusterData} {masterDBUID : String}
    (hkeyed : resized.Keyed) (hne : uid ≠ masterDBUID)
    (hfollow : updateFollowers (followMaster masterDBUID resized) masterDBUID masterDBUID
      = .ok followed)
    (hfinish : finishUpdate now cd followed = .ok newcd) (hdb : newcd.dbs[uid]? = some db')
    : ∃ (db followedDB : DB) (orphans : Option (FinMap String Time)),
        resized.dbs[uid]? = some db
          ∧
        followedDB
          = (if db.spec.type = some .replicaLine then followerOf masterDBUID db else db)
          ∧
        followed.dbs[uid]? = some followedDB
          ∧
        db' = {
          uid := followedDB.uid
          generation := finishGeneration cd followed uid followedDB
          spec := finishSpec followed followedDB
          status := { followedDB.status with orphanMemberSlots := orphans }
        } := by
  obtain ⟨orphans, hfinished⟩ := (finishUpdate_finished hfinish).getElem?_dbs uid
  rw [hfinished, Option.map_eq_some_iff] at hdb
  obtain ⟨followedDB, hfollowed, rfl⟩ := hdb
  obtain ⟨masterDB, -, hdbs⟩ := updateFollowers_spec hfollow
  have hmid := hdbs uid
  rw [if_neg hne, getElem?_followMaster hkeyed, hfollowed, eq_comm, Option.map_eq_some_iff] at hmid
  obtain ⟨db, hdb, heq⟩ := hmid
  exact ⟨db, followedDB, orphans, hdb, heq.symm, hfollowed, rfl⟩

theorem stored_master {mid followed : ClusterData} {masterDBUID : String}
    (hmaster : mid.dbs[masterDBUID]? = some masterDB)
    (hfollow : updateFollowers mid masterDBUID masterDBUID = .ok followed)
    (hfinish : finishUpdate now cd followed = .ok newcd)
    : ∃ (masterDB' : DB),
        newcd.dbs[masterDBUID]? = some masterDB'
          ∧
        masterDB'.spec.type = masterDB.spec.type
          ∧
        reported masterDB'.status = reported masterDB.status := by
  obtain ⟨orphans, hfinished⟩ := (finishUpdate_finished hfinish).getElem?_dbs masterDBUID
  obtain ⟨masterDB, hmaster', hdbs⟩ := updateFollowers_spec hfollow
  rw [hmaster] at hmaster'
  cases hmaster'
  rw [hdbs, if_pos rfl, Option.map_some] at hfinished
  exact ⟨_, hfinished, (type_dbSpecFromClusterSpec _ _ _).trans rfl, rfl⟩

theorem judged_stored_of_upToDate {followed : ClusterData} {orphans : Option (FinMap String Time)}
    (hkeyed : cd.Keyed) (hspec : followed.cluster.defSpec = cd.cluster.defSpec)
    (hdb : cd.dbs[uid]? = some db)
    (hfollowed : followed.dbs[uid]? = some (followerOf cd.cluster.status.master db))
    (huptodate : UpToDate cd db)
    : judged {
          uid := db.uid
          generation := finishGeneration cd followed uid (followerOf cd.cluster.status.master db)
          spec := finishSpec followed (followerOf cd.cluster.status.master db)
          status := { db.status with orphanMemberSlots := orphans }
        }
        =
      judged db := by
  have huid : (followerOf cd.cluster.status.master db).uid = uid := hkeyed uid db hdb
  have hsame : finishSpec followed (followerOf cd.cluster.status.master db) = db.spec := by
    rw [finishSpec, hspec, huid, dbType_of_getElem? hfollowed]
    exact huptodate
  have hgeneration : finishGeneration cd followed uid (followerOf cd.cluster.status.master db)
      = db.generation := by
    rw [finishGeneration, hdb]
    simp only [hsame, ne_eq, not_true_eq_false, ↓reduceIte]
    rfl
  rw [hsame, hgeneration]
  rfl

theorem updateCluster_resized (h : cd.Sound) (hfresh : env.Fresh cd.dbs)
    (hphase : cd.cluster.status.phase = .normal)
    (hpause : cd.cluster.status.pauseActive env.now = false)
    (hmaster : cd.dbs[cd.cluster.status.master]? = some masterDB) (hsettled : Settled masterDB)
    (hkept : newcd.cluster.status.master = cd.cluster.status.master)
    (hrun : s.updateCluster env cd pis = .ok (s', newcd))
    : Resized env s cd newcd masterDB := by
  obtain ⟨election, base, mid, followed, s₁, helect, hbase, hreconcile, hfollow, hfinish⟩ :=
    updateCluster_settled hphase hpause hmaster hsettled hkept hrun
  have hspec : base.cluster.defSpec = cd.cluster.defSpec := by
    unfold Cluster.defSpec
    rw [hbase.spec]
  have hkeepers : newcd.keepers = base.keepers := by
    have hmid := reconcileStandbys_keepers hreconcile
    obtain ⟨_, _, -, rfl⟩ := updateFollowers_cases hfollow
    rw [(finishUpdate_finished hfinish).keepers]
    exact hmid
  have hfollowedSpec : followed.cluster.defSpec = cd.cluster.defSpec := by
    rw [updateFollowers_cluster hfollow, reconcileStandbys_cluster hreconcile]
    exact hspec
  simp only [reconcileStandbys, Except.bind_eq_ok_iff, Except.pure_eq_ok, Except.ok.injEq,
    Prod.mk.injEq] at hreconcile
  obtain ⟨standbys, hstandbys, best, -, -, rfl⟩ := hreconcile
  have hcount := (unaffected_dbNotIncreasingXLogPos.unaffectedAt _).elect helect
  rw [removeUnusableDBs_congr hcount] at hstandbys hfollow
  rw [← reconciledStandbys] at hfollow
  have hverdicts : SameVerdicts env.now s election.sentinel := fun db timeout =>
    (congrFun (congrFun ((unaffectedAt_dbConvergenceState env.now).elect helect) db) timeout).symm
  have hkeyed : (s.removeUnusableDBs cd (confirmMaster base cd.cluster.status.master masterDB pis)
      cd.cluster.status.master).Keyed :=
    keyed_removeUnusableDBs (keyed_confirmMaster h.assigned hbase hmaster pis)
  obtain ⟨confirmed, hconfirmed, hline, hstatus, -⟩ :=
    getElem?_standing_confirmMaster h hbase hmaster hphase s pis
  have hsize := (size_validStandbys hkeyed hstandbys).trans
    (notFailedCount_confirmMaster h hbase hmaster hphase hverdicts pis)
  have hfree := freeKeepers_confirmMaster h hbase hmaster env standbys.good best hphase s pis
  have hne := fun n => hfresh.ne_of_getElem? hmaster n
  have hmem := (stored_reconciledStandbys hkeyed hstandbys hne hconfirmed hline hfollow hfinish).2
  -- The databases before the resizing are known ones.
  have hknown (uid : String) (hmem : uid ∈ (updateSynchronousStandbys env standbys.good best
      cd.cluster.status.master (cleanInitMode standbys.good (s.removeUnusableDBs cd
        (confirmMaster base cd.cluster.status.master masterDB pis)
        cd.cluster.status.master))).dbs) : uid ∈ cd.dbs := by
    simp only [updateSynchronousStandbys, cleanInitMode, Std.ExtTreeMap.mem_modify,
      Std.ExtTreeMap.mem_map] at hmem
    obtain ⟨db, hdb⟩ :=
      Option.isSome_iff_exists.mp (Std.ExtTreeMap.mem_iff_isSome_getElem?.mp hmem)
    have hdb := getElem?_removeUnusableDBs hdb
    rw [getElem?_confirmMaster] at hdb
    rw [Std.ExtTreeMap.mem_iff_isSome_getElem?]
    split at hdb
    . next heq => rw [heq, hmaster]; rfl
    . rw [← hbase.dbs, hdb]; rfl
  constructor
  case keepers => rw [hkeepers, hbase.keepers]
  case defSpec => rw [finishUpdate_cluster hfinish, hfollowedSpec]
  case masterDB =>
    obtain ⟨masterDB', hmaster', htype, hreported⟩ := stored_master
      (getElem?_followMaster_master hkeyed hstandbys hne hconfirmed hline) hfollow hfinish
    refine ⟨masterDB', hmaster', ?_, ?_⟩
    . rw [htype, (setupSynchronousStandbys_same _ _).type]
      exact hline
    . rw [hreported, reported_setupSynchronousStandbys, hstatus]
  case created =>
    intro uid
    rw [hmem, reconciledStandbys, mem_resizeStandbys_created hfresh hknown, hfree, hsize,
      missingStandbys]
    unfold maxStandbys
    rw [← hspec]
    rfl
  case placed =>
    intro uid db hdb hnew
    have huid : uid ≠ cd.cluster.status.master := by
      rintro rfl
      exact hnew (Std.ExtTreeMap.mem_iff_isSome_getElem?.mpr (Option.isSome_of_eq_some hmaster))
    obtain ⟨resized, followedDB, orphans, hresized, rfl, -, rfl⟩ :=
      stored_standby (keyed_reconciledStandbys hkeyed) huid hfollow hfinish hdb
    obtain hold | ⟨n, keeper, hkeeper, -, rfl⟩ := getElem?_resizeStandbys hresized
    . exact absurd (hknown uid (Std.ExtTreeMap.mem_iff_isSome_getElem?.mpr
        (Option.isSome_of_eq_some hold))) hnew
    . rw [hfree] at hkeeper
      refine ⟨keeper, hkeeper, ?_⟩
      simp only [finishSpec, dbSpecFromClusterSpec_keeps]
      rfl
  case kept =>
    intro uid db' hdb' hold huid
    obtain ⟨resized, followedDB, orphans, hresized, heq, hfollowed, rfl⟩ :=
      stored_standby (keyed_reconciledStandbys hkeyed) huid hfollow hfinish hdb'
    obtain hresized | ⟨n, -, -, rfl, -⟩ := getElem?_resizeStandbys hresized
    . rw [getElem?_updateSynchronousStandbys, if_neg huid, getElem?_cleanInitMode,
        Option.map_eq_some_iff] at hresized
      obtain ⟨db, hdb, hclean⟩ := hresized
      have hlookup := getElem?_removeUnusableDBs_confirmMaster h.assigned hbase hmaster s pis huid
      have hstanding : (s.standing env.now cd).dbs[uid]? = some db := hlookup.symm.trans hdb
      refine ⟨db, hstanding, ?_⟩
      intro hfailed huptodate
      have hcd : cd.dbs[uid]? = some db := getElem?_removeUnusableDBs hstanding
      have hreplica : db.spec.type = some .replicaLine := by
        have htyped := h.assigned.typed uid db hcd
        have hline := type_removeUnusableDBs h.assigned.keyed hstanding huid
        cases htype : db.spec.type with
        | none =>
          rw [htype] at htyped
          cases htyped
        | some type =>
          cases type with
          | replicaLine => rfl
          | primaryLine => exact absurd htype hline
      -- A good standby is counted, so that the init mode of this one is left alone.
      have hungood : standbys.good.contains uid = false := by
        rw [← Bool.not_eq_true, Std.ExtTreeMap.contains_iff_mem, mem_good_iff hkeyed hstandbys]
        rintro ⟨db, hgood⟩
        have hcounted : s.isNotFailedStandby env.now (s.standing env.now cd) uid = true := by
          rw [← (sameJudgement_confirmMaster h hbase hmaster s pis huid).isNotFailedStandby
            hverdicts]
          exact hgood.isNotFailedStandby
        rw [hfailed] at hcounted
        cases hcounted
      rw [hungood] at hclean
      simp only [Bool.false_eq_true, ↓reduceIte] at hclean
      subst hclean
      rw [if_pos hreplica] at heq
      subst heq
      exact judged_stored_of_upToDate h.assigned.keyed hfollowedSpec hcd hfollowed huptodate
    . exact absurd hold (hfresh.not_mem n)

end Resize

section Limit

def createdCount (cd newcd : ClusterData) : Nat :=
  FinMap.countKeys newcd.dbs (fun uid => !cd.dbs.contains uid)

/--
Standbys are added as long as there is room and a free keeper. They leave room for those that are
still initializing.
-/
def LeavesRoom (env : Env) (s : Sentinel) (cd : ClusterData) : Prop :=
  let room := maxStandbys cd - s.notFailedCount env.now (s.standing env.now cd)
  let added := min room (freeKeepers env (s.standing env.now cd)).length
  added = 0 ∨ s.initializingCount env.now (s.standing env.now cd) + added ≤ room

def OthersUpToDate (env : Env) (s : Sentinel) (cd : ClusterData) : Prop :=
  ∀ (uid : String) (db : DB), (s.standing env.now cd).dbs[uid]? = some db →
    uid ≠ cd.cluster.status.master → s.isLiveStandby env.now (s.standing env.now cd) uid = false →
      UpToDate cd db

namespace Resized

theorem createdCount_eq (h : Resized env s cd newcd masterDB) (hfresh : env.Fresh cd.dbs)
    : createdCount cd newcd = (missingStandbys env s cd).length := by
  have hnodup : ((List.range (missingStandbys env s cd).length).map env.uidFn).Nodup :=
    List.nodup_range.map hfresh.injective
  rw [createdCount, FinMap.countKeys_eq_length hnodup]
  . rw [List.length_map, List.length_range]
  . intro uid
    rw [Bool.not_eq_true', ← Bool.not_eq_true, Std.ExtTreeMap.contains_iff_mem, h.created,
      List.mem_map]
    constructor
    . rintro ⟨n, hn, rfl⟩
      exact ⟨n, List.mem_range.mpr hn, rfl⟩
    . rintro ⟨n, hn, rfl⟩
      exact ⟨n, List.mem_range.mp hn, rfl⟩

theorem sameJudgement (h : Resized env s cd newcd masterDB) (hassigned : cd.Assigned)
    (hmaster : cd.dbs[cd.cluster.status.master]? = some masterDB)
    (hkept : newcd.cluster.status.master = cd.cluster.status.master)
    (hstanding : (s.standing env.now cd).dbs[uid]? = some db) (hdb : newcd.dbs[uid]? = some db')
    (hjudged : judged db' = judged db) : SameJudgement (s.standing env.now cd) newcd uid := by
  obtain ⟨masterDB', hmaster', -, hreported⟩ := h.masterDB
  have hstays : (s.standing env.now cd).dbs[cd.cluster.status.master]? = some masterDB :=
    (getElem?_removeUnusableDBs_master hassigned.keyed hmaster
      (hassigned.keyed _ masterDB hmaster)).trans hmaster
  constructor
  case defSpec => exact h.defSpec
  case validity =>
    refine dbValidity_congr_reported hkept ?_
    rintro uid' (rfl | rfl)
    . rw [hdb, hstanding, Option.map_some, Option.map_some]
      exact congrArg (fun db => some db.status) hjudged
    . have hlookup : (s.standing env.now cd).dbs[(s.standing env.now cd).cluster.status.master]?
          = some masterDB := hstays
      have hlookup' : newcd.dbs[(s.standing env.now cd).cluster.status.master]? = some masterDB' :=
        hmaster'
      rw [hlookup, hlookup', Option.map_some, Option.map_some, hreported]
  case db => rw [hdb, hstanding, Option.map_some, Option.map_some, hjudged]
  case keeper =>
    intro db _
    rw [h.keepers]
    rfl

theorem standbyCount_le (h : Resized env s cd newcd masterDB) (hfresh : env.Fresh cd.dbs)
    (hassigned : cd.Assigned) (hmaster : cd.dbs[cd.cluster.status.master]? = some masterDB)
    (hkept : newcd.cluster.status.master = cd.cluster.status.master)
    (hverdicts : SameVerdicts env.now s s') (huptodate : OthersUpToDate env s cd)
    : s'.standbyCount env.now newcd
        ≤
      s.standbyCount env.now (s.standing env.now cd) + createdCount cd newcd := by
  have hbound : s'.standbyCount env.now newcd
      ≤ s.standbyCount env.now (s.standing env.now cd)
        + ((List.range (missingStandbys env s cd).length).map env.uidFn).length := by
    apply FinMap.countKeys_le_add
    intro uid hmem hlive
    by_cases hold : uid ∈ cd.dbs
    . left
      obtain ⟨db', hdb'⟩ :=
        Option.isSome_iff_exists.mp (Std.ExtTreeMap.mem_iff_isSome_getElem?.mp hmem)
      have hne : uid ≠ cd.cluster.status.master := by
        rintro rfl
        obtain ⟨masterDB', hmaster', hline, -⟩ := h.masterDB
        rw [isLiveStandby_eq_false_of_type hmaster' (by simp [hline])] at hlive
        cases hlive
      obtain ⟨db, hstanding, hjudged⟩ := h.kept uid db' hdb' hold hne
      refine ⟨Std.ExtTreeMap.mem_iff_isSome_getElem?.mpr (Option.isSome_of_eq_some hstanding), ?_⟩
      rw [← Bool.not_eq_false]
      intro hdead
      have hfailed : s.isNotFailedStandby env.now (s.standing env.now cd) uid = false := by
        simp only [isLiveStandby, Bool.or_eq_false_iff] at hdead
        exact hdead.1
      have hjudged := hjudged hfailed (huptodate uid db hstanding hne hdead)
      rw [(h.sameJudgement hassigned hmaster hkept hstanding hdb' hjudged).isLiveStandby hverdicts,
        hdead] at hlive
      cases hlive
    . right
      obtain ⟨n, hn, rfl⟩ := (h.created uid).mp ⟨hmem, hold⟩
      exact List.mem_map_of_mem (List.mem_range.mpr hn)
  rw [List.length_map, List.length_range, ← h.createdCount_eq hfresh] at hbound
  exact hbound

end Resized

theorem standbyCount_standing_le (hassigned : cd.Assigned)
    (hmaster : cd.dbs[cd.cluster.status.master]? = some masterDB)
    : s.standbyCount now (s.standing now cd) ≤ s.standbyCount now cd := by
  apply FinMap.countKeys_le
  intro uid hmem hlive
  obtain ⟨db, hdb⟩ := Option.isSome_iff_exists.mp (Std.ExtTreeMap.mem_iff_isSome_getElem?.mp hmem)
  have hcd : cd.dbs[uid]? = some db := getElem?_removeUnusableDBs hdb
  refine ⟨Std.ExtTreeMap.mem_iff_isSome_getElem?.mpr (Option.isSome_of_eq_some hcd), ?_⟩
  rw [← (sameJudgement_standing hassigned hmaster hdb).isLiveStandby (fun _ _ => rfl)]
  exact hlive

theorem created_within_limit_iff (h : Resized env s cd newcd masterDB) (hfresh : env.Fresh cd.dbs)
    : (createdCount cd newcd = 0
          ∨
        s.standbyCount env.now (s.standing env.now cd) + createdCount cd newcd ≤ maxStandbys cd)
        ↔
      LeavesRoom env s cd := by
  rw [h.createdCount_eq hfresh, standbyCount_eq, LeavesRoom, missingStandbys, List.length_take]
  omega

/--
In an update of the normal phase whose master is healthy, has converged and stays: standbys are
created only within `maxStandbysPerSender` exactly if the cluster is paused or the standbys that the
update misses leave room for those that are still initializing. Then the number of standbys that
are good, converging or initializing does not grow beyond the limit, as long as the update changes
the spec of no other standby. A new standby is always placed on a healthy keeper of its own, on
which the update leaves no database.
-/
theorem standbys_created_within_limit_iff (env : Env) (s s' : Sentinel) (cd newcd : ClusterData)
    (pis : ProxiesInfo) (masterDB : DB) (hreach : clusterDataSystem.Reachable cd)
    (hfresh : env.Fresh cd.dbs) (hphase : cd.cluster.status.phase = .normal)
    (hmaster : cd.dbs[cd.cluster.status.master]? = some masterDB) (hsettled : Settled masterDB)
    (hkept : newcd.cluster.status.master = cd.cluster.status.master)
    (h : s.updateCluster env cd pis = .ok (s', newcd))
    : ((createdCount cd newcd = 0
          ∨
        s.standbyCount env.now (s.standing env.now cd) + createdCount cd newcd ≤ maxStandbys cd)
        ↔
      (cd.cluster.status.pauseActive env.now = true ∨ LeavesRoom env s cd))
        ∧
      (cd.cluster.status.pauseActive env.now = true ∨ LeavesRoom env s cd →
        OthersUpToDate env s cd →
          s'.standbyCount env.now newcd ≤ max (maxStandbys cd) (s.standbyCount env.now cd))
        ∧
      ∀ (uid : String) (db : DB), newcd.dbs[uid]? = some db → uid ∉ cd.dbs →
        (∃ (keeper : Keeper),
          cd.keepers[db.spec.keeperUID]? = some keeper ∧ keeper.status.healthy = true)
          ∧
        (∀ (uid' : String) (db' : DB), (s.standing env.now cd).dbs[uid']? = some db' →
          db'.spec.keeperUID ≠ db.spec.keeperUID)
          ∧
        (∀ (uid' : String) (db' : DB), newcd.dbs[uid']? = some db' → uid' ≠ uid →
          db'.spec.keeperUID ≠ db.spec.keeperUID) := by
  have hsound := sound_inductive.of_reachable hreach
  cases hpause : cd.cluster.status.pauseActive env.now with
  | true =>
    simp only [updateCluster, hphase, hpause, ↓reduceIte] at h
    cases h
    have hnone : createdCount cd cd = 0 := by
      apply FinMap.countKeys_eq_length List.nodup_nil
      intro uid
      simp
    refine ⟨by simp [hnone], fun _ _ => Nat.le_max_right _ _, ?_⟩
    intro uid db hdb hnew
    exact absurd (Std.ExtTreeMap.mem_iff_isSome_getElem?.mpr (Option.isSome_of_eq_some hdb)) hnew
  | false =>
    have hresized := updateCluster_resized hsound hfresh hphase hpause hmaster hsettled hkept h
    have hverdicts : SameVerdicts env.now s s' := fun db timeout =>
      (congrFun (congrFun ((unaffectedAt_dbConvergenceState env.now).updateCluster h) db)
        timeout).symm
    simp only [Bool.false_eq_true, false_or]
    refine ⟨created_within_limit_iff hresized hfresh, ?_, ?_⟩
    . intro hroom huptodate
      have hlimit := (created_within_limit_iff hresized hfresh).mpr hroom
      have hafter := hresized.standbyCount_le hfresh hsound.assigned hmaster hkept hverdicts
        huptodate
      have hbefore : s.standbyCount env.now (s.standing env.now cd) ≤ s.standbyCount env.now cd :=
        standbyCount_standing_le hsound.assigned hmaster
      omega
    . intro uid db hdb hnew
      obtain ⟨keeper, hfree, hkeeperUID⟩ := hresized.placed uid db hdb hnew
      obtain ⟨⟨key, hkeeper⟩, hhealthy, hunused⟩ := mem_freeKeepers_iff.mp hfree
      have hregistered : cd.keepers[key]? = some keeper :=
        ((FinMap.getElem?_filter_eq_some _ _ _ _).mp hkeeper).1
      refine ⟨⟨keeper, ?_, hhealthy⟩, ?_, ?_⟩
      . rw [hkeeperUID, hsound.assigned.keeperKeyed key keeper hregistered]
        exact hregistered
      . rw [hkeeperUID]
        exact hunused
      . intro uid' db' hdb' hne heq
        exact hne ((sound_updateCluster hsound hfresh h).assigned.exclusive uid' uid db' db hdb' hdb
          heq)

end Limit

section Sample

/--
A cluster of three keepers with one standby per sender. The standby `dd` is created by the third
check and has not reported at the next one.
-/
def sampleBackup (n : Nat) : CheckInput :=
  match n with
  | 0 => sampleCheck 1 0 [sampleInfo 1 "k1" none, sampleInfo 1 "k2" none, sampleInfo 1 "k3" none]
  | 1 => sampleCheck 2 1 [sampleInfo 2 "k1" (some (sampleState "d" 1)), sampleInfo 2 "k2" none,
      sampleInfo 2 "k3" none]
  | 2 => sampleCheck 3 1 [sampleInfo 3 "k1" (some (sampleState "d" 2)), sampleInfo 3 "k2" none,
      sampleInfo 3 "k3" none]
  | _ => sampleCheck 4 2 [sampleInfo 4 "k1" (some (sampleState "d" 3)), sampleInfo 4 "k2" none,
      sampleInfo 4 "k3" none]

def sampleBackedUp (n : Nat) : Sentinel × ClusterData :=
  CheckRun.steadyStates sampleBackup { lastLeadershipCount := 1 }
    (newClusterData (newCluster "cluster"
      { initMode := some .new, maxStandbysPerSender := some 1 })).roundTrip n

theorem fresh_sampleBackedUp {n : Nat} (hn : n ≤ 3)
    : (sampleBackup n).env.Fresh (sampleBackedUp n).2.dbs := by
  have hlengths : ∀ n ≤ 3, ∀ uid ∈ (sampleBackedUp n).2.dbs.keys,
      uid.length ≤ match n with | 0 => 0 | 1 => 1 | 2 => 1 | _ => 2 := by
    decide +kernel
  match n, hn with
  | 0, hn => exact Env.fresh_simplest (hlengths 0 hn)
  | 1, hn => exact Env.fresh_simplest (hlengths 1 hn)
  | 2, hn => exact Env.fresh_simplest (hlengths 2 hn)
  | 3, hn => exact Env.fresh_simplest (hlengths 3 hn)

theorem reachable_sampleBackedUp {n : Nat} (hn : n ≤ 3)
    : clusterDataSystem.Reachable (sampleBackedUp n).2 :=
  reachable_of_commits (CheckRun.reachable_steadyStates
    (.init ⟨"cluster", { initMode := some .new, maxStandbysPerSender := some 1 }, rfl⟩)
    (fun _ _ => fresh_sampleBackedUp (by omega)))

def sampleObserved (n : Nat) : Option (Sentinel × ClusterData) :=
  ((sampleBackedUp n).1.updateKeepersStatus (sampleBackup n).env.now (sampleBackedUp n).2
    (sampleBackup n).keepersInfo false).toOption.map (fun r => (r.1, r.2.1))

theorem observed_of_sampleObserved {n : Nat} (hn : n ≤ 3) {cd : ClusterData}
    (h : sampleObserved n = some (s, cd))
    : clusterDataSystem.Reachable cd ∧ (sampleBackup n).env.Fresh cd.dbs := by
  obtain ⟨⟨s₁, observed, kihs⟩, hstatus, heq⟩ := Except.exists_ok_of_toOption_map h
  cases heq
  exact ⟨(reachable_sampleBackedUp hn).step (.updateKeepersStatus _ _ _ _ false kihs hstatus),
    fresh_updateKeepersStatus (fresh_sampleBackedUp hn) hstatus⟩

structure SettledUpdate (env : Env) (s s' : Sentinel) (cd newcd : ClusterData) (masterDB : DB)
    : Prop where
  reachable : clusterDataSystem.Reachable cd
  fresh : env.Fresh cd.dbs
  phase : cd.cluster.status.phase = .normal
  master : cd.dbs[cd.cluster.status.master]? = some masterDB
  settled : Settled masterDB
  kept : newcd.cluster.status.master = cd.cluster.status.master
  update : s.updateCluster env cd ∅ = .ok (s', newcd)

def sampleCounts (env : Env) (s s' : Sentinel) (cd newcd : ClusterData) : List Nat :=
  [maxStandbys cd, s.notFailedCount env.now (s.standing env.now cd),
    s.initializingCount env.now (s.standing env.now cd), (missingStandbys env s cd).length,
    createdCount cd newcd, s.standbyCount env.now cd, s'.standbyCount env.now newcd]

theorem exists_sampleUpdate {n : Nat} {counts : List Nat} (hn : n ≤ 3)
    (h : ((sampleObserved n).bind (fun r =>
      (r.1.updateCluster (sampleBackup n).env r.2 ∅).toOption.map (fun r' =>
        (r.2.cluster.status, r'.2.cluster.status.master,
          (r.2.dbs["d"]?).map (fun db =>
            db.status.healthy && decide (db.status.currentGeneration = db.generation)),
          sampleCounts (sampleBackup n).env r.1 r'.1 r.2 r'.2))))
      = some ({ phase := .normal, master := "d" }, "d", some true, counts))
    : ∃ (s s' : Sentinel) (cd newcd : ClusterData) (masterDB : DB),
        SettledUpdate (sampleBackup n).env s s' cd newcd masterDB
          ∧
        sampleCounts (sampleBackup n).env s s' cd newcd = counts := by
  rw [Option.bind_eq_some_iff] at h
  obtain ⟨⟨s, cd⟩, hobserved, h⟩ := h
  obtain ⟨⟨s', newcd⟩, hupdate, h⟩ := Except.exists_ok_of_toOption_map h
  simp only [Prod.mk.injEq, Option.map_eq_some_iff, Bool.and_eq_true, decide_eq_true_eq] at h
  obtain ⟨hstatus, hnewmaster, ⟨masterDB, hmaster, hsettled⟩, hcounts⟩ := h
  obtain ⟨hreach, hfresh⟩ := observed_of_sampleObserved hn hobserved
  refine ⟨s, s', cd, newcd, masterDB, ?_, hcounts⟩
  constructor
  case reachable => exact hreach
  case fresh => exact hfresh
  case phase => rw [hstatus]
  case master => rw [hstatus]; exact hmaster
  case settled => exact hsettled
  case kept => rw [hstatus]; exact hnewmaster
  case update => exact hupdate

theorem standbys_created_within_limit_iff_sample
    : ∃ (env : Env) (s s' : Sentinel) (cd newcd : ClusterData) (masterDB : DB),
        SettledUpdate env s s' cd newcd masterDB
          ∧
        maxStandbys cd = 1
          ∧
        createdCount cd newcd = 1
          ∧
        s.standbyCount env.now (s.standing env.now cd) + createdCount cd newcd
          ≤ maxStandbys cd := by
  obtain ⟨s, s', cd, newcd, masterDB, h, hcounts⟩
    : ∃ (s s' : Sentinel) (cd newcd : ClusterData) (masterDB : DB),
        SettledUpdate (sampleBackup 2).env s s' cd newcd masterDB
          ∧
        sampleCounts (sampleBackup 2).env s s' cd newcd = [1, 0, 0, 1, 1, 0, 1] :=
    exists_sampleUpdate (by decide) (by decide +kernel)
  simp only [sampleCounts, List.cons.injEq, and_true] at hcounts
  obtain ⟨hmax, -, hinitializing, -, hcreated, -⟩ := hcounts
  have hroom : LeavesRoom (sampleBackup 2).env s cd := by
    right
    rw [hinitializing, Nat.zero_add]
    exact Nat.min_le_left _ _
  have hlimit := (standbys_created_within_limit_iff _ s s' cd newcd ∅ masterDB h.reachable h.fresh
    h.phase h.master h.settled h.kept h.update).1.mpr (.inr hroom)
  refine ⟨_, s, s', cd, newcd, masterDB, h, hmax, hcreated, ?_⟩
  obtain hnone | hlimit := hlimit
  . rw [hcreated] at hnone
    cases hnone
  . exact hlimit

/--
While `dd` is being initialized the next check creates another standby, beyond the limit of one.
-/
theorem initializing_standby_not_counted
    : ∃ (env : Env) (s s' : Sentinel) (cd newcd : ClusterData) (masterDB : DB),
        SettledUpdate env s s' cd newcd masterDB
          ∧
        maxStandbys cd = 1
          ∧
        s.standbyCount env.now (s.standing env.now cd) = 1
          ∧
        createdCount cd newcd = 1
          ∧
        s.standbyCount env.now cd = 1
          ∧
        s'.standbyCount env.now newcd = 2 := by
  obtain ⟨s, s', cd, newcd, masterDB, h, hcounts⟩
    : ∃ (s s' : Sentinel) (cd newcd : ClusterData) (masterDB : DB),
        SettledUpdate (sampleBackup 3).env s s' cd newcd masterDB
          ∧
        sampleCounts (sampleBackup 3).env s s' cd newcd = [1, 0, 1, 1, 1, 1, 2] :=
    exists_sampleUpdate (by decide) (by decide +kernel)
  simp only [sampleCounts, List.cons.injEq, and_true] at hcounts
  obtain ⟨hmax, hnotFailed, hinitializing, -, hcreated, hbefore, hafter⟩ := hcounts
  refine ⟨_, s, s', cd, newcd, masterDB, h, hmax, ?_, hcreated, hbefore, hafter⟩
  rw [standbyCount_eq, hnotFailed, hinitializing]

end Sample

end Sentinel
end Hysteron
