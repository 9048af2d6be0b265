import Hysteron.Sentinel.Lemmas.Assignment
import Hysteron.Sentinel.Lemmas.Memory

/-!
The good standbys of the cluster data, and that those of the stored cluster data are the ones which a
reconciliation of the standbys goes by.
-/

namespace Hysteron
namespace Sentinel

variable {env : Env} {s s' : Sentinel} {now : Time} {cd cd' base : ClusterData} {pis : ProxiesInfo}
variable {uid : String} {db db' masterDB : DB} {standbys : DBsByStatus} {best : List DB}

structure GoodStandby (cd : ClusterData) (uid : String) (db : DB) : Prop where
  known : cd.dbs[uid]? = some db
  valid : dbValidity cd uid = .ok .valid
  replica : db.spec.type = some .replicaLine
  keeper : ∃ (k : Keeper), cd.keepers[db.spec.keeperUID]? = some k ∧ k.status.healthy = true
  settled : Settled db

section ByStatus

theorem isValidOfType_iff {dt : DBType} (h : cd.dbs[uid]? = some db)
    : isValidOfType cd dt uid = true
        ↔
      dbValidity cd uid = .ok .valid ∧ db.spec.type = some dt := by
  unfold isValidOfType
  rw [dbType_of_getElem? h]
  cases dbValidity cd uid with
  | error fault => simp
  | ok validity => cases db.spec.type <;> simp

theorem dbStatus_eq_good_iff (h : cd.dbs[uid]? = some db)
    : s.dbStatus now cd uid = .ok .good
        ↔
      (∃ (k : Keeper), cd.keepers[db.spec.keeperUID]? = some k ∧ k.status.healthy = true)
        ∧
      Settled db := by
  unfold dbStatus
  rw [h]
  dsimp only
  cases cd.keepers[db.spec.keeperUID]? with
  | none => simp
  | some k =>
    have hconverged : s.dbConvergenceState now db (dbConvergenceTimeout cd db) = .converged
        ↔ db.status.currentGeneration = db.generation := dbConvergenceState_eq_converged_iff
    simp only [Except.ok.injEq, Option.some.injEq, exists_eq_left', Settled, ← hconverged]
    unfold dbStatusOn
    cases k.status.healthy
    . simp
    . cases s.dbConvergenceState now db (dbConvergenceTimeout cd db)
      all_goals cases db.status.healthy <;> simp

theorem getElem?_good_iff (hkeyed : cd.Keyed) (h : s.validStandbysByStatus now cd = .ok standbys)
    : standbys.good[uid]? = some db ↔ GoodStandby cd uid db := by
  unfold validStandbysByStatus validDBsByStatus at h
  dsimp only at h
  split at h
  . cases h
  . cases h
    simp only [FinMap.getElem?_filter_eq_some, decide_eq_true_eq]
    constructor
    . rintro ⟨⟨hdb, hvalid⟩, hgood⟩
      rw [hkeyed uid db hdb] at hvalid hgood
      have hvalid := (isValidOfType_iff hdb).mp hvalid
      have hgood := (dbStatus_eq_good_iff hdb).mp hgood
      exact ⟨hdb, hvalid.1, hvalid.2, hgood.1, hgood.2⟩
    . rintro ⟨hdb, hvalid, hreplica, hkeeper, hsettled⟩
      rw [hkeyed uid db hdb]
      exact ⟨⟨hdb, (isValidOfType_iff hdb).mpr ⟨hvalid, hreplica⟩⟩,
        (dbStatus_eq_good_iff hdb).mpr ⟨hkeeper, hsettled⟩⟩

theorem mem_good_iff (hkeyed : cd.Keyed) (h : s.validStandbysByStatus now cd = .ok standbys)
    : uid ∈ standbys.good ↔ ∃ (db : DB), GoodStandby cd uid db := by
  rw [Std.ExtTreeMap.mem_iff_isSome_getElem?, Option.isSome_iff_exists]
  exact exists_congr (fun db => getElem?_good_iff hkeyed h)

theorem mem_findBestStandbys_iff {search : CandidateSearch} (hkeyed : cd.Keyed)
    (h : s.findBestStandbys env search cd masterDB = .ok best)
    : db ∈ best ↔ GoodStandby cd db.uid db ∧ isNearMaster cd masterDB db = true := by
  simp only [findBestStandbys, Except.bind_eq_ok_iff, Except.pure_eq_ok, Except.ok.injEq] at h
  obtain ⟨standbys, hstandbys, rfl⟩ := h
  rw [List.mem_insertionSort, List.mem_filter, FinMap.mem_valuesIn]
  refine and_congr_left (fun _ => ?_)
  constructor
  . rintro ⟨uid, hgood⟩
    have hgood := (getElem?_good_iff hkeyed hstandbys).mp hgood
    rw [hkeyed uid db hgood.known]
    exact hgood
  . intro hgood
    exact ⟨db.uid, (getElem?_good_iff hkeyed hstandbys).mpr hgood⟩

end ByStatus

section Transfer

def reported (status : DBStatus) : DBStatus :=
  { status with synchronousStandbys := none, orphanMemberSlots := none }

theorem dbValidity_congr_reported (hmaster : cd'.cluster.status.master = cd.cluster.status.master)
    (hreported : ∀ (uid' : String), uid' = uid ∨ uid' = cd.cluster.status.master →
      (cd'.dbs[uid']?).map (fun db => reported db.status)
        = (cd.dbs[uid']?).map (fun db => reported db.status))
    : dbValidity cd' uid = dbValidity cd uid := by
  have hdb := hreported uid (.inl rfl)
  have hmasterDB := hreported cd.cluster.status.master (.inr rfl)
  unfold dbValidity
  rw [hmaster]
  cases h' : cd'.dbs[uid]? with
  | none =>
    rw [h', eq_comm, Option.map_none, Option.map_eq_none_iff] at hdb
    rw [hdb]
  | some db' =>
    rw [h', eq_comm, Option.map_some, Option.map_eq_some_iff] at hdb
    obtain ⟨db, hdb, hdbReported⟩ := hdb
    simp only [reported, DBStatus.mk.injEq] at hdbReported
    rw [hdb]
    cases hm' : cd'.dbs[cd.cluster.status.master]? with
    | none =>
      rw [hm', eq_comm, Option.map_none, Option.map_eq_none_iff] at hmasterDB
      rw [hmasterDB]
      simp [hdbReported]
    | some masterDB' =>
      rw [hm', eq_comm, Option.map_some, Option.map_eq_some_iff] at hmasterDB
      obtain ⟨masterDB, hmasterDB, hmasterReported⟩ := hmasterDB
      simp only [reported, DBStatus.mk.injEq] at hmasterReported
      rw [hmasterDB]
      simp only [isDifferentTimelineBranch, hdbReported, hmasterReported]
      rfl

theorem dbValidity_congr (hmaster : cd'.cluster.status.master = cd.cluster.status.master)
    (hstatus : ∀ (uid' : String), uid' = uid ∨ uid' = cd.cluster.status.master →
      (cd'.dbs[uid']?).map DB.status = (cd.dbs[uid']?).map DB.status)
    : dbValidity cd' uid = dbValidity cd uid := by
  apply dbValidity_congr_reported hmaster
  intro uid' huid'
  have hreported := congrArg (Option.map reported) (hstatus uid' huid')
  rw [Option.map_map, Option.map_map] at hreported
  exact hreported

theorem goodStandby_cleanInitMode {good : FinMap String DB}
    (h : GoodStandby (cleanInitMode good cd) uid db')
    : ∃ (db : DB),
        GoodStandby cd uid db
          ∧
        db'.status = db.status
          ∧
        db'.spec.keeperUID = db.spec.keeperUID := by
  obtain ⟨hknown, hvalid, hreplica, hkeeper, hsettled⟩ := h
  rw [getElem?_cleanInitMode, Option.map_eq_some_iff] at hknown
  obtain ⟨db, hdb, hclean⟩ := hknown
  have hvalid : dbValidity cd uid = .ok .valid := by
    rw [← hvalid, eq_comm]
    refine dbValidity_congr rfl ?_
    intro uid' _
    rw [getElem?_cleanInitMode, Option.map_map]
    congr 1
    funext db
    rw [Function.comp_apply]
    split <;> rfl
  split at hclean
  all_goals
    subst hclean
    exact ⟨db, ⟨hdb, hvalid, hreplica, hkeeper, hsettled⟩, rfl, rfl⟩

theorem removeUnusableDBs_congr (h : s'.dbNotIncreasingXLogPos = s.dbNotIncreasingXLogPos)
    (masterDBUID : String)
    : s'.removeUnusableDBs cd cd' masterDBUID = s.removeUnusableDBs cd cd' masterDBUID := by
  have hincreasing : s'.isDBIncreasingXLogPos = s.isDBIncreasingXLogPos := by
    unfold isDBIncreasingXLogPos
    rw [h]
  unfold removeUnusableDBs removeUnsyncableDBs dbCanSync
  rw [hincreasing]

theorem getElem?_removeUnusableDBs_iff (s : Sentinel) (cd : ClusterData) (db : DB)
    (hkeyed : cd'.Keyed) (hne : uid ≠ cd'.cluster.status.master)
    : (s.removeUnusableDBs cd cd' cd'.cluster.status.master).dbs[uid]? = some db
        ↔
      cd'.dbs[uid]? = some db
        ∧
      db.spec.type ≠ some .primaryLine
        ∧
      dbValidity cd' uid ≠ .ok .invalid
        ∧
      s.dbCanSync cd uid ≠ .ok false := by
  simp only [removeUnusableDBs, removeUnsyncableDBs, removeInvalidDBs,
    FinMap.getElem?_filter_eq_some]
  have hkept : (removeOldMasters cd'.cluster.status.master cd').dbs[uid]? = some db
      ↔ cd'.dbs[uid]? = some db ∧ db.spec.type ≠ some .primaryLine := by
    simp only [removeOldMasters, FinMap.getElem?_filter_eq_some]
    refine and_congr_right (fun hdb => ?_)
    rw [← not_iff_not, not_not, ← dbType_eq_ok_iff hkeyed hdb, hkeyed uid db hdb]
    simp [hne]
  have hmaster : (removeOldMasters cd'.cluster.status.master cd').dbs[cd'.cluster.status.master]?
      = cd'.dbs[cd'.cluster.status.master]? := by
    cases h : cd'.dbs[cd'.cluster.status.master]? with
    | none =>
      rw [Std.ExtTreeMap.getElem?_eq_none]
      intro hmem
      have := Std.ExtTreeMap.mem_of_mem_filter hmem
      simp [Std.ExtTreeMap.mem_iff_isSome_getElem?, h] at this
    | some masterDB =>
      simp [removeOldMasters, h, hkeyed _ masterDB h]
  -- A database that is no old master is as valid as before.
  have hvalidity (hdb : cd'.dbs[uid]? = some db) (htype : db.spec.type ≠ some .primaryLine)
      : dbValidity (removeOldMasters cd'.cluster.status.master cd') uid = dbValidity cd' uid := by
    refine dbValidity_congr rfl ?_
    rintro uid' (rfl | rfl)
    . rw [hkept.mpr ⟨hdb, htype⟩, hdb]
    . rw [hmaster]
  rw [hkept]
  constructor
  . rintro ⟨⟨⟨hdb, htype⟩, hvalid⟩, hsync⟩
    rw [hkeyed uid db hdb] at hvalid hsync
    rw [hvalidity hdb htype] at hvalid
    simp only [hne, decide_false, Bool.false_or, decide_eq_true_eq] at hvalid hsync
    exact ⟨hdb, htype, hvalid, hsync⟩
  . rintro ⟨hdb, htype, hvalid, hsync⟩
    rw [hkeyed uid db hdb, hvalidity hdb htype]
    simp [hdb, htype, hvalid, hsync]

section Confirm

variable (h : cd.Assigned) (hbase : Base now cd base)
variable (hmaster : cd.dbs[cd.cluster.status.master]? = some masterDB)

include hbase hmaster

theorem status_confirmMaster (uid : String)
    : ((confirmMaster base cd.cluster.status.master masterDB pis).dbs[uid]?).map DB.status
        =
      (cd.dbs[uid]?).map DB.status := by
  rw [getElem?_confirmMaster, hbase.dbs]
  split
  . next heq =>
    rw [heq, hmaster]
    unfold confirmMasterRole
    split <;> rfl
  . rfl

include h

theorem keyed_confirmMaster (pis : ProxiesInfo)
    : (confirmMaster base cd.cluster.status.master masterDB pis).Keyed := by
  intro uid db hdb
  rw [getElem?_confirmMaster] at hdb
  split at hdb
  . next heq =>
    subst heq
    cases hdb
    rw [← h.keyed _ masterDB hmaster]
    unfold confirmMasterRole
    split <;> rfl
  . rw [hbase.dbs] at hdb
    exact h.keyed uid db hdb

theorem getElem?_removeUnusableDBs_confirmMaster (s : Sentinel) (pis : ProxiesInfo)
    (hne : uid ≠ cd.cluster.status.master)
    : (s.removeUnusableDBs cd (confirmMaster base cd.cluster.status.master masterDB pis)
          cd.cluster.status.master).dbs[uid]?
        =
      (s.removeUnusableDBs cd cd cd.cluster.status.master).dbs[uid]? := by
  have hcur : (confirmMaster base cd.cluster.status.master masterDB pis).cluster.status.master
      = cd.cluster.status.master := hbase.master
  have hvalidity
      : dbValidity (confirmMaster base cd.cluster.status.master masterDB pis) uid
        = dbValidity cd uid :=
    dbValidity_congr hcur (fun uid' _ => status_confirmMaster hbase hmaster uid')
  ext db
  have hkept : uid ≠ (confirmMaster base cd.cluster.status.master masterDB pis).cluster.status.master
    := by
    rw [hcur]
    exact hne
  have hleft := getElem?_removeUnusableDBs_iff s cd db
    (keyed_confirmMaster h hbase hmaster pis) hkept
  rw [hcur] at hleft
  rw [hleft, getElem?_removeUnusableDBs_iff s cd db h.keyed hne, hvalidity, getElem?_confirmMaster,
    if_neg hne, hbase.dbs]

theorem dbValidity_removeUnusableDBs_confirmMaster (s : Sentinel) (pis : ProxiesInfo)
    (hne : uid ≠ cd.cluster.status.master)
    : dbValidity (s.removeUnusableDBs cd (confirmMaster base cd.cluster.status.master masterDB pis)
          cd.cluster.status.master) uid
        =
      dbValidity (s.removeUnusableDBs cd cd cd.cluster.status.master) uid := by
  have huid := h.keyed _ masterDB hmaster
  refine dbValidity_congr hbase.master ?_
  rintro uid' (rfl | rfl)
  . rw [getElem?_removeUnusableDBs_confirmMaster h hbase hmaster s pis hne]
  . change Option.map DB.status (s.removeUnusableDBs cd _ cd.cluster.status.master).dbs[
        cd.cluster.status.master]?
      = Option.map DB.status (s.removeUnusableDBs cd cd cd.cluster.status.master).dbs[
        cd.cluster.status.master]?
    rw [getElem?_removeUnusableDBs_master (keyed_confirmMaster h hbase hmaster pis) hmaster huid,
      getElem?_removeUnusableDBs_master h.keyed hmaster huid, status_confirmMaster hbase hmaster]

theorem goodStandby_removeUnusableDBs (hne : uid ≠ cd.cluster.status.master)
    : GoodStandby (s.removeUnusableDBs cd (confirmMaster base cd.cluster.status.master masterDB pis)
          cd.cluster.status.master) uid db
        ↔
      GoodStandby (s.removeUnusableDBs cd cd cd.cluster.status.master) uid db := by
  have hlookup := getElem?_removeUnusableDBs_confirmMaster h hbase hmaster s pis hne
  have hvalidity := dbValidity_removeUnusableDBs_confirmMaster h hbase hmaster s pis hne
  have hkeeper (hdb : cd.dbs[uid]? = some db)
      : base.keepers[db.spec.keeperUID]? = cd.keepers[db.spec.keeperUID]? := by
    rw [hbase.keepers]
    exact getElem?_removeOldKeepers h hdb now
  constructor
  . rintro ⟨hknown, hvalid, hreplica, hhealthy, hsettled⟩
    rw [hlookup] at hknown
    have hdb := getElem?_removeUnusableDBs hknown
    obtain ⟨k, hk, hhealthy⟩ := hhealthy
    exact ⟨hknown, hvalidity.symm.trans hvalid, hreplica, ⟨k, (hkeeper hdb).symm.trans hk, hhealthy⟩,
      hsettled⟩
  . rintro ⟨hknown, hvalid, hreplica, hhealthy, hsettled⟩
    have hdb := getElem?_removeUnusableDBs hknown
    obtain ⟨k, hk, hhealthy⟩ := hhealthy
    exact ⟨hlookup.trans hknown, hvalidity.trans hvalid, hreplica,
      ⟨k, (hkeeper hdb).trans hk, hhealthy⟩, hsettled⟩

end Confirm

end Transfer

end Sentinel
end Hysteron
