import Hysteron.Sentinel.Lemmas.Finish

/-!
What the reconciliation of the standbys does to each database, for cluster data that files every
database under its UID.
-/

namespace Hysteron

def ClusterData.Keyed (cd : ClusterData) : Prop :=
  ∀ (uid : String) (db : DB), cd.dbs[uid]? = some db → db.uid = uid

def ClusterData.Typed (cd : ClusterData) : Prop :=
  ∀ (uid : String) (db : DB), cd.dbs[uid]? = some db → db.spec.type.isSome = true

structure Env.Fresh (env : Env) (dbs : FinMap String DB) : Prop where
  ne_empty : ∀ (n : Nat), env.uidFn n ≠ ""
  not_mem : ∀ (n : Nat), env.uidFn n ∉ dbs
  injective : Function.Injective env.uidFn

theorem Env.Fresh.ne_of_getElem? {env : Env} {dbs : FinMap String DB} (hfresh : env.Fresh dbs)
    {uid : String} {db : DB} (h : dbs[uid]? = some db) (n : Nat) : env.uidFn n ≠ uid := by
  intro heq
  apply hfresh.not_mem n
  rw [heq]
  rw [Std.ExtTreeMap.mem_iff_isSome_getElem?]
  simp [h]

theorem Env.fresh_simplest {dbs : FinMap String DB} {now : Time} {used : Nat}
    (h : ∀ uid ∈ dbs.keys, uid.length ≤ used) : (Env.simplest now used).Fresh dbs where
  ne_empty := by
    intro n heq
    have := congrArg String.length heq
    simp [Env.simplest] at this
  not_mem := by
    intro n hmem
    have := h _ (Std.ExtTreeMap.mem_keys.mpr hmem)
    simp [Env.simplest] at this
  injective := by
    intro n m heq
    have := congrArg String.length heq
    simpa [Env.simplest] using this

namespace Sentinel

variable {env : Env} {s s' : Sentinel} {now : Time} {cd newcd newcd' : ClusterData}
variable {uid masterDBUID : String} {db db' masterDB curMasterDB : DB}

theorem dbType_eq_ok_iff (hkeyed : newcd.Keyed) (h : newcd.dbs[uid]? = some db) {dt : DBType}
    : dbType newcd db.uid = .ok dt ↔ db.spec.type = some dt := by
  rw [hkeyed uid db h]
  rw [dbType_of_getElem? h]
  cases db.spec.type <;> simp

section Unusable

theorem getElem?_removeUnusableDBs (h : (s.removeUnusableDBs cd newcd masterDBUID).dbs[uid]? = some db)
    : newcd.dbs[uid]? = some db := by
  simp only [removeUnusableDBs, removeUnsyncableDBs, removeInvalidDBs, removeOldMasters,
    FinMap.getElem?_filter_eq_some] at h
  exact h.1.1.1

theorem keyed_removeUnusableDBs (hkeyed : newcd.Keyed)
    : (s.removeUnusableDBs cd newcd masterDBUID).Keyed :=
  fun uid db h => hkeyed uid db (getElem?_removeUnusableDBs h)

theorem type_removeUnusableDBs (hkeyed : newcd.Keyed)
    (h : (s.removeUnusableDBs cd newcd masterDBUID).dbs[uid]? = some db) (hne : uid ≠ masterDBUID)
    : db.spec.type ≠ some .primaryLine := by
  have hdb := getElem?_removeUnusableDBs h
  simp only [removeUnusableDBs, removeUnsyncableDBs, removeInvalidDBs, removeOldMasters,
    FinMap.getElem?_filter_eq_some] at h
  have hkept := h.1.1.2
  rw [hkeyed uid db hdb] at hkept
  intro htype
  have hdt := (dbType_eq_ok_iff hkeyed hdb).mpr htype
  rw [hkeyed uid db hdb] at hdt
  simp [hne, hdt] at hkept

theorem dbCanSync_master (hmaster : cd.dbs[cd.cluster.status.master]? = some curMasterDB)
    (huid : curMasterDB.uid = cd.cluster.status.master)
    : s.dbCanSync cd cd.cluster.status.master = .ok true := by
  unfold dbCanSync
  rw [hmaster]
  simp [huid]

theorem getElem?_removeUnusableDBs_master (hkeyed : newcd.Keyed)
    (hmaster : cd.dbs[cd.cluster.status.master]? = some curMasterDB)
    (huid : curMasterDB.uid = cd.cluster.status.master)
    : (s.removeUnusableDBs cd newcd cd.cluster.status.master).dbs[cd.cluster.status.master]?
        =
      newcd.dbs[cd.cluster.status.master]? := by
  cases h : newcd.dbs[cd.cluster.status.master]? with
  | none =>
    cases hr : (s.removeUnusableDBs cd newcd cd.cluster.status.master).dbs[
        cd.cluster.status.master]? with
    | none => rfl
    | some db =>
      rw [getElem?_removeUnusableDBs hr] at h
      cases h
  | some masterDB =>
    have huid' := hkeyed _ _ h
    simp only [removeUnusableDBs, removeUnsyncableDBs, removeInvalidDBs, removeOldMasters,
      FinMap.getElem?_filter_eq_some]
    rw [huid']
    rw [dbCanSync_master hmaster huid]
    simp [h]

end Unusable

section ByStatus

variable {standbys : DBsByStatus} {wantType : DBType}

theorem getElem?_validDBsByStatus_good (hkeyed : newcd.Keyed)
    (h : s.validDBsByStatus now newcd wantType = .ok standbys) (hgood : standbys.good[uid]? = some db)
    : newcd.dbs[uid]? = some db ∧ db.spec.type = some wantType := by
  unfold validDBsByStatus at h
  dsimp only at h
  split at h
  . cases h
  . cases h
    simp only [FinMap.getElem?_filter_eq_some] at hgood
    obtain ⟨⟨hdb, hvalid⟩, -⟩ := hgood
    refine ⟨hdb, ?_⟩
    unfold isValidOfType at hvalid
    split at hvalid
    . next hdt =>
      have hdt' := (dbType_eq_ok_iff hkeyed hdb).mp hdt
      simp only [Bool.and_eq_true, decide_eq_true_eq] at hvalid
      rw [hdt']
      rw [hvalid.2]
    . cases hvalid

end ByStatus

section Resize

@[simp]
theorem newStandbyDB_uid (uid keeperUID masterDBUID : String)
    : (newStandbyDB uid keeperUID masterDBUID).uid = uid := rfl

theorem getElem?_addStandbysOn {dbs : FinMap String DB} {used : Nat} {keepers : List Keeper}
    (h : (addStandbysOn env masterDBUID used dbs keepers)[uid]? = some db)
    : dbs[uid]? = some db
        ∨
      ∃ (n : Nat) (keeper : Keeper),
        keeper ∈ keepers ∧ uid = env.uidFn n ∧ db = newStandbyDB uid keeper.uid masterDBUID := by
  induction keepers generalizing used dbs with
  | nil => exact .inl h
  | cons keeper keepers ih =>
    cases ih h with
    | inl hdb =>
      rw [Std.ExtTreeMap.getElem?_insert] at hdb
      split at hdb
      . next heq =>
        have heq : env.uidFn used = uid := by simpa using heq
        subst heq
        cases hdb
        exact .inr ⟨used, keeper, List.mem_cons_self, rfl, rfl⟩
      . exact .inl hdb
    | inr hnew =>
      obtain ⟨n, keeper', hmem, huid, hdb⟩ := hnew
      exact .inr ⟨n, keeper', List.mem_cons_of_mem _ hmem, huid, hdb⟩

theorem getElem?_addStandbysOn_of_ne {dbs : FinMap String DB} {used : Nat} {keepers : List Keeper}
    (hne : ∀ n, env.uidFn n ≠ uid)
    : (addStandbysOn env masterDBUID used dbs keepers)[uid]? = dbs[uid]? := by
  induction keepers generalizing used dbs with
  | nil => rfl
  | cons keeper keepers ih =>
    unfold addStandbysOn
    dsimp only
    rw [ih]
    rw [Std.ExtTreeMap.getElem?_insert]
    simp [hne used]

theorem mem_addStandbysOn_iff {dbs : FinMap String DB} {used : Nat} {keepers : List Keeper}
    : uid ∈ addStandbysOn env masterDBUID used dbs keepers
        ↔
      uid ∈ dbs ∨ ∃ n < keepers.length, uid = env.uidFn (used + n) := by
  induction keepers generalizing used dbs with
  | nil => simp [addStandbysOn]
  | cons keeper keepers ih =>
    unfold addStandbysOn
    dsimp only
    rw [ih, Std.ExtTreeMap.mem_insert, compare_eq_iff_eq, newStandbyDB_uid, List.length_cons]
    constructor
    . rintro ((rfl | h) | ⟨n, hn, rfl⟩)
      . exact .inr ⟨0, by omega, rfl⟩
      . exact .inl h
      . exact .inr ⟨n + 1, by omega, by rw [Nat.add_right_comm, Nat.add_assoc]⟩
    . rintro (h | ⟨n, hn, rfl⟩)
      . exact .inl (.inr h)
      . cases n with
        | zero => exact .inl (.inl rfl)
        | succ n => exact .inr ⟨n, by omega, by rw [Nat.add_right_comm, Nat.add_assoc]⟩

theorem getElem?_resizeStandbys {standbys : DBsByStatus}
    (h : (resizeStandbys env masterDBUID standbys newcd).dbs[uid]? = some db)
    : newcd.dbs[uid]? = some db
        ∨
      ∃ (n : Nat) (keeper : Keeper),
        keeper ∈ freeKeepers env newcd
          ∧
        uid = env.uidFn n
          ∧
        db = newStandbyDB uid keeper.uid masterDBUID := by
  unfold resizeStandbys at h
  dsimp only at h
  split at h
  . simp only [removeExcessStandbys, FinMap.getElem?_filter_eq_some] at h
    exact .inl h.1
  . cases getElem?_addStandbysOn h with
    | inl hdb => exact .inl hdb
    | inr hnew =>
      obtain ⟨n, keeper, hmem, huid, hdb⟩ := hnew
      exact .inr ⟨n, keeper, List.mem_of_mem_take hmem, huid, hdb⟩

theorem getElem?_resizeStandbys_primary {standbys : DBsByStatus} (hkeyed : newcd.Keyed)
    (hgood : standbys.good[uid]? = none)
    (hgoodKeyed : ∀ (uid : String) (db : DB), standbys.good[uid]? = some db → db.uid = uid)
    (hne : ∀ n, env.uidFn n ≠ uid) (h : newcd.dbs[uid]? = some db)
    (htype : db.spec.type = some .primaryLine)
    : (resizeStandbys env masterDBUID standbys newcd).dbs[uid]? = some db := by
  unfold resizeStandbys
  dsimp only
  split
  . simp only [removeExcessStandbys, FinMap.getElem?_filter_eq_some]
    refine ⟨h, ?_⟩
    have hdt := (dbType_eq_ok_iff hkeyed h).mpr htype
    rw [hdt]
    rw [hkeyed uid db h]
    simp only [Bool.and_eq_true, Bool.not_eq_true', Bool.and_eq_false_imp]
    refine ⟨by simp, ?_⟩
    -- The removed good standbys have other UIDs.
    rw [← Bool.not_eq_true]
    intro hmem
    obtain ⟨db', hdb', hdbuid⟩ := List.mem_map.mp (List.contains_iff_mem.mp hmem)
    have hvalue := List.mem_of_mem_filter (List.mem_of_mem_take hdb')
    obtain ⟨uid', huid'⟩ := (FinMap.mem_valuesIn _ _ _).mp hvalue
    have := hgoodKeyed uid' db' huid'
    rw [hdbuid] at this
    rw [← this, hgood] at huid'
    cases huid'
  . unfold addMissingStandbys
    dsimp only
    rw [getElem?_addStandbysOn_of_ne hne]
    exact h

theorem keyed_resizeStandbys {standbys : DBsByStatus} (hkeyed : newcd.Keyed)
    : (resizeStandbys env masterDBUID standbys newcd).Keyed := by
  intro uid db h
  cases getElem?_resizeStandbys h with
  | inl hdb => exact hkeyed uid db hdb
  | inr hnew =>
    obtain ⟨-, keeper, -, -, rfl⟩ := hnew
    rfl

end Resize

section Reconcile

structure Reconciled (env : Env) (masterDBUID : String) (newcd newcd' : ClusterData) : Prop where
  formatVersion : newcd'.formatVersion = newcd.formatVersion
  cluster : newcd'.cluster = newcd.cluster
  keepers : newcd'.keepers = newcd.keepers
  proxy : newcd'.proxy = newcd.proxy
  master : ∃ (cd₁ : ClusterData) (good : FinMap String DB) (best : List DB),
    cd₁.cluster = newcd.cluster
      ∧
    newcd'.dbs[masterDBUID]?
      =
    (newcd.dbs[masterDBUID]?).map (setupSynchronousStandbys env cd₁ good best)
  standby : ∀ (uid : String) (db' : DB), uid ≠ masterDBUID → newcd'.dbs[uid]? = some db' →
    (∃ (db : DB),
      newcd.dbs[uid]? = some db
        ∧
      db.spec.type = some .replicaLine
        ∧
      (db' = followerOf masterDBUID db ∨ db' = followerOf masterDBUID (initialized db)))
      ∨
    (∃ (n : Nat) (keeper : Keeper),
      uid = env.uidFn n
        ∧
      db' = followerOf masterDBUID (newStandbyDB uid keeper.uid masterDBUID))

structure SameButSync (db db' : DB) : Prop where
  uid : db'.uid = db.uid
  generation : db'.generation = db.generation
  keeperUID : db'.spec.keeperUID = db.spec.keeperUID
  role : db'.spec.role = db.spec.role
  followConfig : db'.spec.followConfig = db.spec.followConfig
  initMode : db'.spec.initMode = db.spec.initMode
  healthy : db'.status.healthy = db.status.healthy
  currentGeneration : db'.status.currentGeneration = db.status.currentGeneration

theorem SameButSync.type (h : SameButSync db db') : db'.spec.type = db.spec.type := by
  unfold DBSpec.type
  rw [h.role]
  rw [h.followConfig]

theorem mergeReportedStandbys_same (good : FinMap String DB)
    : SameButSync masterDB (mergeReportedStandbys cd good masterDB) := by
  unfold mergeReportedStandbys
  dsimp only
  split
  . constructor <;> rfl
  . split
    . constructor <;> rfl
    . constructor <;> rfl

theorem requireSynchronousStandbys_same (good : FinMap String DB) (best : List DB)
    (h : SameButSync db masterDB)
    : SameButSync db (requireSynchronousStandbys env cd good best masterDB) where
  uid := h.uid
  generation := h.generation
  keeperUID := h.keeperUID
  role := h.role
  followConfig := h.followConfig
  initMode := h.initMode
  healthy := h.healthy
  currentGeneration := h.currentGeneration

theorem setupSynchronousStandbys_same (good : FinMap String DB) (best : List DB)
    : SameButSync masterDB (setupSynchronousStandbys env cd good best masterDB) := by
  unfold setupSynchronousStandbys
  dsimp only
  split
  . split
    . exact requireSynchronousStandbys_same good best (mergeReportedStandbys_same good)
    . exact mergeReportedStandbys_same good
  . constructor <;> rfl

theorem reconcileStandbys_cases
    (h : s.reconcileStandbys env cd newcd masterDBUID curMasterDB = .ok (s', newcd'))
    : ∃ (standbys : DBsByStatus) (best : List DB),
        s.validStandbysByStatus env.now (s.removeUnusableDBs cd newcd masterDBUID) = .ok standbys
          ∧
        newcd'
          =
        followMaster masterDBUID (resizeStandbys env masterDBUID standbys
          (updateSynchronousStandbys env standbys.good best masterDBUID
            (cleanInitMode standbys.good (s.removeUnusableDBs cd newcd masterDBUID)))) := by
  simp only [reconcileStandbys, Except.bind_eq_ok_iff, Except.pure_eq_ok, Except.ok.injEq,
    Prod.mk.injEq] at h
  obtain ⟨standbys, hstandbys, best, -, -, rfl⟩ := h
  exact ⟨standbys, best, hstandbys, rfl⟩

theorem keyed_cleanInitMode {good : FinMap String DB} (hkeyed : newcd.Keyed)
    : (cleanInitMode good newcd).Keyed := by
  intro uid db h
  simp only [cleanInitMode, Std.ExtTreeMap.getElem?_map, Option.map_eq_some_iff] at h
  obtain ⟨db', hdb', rfl⟩ := h
  split <;> exact hkeyed uid db' hdb'

theorem keyed_updateSynchronousStandbys {good : FinMap String DB} {best : List DB}
    (hkeyed : newcd.Keyed)
    : (updateSynchronousStandbys env good best masterDBUID newcd).Keyed := by
  intro uid db h
  simp only [updateSynchronousStandbys, Std.ExtTreeMap.getElem?_modify] at h
  split at h
  . next heq =>
    have heq : masterDBUID = uid := by simpa using heq
    subst heq
    obtain ⟨db', hdb', rfl⟩ := Option.map_eq_some_iff.mp h
    rw [(setupSynchronousStandbys_same good best).uid]
    exact hkeyed _ db' hdb'
  . exact hkeyed uid db h

theorem getElem?_followMaster (hkeyed : newcd.Keyed)
    : (followMaster masterDBUID newcd).dbs[uid]?
        =
      (newcd.dbs[uid]?).map (fun db =>
        if db.spec.type = some .replicaLine then followerOf masterDBUID db else db) := by
  simp only [followMaster, Std.ExtTreeMap.getElem?_map]
  cases h : newcd.dbs[uid]? with
  | none => rfl
  | some db => simp [dbType_eq_ok_iff hkeyed h]

theorem getElem?_cleanInitMode {good : FinMap String DB}
    : (cleanInitMode good newcd).dbs[uid]?
        =
      (newcd.dbs[uid]?).map (fun db => if good.contains uid then initialized db else db) := by
  simp [cleanInitMode, Std.ExtTreeMap.getElem?_map]

theorem getElem?_updateSynchronousStandbys {good : FinMap String DB} {best : List DB}
    : (updateSynchronousStandbys env good best masterDBUID newcd).dbs[uid]?
        =
      if uid = masterDBUID then
        (newcd.dbs[masterDBUID]?).map (setupSynchronousStandbys env newcd good best)
      else
        newcd.dbs[uid]? := by
  simp only [updateSynchronousStandbys, Std.ExtTreeMap.getElem?_modify, compare_eq_iff_eq]
  by_cases h : uid = masterDBUID
  . simp [h]
  . simp [h, Ne.symm h]

def reconciledStandbys (env : Env) (masterDBUID : String) (standbys : DBsByStatus) (best : List DB)
    (cd : ClusterData) : ClusterData :=
  resizeStandbys env masterDBUID standbys
    (updateSynchronousStandbys env standbys.good best masterDBUID
      (cleanInitMode standbys.good cd))

section Pipeline

variable {standbys : DBsByStatus} {best : List DB}

theorem keyed_reconciledStandbys (hkeyed : cd.Keyed)
    : (reconciledStandbys env masterDBUID standbys best cd).Keyed :=
  keyed_resizeStandbys (keyed_updateSynchronousStandbys (keyed_cleanInitMode hkeyed))

theorem good_master (hkeyed : cd.Keyed) (hstandbys : s.validStandbysByStatus now cd = .ok standbys)
    (hmaster : cd.dbs[masterDBUID]? = some masterDB) (hline : masterDB.spec.type = some .primaryLine)
    : standbys.good[masterDBUID]? = none := by
  cases hg : standbys.good[masterDBUID]? with
  | none => rfl
  | some db =>
    obtain ⟨hdb, htype⟩ := getElem?_validDBsByStatus_good hkeyed hstandbys hg
    rw [hmaster] at hdb
    cases hdb
    rw [hline] at htype
    cases htype

theorem getElem?_updateSynchronousStandbys_master (hkeyed : cd.Keyed)
    (hstandbys : s.validStandbysByStatus now cd = .ok standbys)
    (hmaster : cd.dbs[masterDBUID]? = some masterDB) (hline : masterDB.spec.type = some .primaryLine)
    : (updateSynchronousStandbys env standbys.good best masterDBUID
          (cleanInitMode standbys.good cd)).dbs[masterDBUID]?
        =
      some (setupSynchronousStandbys env (cleanInitMode standbys.good cd) standbys.good best
        masterDB) := by
  have hgoodMaster := good_master hkeyed hstandbys hmaster hline
  rw [getElem?_updateSynchronousStandbys, getElem?_cleanInitMode,
    Std.ExtTreeMap.contains_eq_isSome_getElem?]
  simp [hgoodMaster, hmaster]

theorem getElem?_reconciledStandbys_master (hkeyed : cd.Keyed)
    (hstandbys : s.validStandbysByStatus now cd = .ok standbys)
    (hne : ∀ n, env.uidFn n ≠ masterDBUID) (hmaster : cd.dbs[masterDBUID]? = some masterDB)
    (hline : masterDB.spec.type = some .primaryLine)
    : (reconciledStandbys env masterDBUID standbys best cd).dbs[masterDBUID]?
        =
      some (setupSynchronousStandbys env (cleanInitMode standbys.good cd) standbys.good best
        masterDB) := by
  refine getElem?_resizeStandbys_primary ?_ (good_master hkeyed hstandbys hmaster hline) ?_ hne ?_ ?_
  . exact keyed_updateSynchronousStandbys (keyed_cleanInitMode hkeyed)
  . intro uid db hdb
    exact hkeyed uid db (getElem?_validDBsByStatus_good hkeyed hstandbys hdb).1
  . exact getElem?_updateSynchronousStandbys_master hkeyed hstandbys hmaster hline
  . rw [(setupSynchronousStandbys_same _ _).type]
    exact hline

theorem getElem?_followMaster_master (hkeyed : cd.Keyed)
    (hstandbys : s.validStandbysByStatus now cd = .ok standbys)
    (hne : ∀ n, env.uidFn n ≠ masterDBUID) (hmaster : cd.dbs[masterDBUID]? = some masterDB)
    (hline : masterDB.spec.type = some .primaryLine)
    : (followMaster masterDBUID (reconciledStandbys env masterDBUID standbys best cd)).dbs[
          masterDBUID]?
        =
      some (setupSynchronousStandbys env (cleanInitMode standbys.good cd) standbys.good best
        masterDB) := by
  rw [getElem?_followMaster (keyed_reconciledStandbys hkeyed),
    getElem?_reconciledStandbys_master hkeyed hstandbys hne hmaster hline, Option.map_some,
    (setupSynchronousStandbys_same _ _).type, hline]
  rfl

theorem getElem?_reconciledStandbys (hne : uid ≠ masterDBUID)
    (h : (reconciledStandbys env masterDBUID standbys best cd).dbs[uid]? = some db')
    : (∃ db, cd.dbs[uid]? = some db ∧ (db' = db ∨ db' = initialized db))
        ∨
      (∃ (n : Nat) (keeper : Keeper),
        uid = env.uidFn n ∧ db' = newStandbyDB uid keeper.uid masterDBUID) := by
  cases getElem?_resizeStandbys h with
  | inl hdb =>
    rw [getElem?_updateSynchronousStandbys] at hdb
    simp only [hne, ↓reduceIte, getElem?_cleanInitMode, Option.map_eq_some_iff] at hdb
    obtain ⟨db, hdb, rfl⟩ := hdb
    refine .inl ⟨db, hdb, ?_⟩
    split
    . exact .inr rfl
    . exact .inl rfl
  | inr hnew =>
    obtain ⟨n, keeper, -, huid, hdb⟩ := hnew
    exact .inr ⟨n, keeper, huid, hdb⟩

end Pipeline

@[simp]
theorem type_initialized (db : DB) : (initialized db).spec.type = db.spec.type := rfl

@[simp]
theorem type_newStandbyDB (keeperUID : String)
    : (newStandbyDB uid keeperUID masterDBUID).spec.type = some .replicaLine := rfl

theorem reconcileStandbys_reconciled (hkeyed : newcd.Keyed) (htyped : newcd.Typed)
    (hfresh : env.Fresh newcd.dbs)
    (hcur : cd.dbs[cd.cluster.status.master]? = some curMasterDB)
    (huid : curMasterDB.uid = cd.cluster.status.master)
    (hmaster : newcd.dbs[cd.cluster.status.master]? = some masterDB)
    (hline : masterDB.spec.type = some .primaryLine)
    (h : s.reconcileStandbys env cd newcd cd.cluster.status.master curMasterDB = .ok (s', newcd'))
    : Reconciled env cd.cluster.status.master newcd newcd' := by
  obtain ⟨standbys, best, hstandbys, heq⟩ := reconcileStandbys_cases h
  rw [← reconciledStandbys] at heq
  have hkeyed₀ : (s.removeUnusableDBs cd newcd cd.cluster.status.master).Keyed :=
    keyed_removeUnusableDBs hkeyed
  have hkeyed₁ : (reconciledStandbys env cd.cluster.status.master standbys best
      (s.removeUnusableDBs cd newcd cd.cluster.status.master)).Keyed :=
    keyed_reconciledStandbys hkeyed₀
  constructor
  case master =>
    refine ⟨cleanInitMode standbys.good (s.removeUnusableDBs cd newcd cd.cluster.status.master),
      standbys.good, best, rfl, ?_⟩
    have hmaster₀ : (s.removeUnusableDBs cd newcd cd.cluster.status.master).dbs[
        cd.cluster.status.master]? = some masterDB := by
      rw [getElem?_removeUnusableDBs_master hkeyed hcur huid]
      exact hmaster
    rw [heq]
    rw [getElem?_followMaster hkeyed₁]
    rw [getElem?_reconciledStandbys_master hkeyed₀ hstandbys (hfresh.ne_of_getElem? hmaster) hmaster₀
      hline]
    rw [hmaster]
    simp [(setupSynchronousStandbys_same _ _).type, hline]
  case standby =>
    intro uid db' hne hdb'
    rw [heq] at hdb'
    rw [getElem?_followMaster hkeyed₁] at hdb'
    obtain ⟨db₁, hdb₁, hdb'⟩ := Option.map_eq_some_iff.mp hdb'
    cases getElem?_reconciledStandbys hne hdb₁ with
    | inl hold =>
      obtain ⟨db, hdb, hclean⟩ := hold
      have hdb₀ := getElem?_removeUnusableDBs hdb
      have htype : db.spec.type = some .replicaLine := by
        cases hdt : db.spec.type with
        | none =>
          have := htyped uid db hdb₀
          simp [hdt] at this
        | some dt =>
          cases dt with
          | primaryLine => exact absurd hdt (type_removeUnusableDBs hkeyed hdb hne)
          | replicaLine => rfl
      refine .inl ⟨db, hdb₀, htype, ?_⟩
      cases hclean with
      | inl hsame => exact .inl (by simpa [hsame, htype] using hdb'.symm)
      | inr hclean => exact .inr (by simpa [hclean, htype] using hdb'.symm)
    | inr hnew =>
      obtain ⟨n, keeper, huid, rfl⟩ := hnew
      refine .inr ⟨n, keeper, huid, ?_⟩
      simpa using hdb'.symm
  all_goals
    rw [heq]
    simp only [followMaster, reconciledStandbys, resizeStandbys]
    split <;> rfl

end Reconcile

end Sentinel
end Hysteron
