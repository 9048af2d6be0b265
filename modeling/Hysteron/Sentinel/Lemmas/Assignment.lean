import Hysteron.Sentinel.Lemmas.Standbys

/-!
The assignment of databases to keepers, and the changes of cluster data that keep it sound.
-/

namespace Hysteron

structure DBSpec.WellRoled (spec : DBSpec) : Prop where
  defined : spec.role ≠ .undefined
  follows : spec.role = .standby → spec.followConfig.isSome = true

structure ClusterData.Assigned (cd : ClusterData) : Prop where
  keyed : cd.Keyed
  keeperKeyed : ∀ (uid : String) (k : Keeper), cd.keepers[uid]? = some k → k.uid = uid
  registered : ∀ (uid : String) (db : DB), cd.dbs[uid]? = some db → db.spec.keeperUID ∈ cd.keepers
  exclusive : ∀ (uid uid' : String) (db db' : DB), cd.dbs[uid]? = some db →
    cd.dbs[uid']? = some db' → db.spec.keeperUID = db'.spec.keeperUID → uid = uid'
  wellRoled : ∀ (uid : String) (db : DB), cd.dbs[uid]? = some db → db.spec.WellRoled

namespace ClusterData.Assigned

variable {cd cd' : ClusterData} {uid : String} {db : DB}

theorem typed (h : cd.Assigned) : cd.Typed := by
  intro uid db hdb
  have hrole := (h.wellRoled uid db hdb).defined
  unfold DBSpec.type
  cases hr : db.spec.role with
  | undefined => exact absurd hr hrole
  | master => rfl
  | standby =>
    dsimp only
    split <;> rfl

theorem of_derived (h : cd.Assigned)
    (hkeeperKeyed : ∀ (uid : String) (k : Keeper), cd'.keepers[uid]? = some k → k.uid = uid)
    (hregistered : ∀ (uid : String) (db : DB), cd.dbs[uid]? = some db →
      cd'.dbs[uid]?.isSome = true → db.spec.keeperUID ∈ cd'.keepers)
    (hdbs : ∀ (uid : String) (db' : DB), cd'.dbs[uid]? = some db' →
      ∃ (db : DB),
        cd.dbs[uid]? = some db
          ∧
        db'.uid = db.uid
          ∧
        db'.spec.keeperUID = db.spec.keeperUID
          ∧
        db'.spec.WellRoled)
    : cd'.Assigned where
  keyed := by
    intro uid db' hdb'
    obtain ⟨db, hdb, huid, -, -⟩ := hdbs uid db' hdb'
    rw [huid]
    exact h.keyed uid db hdb
  keeperKeyed := hkeeperKeyed
  registered := by
    intro uid db' hdb'
    obtain ⟨db, hdb, -, hkeeper, -⟩ := hdbs uid db' hdb'
    rw [hkeeper]
    exact hregistered uid db hdb (by simp [hdb'])
  exclusive := by
    intro uid₁ uid₂ db₁' db₂' hdb₁' hdb₂' heq
    obtain ⟨db₁, hdb₁, -, hkeeper₁, -⟩ := hdbs uid₁ db₁' hdb₁'
    obtain ⟨db₂, hdb₂, -, hkeeper₂, -⟩ := hdbs uid₂ db₂' hdb₂'
    rw [hkeeper₁, hkeeper₂] at heq
    exact h.exclusive uid₁ uid₂ db₁ db₂ hdb₁ hdb₂ heq
  wellRoled := by
    intro uid db' hdb'
    obtain ⟨-, -, -, -, hrole⟩ := hdbs uid db' hdb'
    exact hrole

theorem of_derived_keepers (h : cd.Assigned) (hkeepers : cd'.keepers = cd.keepers)
    (hdbs : ∀ (uid : String) (db' : DB), cd'.dbs[uid]? = some db' →
      ∃ (db : DB),
        cd.dbs[uid]? = some db
          ∧
        db'.uid = db.uid
          ∧
        db'.spec.keeperUID = db.spec.keeperUID
          ∧
        db'.spec.WellRoled)
    : cd'.Assigned :=
  h.of_derived (hkeepers ▸ h.keeperKeyed)
    (fun uid db hdb _ => hkeepers ▸ h.registered uid db hdb) hdbs

theorem insert (h : cd.Assigned) (hdb : db.spec.WellRoled) (hkeeper : db.spec.keeperUID ∈ cd.keepers)
    (hfree : ∀ (uid : String) (db' : DB), cd.dbs[uid]? = some db' →
      db'.spec.keeperUID ≠ db.spec.keeperUID)
    : { cd with dbs := cd.dbs.insert db.uid db : ClusterData }.Assigned := by
  have hlookup (uid : String) (db' : DB) (h' : (cd.dbs.insert db.uid db)[uid]? = some db')
      : (db.uid = uid ∧ db' = db) ∨ cd.dbs[uid]? = some db' := by
    rw [Std.ExtTreeMap.getElem?_insert] at h'
    split at h'
    . next heq =>
      cases h'
      exact .inl ⟨by simpa using heq, rfl⟩
    . exact .inr h'
  constructor
  case keeperKeyed => exact h.keeperKeyed
  case keyed =>
    intro uid db' hdb'
    cases hlookup uid db' hdb' with
    | inl hnew => rw [hnew.2, hnew.1]
    | inr hold => exact h.keyed uid db' hold
  case registered =>
    intro uid db' hdb'
    cases hlookup uid db' hdb' with
    | inl hnew => rw [hnew.2]; exact hkeeper
    | inr hold => exact h.registered uid db' hold
  case wellRoled =>
    intro uid db' hdb'
    cases hlookup uid db' hdb' with
    | inl hnew => rw [hnew.2]; exact hdb
    | inr hold => exact h.wellRoled uid db' hold
  case exclusive =>
    intro uid₁ uid₂ db₁ db₂ hdb₁ hdb₂ heq
    cases hlookup uid₁ db₁ hdb₁ with
    | inl hnew₁ =>
      cases hlookup uid₂ db₂ hdb₂ with
      | inl hnew₂ => rw [← hnew₁.1, ← hnew₂.1]
      | inr hold₂ =>
        rw [hnew₁.2] at heq
        exact absurd heq.symm (hfree uid₂ db₂ hold₂)
    | inr hold₁ =>
      cases hlookup uid₂ db₂ hdb₂ with
      | inl hnew₂ =>
        rw [hnew₂.2] at heq
        exact absurd heq (hfree uid₁ db₁ hold₁)
      | inr hold₂ => exact h.exclusive uid₁ uid₂ db₁ db₂ hold₁ hold₂ heq

end ClusterData.Assigned

namespace Sentinel

variable {env : Env} {s s' : Sentinel} {cd newcd newcd' : ClusterData}
variable {masterDBUID : String} {curMasterDB : DB}

theorem getElem?_removeOldKeepers {db : DB} {uid : String} (h : cd.Assigned)
    (hdb : cd.dbs[uid]? = some db) (now : Time)
    : (removeOldKeepers now cd).keepers[db.spec.keeperUID]? = cd.keepers[db.spec.keeperUID]? := by
  have hmem := h.registered uid db hdb
  obtain ⟨k, hk⟩ := Option.isSome_iff_exists.mp (Std.ExtTreeMap.mem_iff_isSome_getElem?.mp hmem)
  rw [hk]
  apply (FinMap.getElem?_filter_eq_some _ _ _ _).mpr
  refine ⟨hk, ?_⟩
  rw [Bool.or_eq_true]
  left
  rw [FinMap.anyValue_iff]
  exact ⟨uid, db, hdb, by simp [h.keeperKeyed _ k hk]⟩

theorem wellRoled_newStandbyDB (uid keeperUID masterDBUID : String)
    : (newStandbyDB uid keeperUID masterDBUID).spec.WellRoled where
  defined := by simp [newStandbyDB]
  follows := by simp [newStandbyDB]

theorem assigned_addStandbysOn {used : Nat} {keepers : List Keeper} (h : cd.Assigned)
    (hnodup : (keepers.map Keeper.uid).Nodup)
    (hregistered : ∀ k ∈ keepers, k.uid ∈ cd.keepers)
    (hfree : ∀ k ∈ keepers, ∀ (uid : String) (db : DB), cd.dbs[uid]? = some db →
      db.spec.keeperUID ≠ k.uid)
    : { cd with dbs := addStandbysOn env masterDBUID used cd.dbs keepers : ClusterData }.Assigned := by
  induction keepers generalizing used cd with
  | nil => exact h
  | cons keeper keepers ih =>
    rw [List.map_cons, List.nodup_cons] at hnodup
    have hinsert := h.insert (wellRoled_newStandbyDB (env.uidFn used) keeper.uid masterDBUID)
      (hregistered keeper List.mem_cons_self) (hfree keeper List.mem_cons_self)
    refine ih hinsert hnodup.2 ?_ ?_
    . intro k hk
      exact hregistered k (List.mem_cons_of_mem _ hk)
    . intro k hk uid db hdb
      rw [Std.ExtTreeMap.getElem?_insert] at hdb
      split at hdb
      . cases hdb
        intro heq
        have heq : keeper.uid = k.uid := heq
        exact hnodup.1 (heq ▸ List.mem_map_of_mem hk)
      . exact hfree k (List.mem_cons_of_mem _ hk) uid db hdb

theorem mem_freeKeepers_iff {keeper : Keeper}
    : keeper ∈ freeKeepers env cd
        ↔
      (∃ (uid : String), cd.keepers[uid]? = some keeper)
        ∧
      keeper.status.healthy = true
        ∧
      ∀ (uid : String) (db : DB), cd.dbs[uid]? = some db → db.spec.keeperUID ≠ keeper.uid := by
  simp only [freeKeepers, List.mem_filter, Bool.and_eq_true, Bool.not_eq_true',
    FinMap.mem_valuesIn, FinMap.anyValue_eq_false_iff, decide_eq_false_iff_not]

theorem mem_freeKeepers {keeper : Keeper} (h : cd.Assigned) (hmem : keeper ∈ freeKeepers env cd)
    : keeper.uid ∈ cd.keepers
        ∧
      ∀ (uid : String) (db : DB), cd.dbs[uid]? = some db → db.spec.keeperUID ≠ keeper.uid := by
  obtain ⟨⟨uid, hkeeper⟩, -, hfree⟩ := mem_freeKeepers_iff.mp hmem
  refine ⟨?_, hfree⟩
  rw [h.keeperKeyed uid keeper hkeeper]
  rw [Std.ExtTreeMap.mem_iff_isSome_getElem?]
  simp [hkeeper]

theorem freeKeepers_congr (hkeepers : newcd.keepers = cd.keepers)
    (hdbs : ∀ (uid : String), (newcd.dbs[uid]?).map (fun db => db.spec.keeperUID)
      = (cd.dbs[uid]?).map (fun db => db.spec.keeperUID))
    : freeKeepers env newcd = freeKeepers env cd := by
  unfold freeKeepers
  rw [hkeepers]
  apply List.filter_congr
  intro keeper _
  congr 2
  rw [Bool.eq_iff_iff, FinMap.anyValue_iff, FinMap.anyValue_iff]
  have hused (dbs : FinMap String DB) : (∃ (uid : String) (db : DB),
      dbs[uid]? = some db ∧ decide (db.spec.keeperUID = keeper.uid) = true)
        ↔ ∃ (uid : String), (dbs[uid]?).map (fun db => db.spec.keeperUID) = some keeper.uid := by
    simp [Option.map_eq_some_iff]
  rw [hused, hused]
  simp only [hdbs]

theorem nodup_freeKeepers (h : cd.Assigned) : ((freeKeepers env cd).map Keeper.uid).Nodup := by
  have hall := FinMap.nodup_map_valuesIn (env.order .freeKeepers) cd.keepers Keeper.uid h.keeperKeyed
  exact hall.sublist (List.Sublist.map _ List.filter_sublist)

theorem assigned_resizeStandbys {standbys : DBsByStatus} (h : cd.Assigned)
    : (resizeStandbys env masterDBUID standbys cd).Assigned := by
  unfold resizeStandbys
  dsimp only
  split
  . refine h.of_derived_keepers rfl ?_
    intro uid db hdb
    simp only [removeExcessStandbys, FinMap.getElem?_filter_eq_some] at hdb
    exact ⟨db, hdb.1, rfl, rfl, h.wellRoled uid db hdb.1⟩
  . refine assigned_addStandbysOn h ?_ ?_ ?_
    . exact (nodup_freeKeepers h).sublist (List.Sublist.map _ (List.take_sublist _ _))
    . intro k hk
      exact (mem_freeKeepers h (List.mem_of_mem_take hk)).1
    . intro k hk
      exact (mem_freeKeepers h (List.mem_of_mem_take hk)).2

theorem SameButSync.wellRoled {db db' : DB} (h : SameButSync db db') (hrole : db.spec.WellRoled)
    : db'.spec.WellRoled where
  defined := h.role ▸ hrole.defined
  follows := by
    rw [h.role, h.followConfig]
    exact hrole.follows

theorem wellRoled_followerOf (masterDBUID : String) (db : DB)
    : (followerOf masterDBUID db).spec.WellRoled where
  defined := by simp [followerOf]
  follows := by simp [followerOf]

theorem assigned_reconciledStandbys {standbys : DBsByStatus} {best : List DB} (h : cd.Assigned)
    : (reconciledStandbys env masterDBUID standbys best cd).Assigned := by
  refine assigned_resizeStandbys (h.of_derived_keepers rfl ?_)
  intro uid db' hdb'
  rw [getElem?_updateSynchronousStandbys] at hdb'
  have hclean (uid : String) (db₁ : DB)
      (hdb₁ : (cleanInitMode standbys.good cd).dbs[uid]? = some db₁)
      : ∃ (db : DB), cd.dbs[uid]? = some db ∧ db₁.uid = db.uid
        ∧ db₁.spec.keeperUID = db.spec.keeperUID ∧ db₁.spec.WellRoled := by
    rw [getElem?_cleanInitMode] at hdb₁
    obtain ⟨db, hdb, rfl⟩ := Option.map_eq_some_iff.mp hdb₁
    have hrole := h.wellRoled uid db hdb
    split
    . exact ⟨db, hdb, rfl, rfl, hrole.defined, hrole.follows⟩
    . exact ⟨db, hdb, rfl, rfl, hrole⟩
  split at hdb'
  . next heq =>
    rw [← heq] at hdb'
    obtain ⟨db₁, hdb₁, rfl⟩ := Option.map_eq_some_iff.mp hdb'
    obtain ⟨db, hdb, huid, hkeeper, hrole⟩ := hclean uid db₁ hdb₁
    have hsame : SameButSync db₁ (setupSynchronousStandbys env (cleanInitMode standbys.good cd)
        standbys.good best db₁) := setupSynchronousStandbys_same _ _
    exact ⟨db, hdb, hsame.uid.trans huid, hsame.keeperUID.trans hkeeper, hsame.wellRoled hrole⟩
  . exact hclean uid db' hdb'

theorem assigned_followMaster (h : cd.Assigned) : (followMaster masterDBUID cd).Assigned := by
  refine h.of_derived_keepers rfl ?_
  intro uid db' hdb'
  rw [getElem?_followMaster h.keyed] at hdb'
  obtain ⟨db, hdb, rfl⟩ := Option.map_eq_some_iff.mp hdb'
  split
  . exact ⟨db, hdb, rfl, rfl, wellRoled_followerOf _ _⟩
  . exact ⟨db, hdb, rfl, rfl, h.wellRoled uid db hdb⟩

theorem assigned_reconcileStandbys (h : newcd.Assigned)
    (hreconcile : s.reconcileStandbys env cd newcd masterDBUID curMasterDB = .ok (s', newcd'))
    : newcd'.Assigned := by
  obtain ⟨standbys, best, -, heq⟩ := reconcileStandbys_cases hreconcile
  rw [← reconciledStandbys] at heq
  rw [heq]
  refine assigned_followMaster (assigned_reconciledStandbys (h.of_derived_keepers rfl ?_))
  intro uid db hdb
  have hdb := getElem?_removeUnusableDBs hdb
  exact ⟨db, hdb, rfl, rfl, h.wellRoled uid db hdb⟩

end Sentinel
end Hysteron
