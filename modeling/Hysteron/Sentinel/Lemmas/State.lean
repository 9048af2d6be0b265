import Hysteron.Sentinel.State

/-!
What merging the published keeper state does to each keeper and each database.
-/

namespace Hysteron

def KeepersInfo.Keyed (keepersInfo : KeepersInfo) : Prop :=
  ∀ (uid : String) (ki : KeeperInfo), keepersInfo[uid]? = some ki → ki.uid = uid

theorem keyed_getKeepersInfo (published : List KeeperInfo)
    : KeepersInfo.Keyed (getKeepersInfo published) := by
  have hfold (infos : KeepersInfo) (hinfos : KeepersInfo.Keyed infos)
      : KeepersInfo.Keyed
          (published.foldl (fun keepers ki => keepers.insert ki.uid ki) infos) := by
    induction published generalizing infos with
    | nil => exact hinfos
    | cons ki published ih =>
      refine ih (infos.insert ki.uid ki) ?_
      intro uid ki' hki'
      rw [Std.ExtTreeMap.getElem?_insert] at hki'
      split at hki'
      . next heq =>
        cases hki'
        simpa using heq
      . exact hinfos uid ki' hki'
  refine hfold ∅ ?_
  intro uid ki hki
  simp at hki

theorem getElem?_foldl_insert {published : List KeeperInfo} {infos : KeepersInfo} {uid : String}
    {ki : KeeperInfo}
    (h : (published.foldl (fun keepers ki => keepers.insert ki.uid ki) infos)[uid]? = some ki)
    : ki ∈ published ∨ infos[uid]? = some ki := by
  induction published generalizing infos with
  | nil => exact .inr h
  | cons first published ih =>
    cases ih h with
    | inl hmem => exact .inl (List.mem_cons_of_mem _ hmem)
    | inr hinsert =>
      rw [Std.ExtTreeMap.getElem?_insert] at hinsert
      split at hinsert
      . cases hinsert
        exact .inl List.mem_cons_self
      . exact .inr hinsert

theorem mem_of_getKeepersInfo {published : List KeeperInfo} {uid : String} {ki : KeeperInfo}
    (h : (getKeepersInfo published)[uid]? = some ki) : ki ∈ published := by
  cases getElem?_foldl_insert h with
  | inl hmem => exact hmem
  | inr hnone => simp at hnone

namespace Sentinel

variable {s s' : Sentinel} {now : Time} {cd cd' : ClusterData} {keepersInfo fresh : KeepersInfo}
variable {firstRun : Bool} {kihs : FinMap String KeeperInfoHistory} {uid : String}

theorem getElem?_freshKeepersInfo {ki : KeeperInfo}
    : (s.freshKeepersInfo now cd keepersInfo)[uid]? = some ki
        ↔
      keepersInfo[uid]? = some ki ∧ ki.clusterUID = cd.cluster.uid
        ∧ s.isFreshInfo now uid ki = true := by
  simp only [freshKeepersInfo, ownKeepersInfo, FinMap.getElem?_filter_eq_some, decide_eq_true_eq]
  tauto

theorem keyed_freshKeepersInfo (h : KeepersInfo.Keyed keepersInfo)
    : KeepersInfo.Keyed (s.freshKeepersInfo now cd keepersInfo) := by
  intro uid ki hki
  exact h uid ki (getElem?_freshKeepersInfo.mp hki).1

theorem getElem?_addNewKeepers (hkeyed : KeepersInfo.Keyed fresh) (keepers : FinMap String Keeper)
    : (addNewKeepers now fresh keepers)[uid]?
        =
      (keepers[uid]?).or ((fresh[uid]?).map (fun ki => newKeeperFromKeeperInfo ki now)) := by
  unfold addNewKeepers
  rw [FinMap.foldl_get (fun (m : FinMap String Keeper) k => m[k]?) _
    (fun _ ki old => old.or (some (newKeeperFromKeeperInfo ki now))) fresh]
  . cases fresh[uid]? with
    | none => simp
    | some ki => rfl
  . intro m uid ki hki
    split
    . next hmem =>
      rw [Std.ExtTreeMap.contains_iff_mem, Std.ExtTreeMap.mem_iff_isSome_getElem?] at hmem
      cases hm : m[uid]? with
      | none => simp [hm] at hmem
      | some k => rfl
    . next hmem =>
      rw [Std.ExtTreeMap.contains_iff_mem, Std.ExtTreeMap.mem_iff_isSome_getElem?] at hmem
      rw [hkeyed uid ki hki]
      cases hm : m[uid]? with
      | none => simp
      | some k => simp [hm] at hmem
  . intro m uid ki uid' hki hne
    split
    . rfl
    . rw [hkeyed uid ki hki]
      simp [Std.ExtTreeMap.getElem?_insert, Ne.symm hne]

structure Merged (s s' : Sentinel) (now : Time) (cd cd' : ClusterData) (fresh : KeepersInfo)
    : Prop where
  formatVersion : cd'.formatVersion = cd.formatVersion
  cluster : cd'.cluster = cd.cluster
  proxy : cd'.proxy = cd.proxy
  getElem?_keepers : ∀ (uid : String),
    cd'.keepers[uid]?
      =
    ((mergedKeepers now fresh cd)[uid]?).map
      ((s.updateKeeperErrors now fresh (mergedKeepers now fresh cd)).updateKeeperHealth now cd)
  getElem?_dbs : ∀ (uid : String),
    cd'.dbs[uid]?
      =
    (cd.dbs[uid]?).map (fun db => s'.updateDBHealth now cd cd'.keepers (mergeReport fresh db))

theorem updateKeepersStatus_merged
    (h : s.updateKeepersStatus now cd keepersInfo false = .ok (s', cd', kihs))
    : Merged s s' now cd cd' (s.freshKeepersInfo now cd keepersInfo) := by
  unfold updateKeepersStatus at h
  dsimp only at h
  split at h
  . next hfirst => cases hfirst
  . split at h
    . cases h
    . cases h
      constructor
      case getElem?_keepers =>
        intro uid
        rw [Std.ExtTreeMap.getElem?_map]
        rfl
      case getElem?_dbs =>
        intro uid
        rw [Std.ExtTreeMap.getElem?_map]
        rfl
      all_goals rfl

theorem updateKeepersStatus_firstRun
    (h : s.updateKeepersStatus now cd keepersInfo true = .ok (s', cd', kihs))
    : s' = s ∧ cd' = cd := by
  unfold updateKeepersStatus at h
  cases h
  exact ⟨rfl, rfl⟩

theorem updateKeepersStatus_cluster
    (h : s.updateKeepersStatus now cd keepersInfo firstRun = .ok (s', cd', kihs))
    : cd'.cluster = cd.cluster := by
  cases firstRun with
  | true => rw [(updateKeepersStatus_firstRun h).2]
  | false => exact (updateKeepersStatus_merged h).cluster

section Merged

theorem getElem?_mergedKeepers (hkeyed : KeepersInfo.Keyed fresh)
    : (mergedKeepers now fresh cd)[uid]?
        =
      ((cd.keepers[uid]?).or ((fresh[uid]?).map (fun ki => newKeeperFromKeeperInfo ki now))).map
        (fun k =>
          match fresh[uid]? with
          | some ki => mergeKeeperInfo ki k
          | none => k) := by
  unfold mergedKeepers
  rw [Std.ExtTreeMap.getElem?_map]
  exact congrArg (Option.map _) (getElem?_addNewKeepers hkeyed cd.keepers)

theorem mergedKeepers_keyed {k : Keeper} (hkeyed : KeepersInfo.Keyed fresh)
    (hkeeperKeyed : ∀ (uid : String) (k : Keeper), cd.keepers[uid]? = some k → k.uid = uid)
    (hk : (mergedKeepers now fresh cd)[uid]? = some k)
    : k.uid = uid
        ∧
      (k.status.forceFail = true →
        ∃ (k₀ : Keeper), cd.keepers[uid]? = some k₀ ∧ k₀.status.forceFail = true) := by
  rw [getElem?_mergedKeepers hkeyed] at hk
  obtain ⟨k₀, hk₀, rfl⟩ := Option.map_eq_some_iff.mp hk
  have hkeeps : (match fresh[uid]? with
      | some ki => mergeKeeperInfo ki k₀
      | none => k₀).uid = k₀.uid
        ∧
      (match fresh[uid]? with
      | some ki => mergeKeeperInfo ki k₀
      | none => k₀).status.forceFail = k₀.status.forceFail := by
    split <;> exact ⟨rfl, rfl⟩
  rw [hkeeps.1, hkeeps.2]
  cases Option.or_eq_some_iff.mp hk₀ with
  | inl hold => exact ⟨hkeeperKeyed uid k₀ hold, fun h => ⟨k₀, hold, h⟩⟩
  | inr hnew =>
    obtain ⟨ki, hki, rfl⟩ := Option.map_eq_some_iff.mp hnew.2
    exact ⟨hkeyed uid ki hki, fun h => by cases h⟩

theorem Merged.keeper_cases (h : Merged s s' now cd cd' fresh) (hkeyed : KeepersInfo.Keyed fresh)
    {k' : Keeper} (hk' : cd'.keepers[uid]? = some k')
    : ∃ (k : Keeper),
        k'.uid = k.uid
          ∧
        (cd.keepers[uid]? = some k
          ∨ ∃ (ki : KeeperInfo), fresh[uid]? = some ki ∧ k = newKeeperFromKeeperInfo ki now) := by
  rw [h.getElem?_keepers, getElem?_mergedKeepers hkeyed, Option.map_map] at hk'
  obtain ⟨k, hk, rfl⟩ := Option.map_eq_some_iff.mp hk'
  refine ⟨k, ?_, ?_⟩
  . simp only [Function.comp_apply, updateKeeperHealth]
    split <;> rfl
  . rw [Option.or_eq_some_iff] at hk
    cases hk with
    | inl hold => exact .inl hold
    | inr hnew =>
      obtain ⟨ki, hki, rfl⟩ := Option.map_eq_some_iff.mp hnew.2
      exact .inr ⟨ki, hki, rfl⟩

theorem Merged.mem_keepers (h : Merged s s' now cd cd' fresh) (hkeyed : KeepersInfo.Keyed fresh)
    (hmem : uid ∈ cd.keepers) : uid ∈ cd'.keepers := by
  rw [Std.ExtTreeMap.mem_iff_isSome_getElem?] at hmem ⊢
  rw [h.getElem?_keepers, getElem?_mergedKeepers hkeyed]
  simp [hmem]

@[simp]
theorem updateDBHealth_mergeReport_keeps (s : Sentinel) (keepers : FinMap String Keeper) (db : DB)
    : (s.updateDBHealth now cd keepers (mergeReport fresh db)).uid = db.uid
        ∧
      (s.updateDBHealth now cd keepers (mergeReport fresh db)).generation = db.generation
        ∧
      (s.updateDBHealth now cd keepers (mergeReport fresh db)).spec = db.spec := by
  unfold updateDBHealth mergeReport
  dsimp only
  split <;> exact ⟨rfl, rfl, rfl⟩

theorem healthy_updateDBHealth_mergeReport (s : Sentinel) (keepers : FinMap String Keeper) (db : DB)
    : (s.updateDBHealth now cd keepers (mergeReport fresh db)).status.healthy
        =
      (!timerExpired s.dbErrorTimers now cd.cluster.defSpec.failInterval db.uid
        && (keepers[db.spec.keeperUID]?).any (fun k => k.status.healthy)) := by
  unfold updateDBHealth mergeReport
  dsimp only
  split <;> rfl

theorem updateKeepersStatus_db {db : DB}
    (h : s.updateKeepersStatus now cd keepersInfo firstRun = .ok (s', cd', kihs))
    (hdb : cd.dbs[uid]? = some db)
    : ∃ (db' : DB),
        cd'.dbs[uid]? = some db' ∧ db'.generation = db.generation ∧ db'.spec = db.spec := by
  cases firstRun with
  | true =>
    rw [(updateKeepersStatus_firstRun h).2]
    exact ⟨db, hdb, rfl, rfl⟩
  | false =>
    rw [(updateKeepersStatus_merged h).getElem?_dbs, hdb]
    exact ⟨_, rfl, by simp, by simp⟩

theorem updateKeepersStatus_db_origin {db' : DB}
    (h : s.updateKeepersStatus now cd keepersInfo firstRun = .ok (s', cd', kihs))
    (hdb' : cd'.dbs[uid]? = some db')
    : ∃ (db : DB), cd.dbs[uid]? = some db ∧ db'.generation = db.generation ∧ db'.spec = db.spec := by
  cases firstRun with
  | true =>
    rw [(updateKeepersStatus_firstRun h).2] at hdb'
    exact ⟨db', hdb', rfl, rfl⟩
  | false =>
    rw [(updateKeepersStatus_merged h).getElem?_dbs] at hdb'
    obtain ⟨db, hdb, rfl⟩ := Option.map_eq_some_iff.mp hdb'
    exact ⟨db, hdb, by simp, by simp⟩

theorem updateKeepersStatus_known {db' : DB}
    (h : s.updateKeepersStatus now cd keepersInfo firstRun = .ok (s', cd', kihs))
    (hdb' : cd'.dbs[uid]? = some db')
    : ∃ (db : DB),
        cd.dbs[uid]? = some db
          ∧
        db'.spec = db.spec
          ∧
        db'.status.synchronousStandbys = db.status.synchronousStandbys := by
  cases firstRun with
  | true =>
    rw [(updateKeepersStatus_firstRun h).2] at hdb'
    exact ⟨db', hdb', rfl, rfl⟩
  | false =>
    rw [(updateKeepersStatus_merged h).getElem?_dbs] at hdb'
    obtain ⟨db, hdb, rfl⟩ := Option.map_eq_some_iff.mp hdb'
    refine ⟨db, hdb, by simp, ?_⟩
    unfold updateDBHealth mergeReport mergeDBState
    dsimp only
    split
    . rfl
    . dsimp only
      split <;> rfl

end Merged

end Sentinel
end Hysteron
