import Hysteron.Safety.SyncSet

/-!
The required synchronous standbys of a master are sorted, not repeated, and never the master itself,
in every state of the cluster data.
-/

namespace Hysteron

structure DBSpec.ListsOthers (uid : String) (spec : DBSpec) : Prop where
  sorted : spec.synchronousStandbys.elems.Pairwise (· < ·)
  others : uid ∉ spec.synchronousStandbys.elems

def ClusterData.SyncListed (cd : ClusterData) : Prop :=
  ∀ (masterDB : DB), cd.dbs[cd.cluster.status.master]? = some masterDB →
    masterDB.spec.ListsOthers cd.cluster.status.master

theorem DBSpec.ListsOthers.of_eq {uid : String} {spec spec' : DBSpec} (h : spec.ListsOthers uid)
    (heq : spec'.synchronousStandbys.elems = spec.synchronousStandbys.elems)
    : spec'.ListsOthers uid := by
  constructor
  . rw [heq]
    exact h.sorted
  . rw [heq]
    exact h.others

theorem DBSpec.ListsOthers.of_nil {uid : String} {spec : DBSpec}
    (h : spec.synchronousStandbys.elems = []) : spec.ListsOthers uid := by
  constructor <;> simp [h]

theorem DBSpec.ListsOthers.nodup {uid : String} {spec : DBSpec} (h : spec.ListsOthers uid)
    : spec.synchronousStandbys.elems.Nodup :=
  h.sorted.imp ne_of_lt

namespace Sentinel

variable {env : Env} {s s' : Sentinel} {now : Time} {cd base mid newcd : ClusterData}
variable {pis : ProxiesInfo} {uid masterDBUID : String} {db masterDB : DB}

section Rotation

def rotated (oldUID newUID : String) (uids : List String) : List String :=
  Slices.sortStrings (uids.map (fun uid => if uid ≠ newUID then uid else oldUID))

theorem length_rotated (oldUID newUID : String) (uids : List String)
    : (rotated oldUID newUID uids).length = uids.length := by
  unfold rotated Slices.sortStrings
  rw [List.length_insertionSort, List.length_map]

theorem nodup_rotated {oldUID newUID : String} {uids : List String} (hnodup : uids.Nodup)
    (hold : oldUID ∉ uids) : (rotated oldUID newUID uids).Nodup := by
  unfold rotated Slices.sortStrings
  rw [(List.perm_insertionSort _ _).nodup_iff]
  refine List.Nodup.map_on ?_ hnodup
  intro uid huid uid' huid' heq
  split at heq
  . split at heq
    . exact heq
    . subst heq
      exact absurd huid hold
  . split at heq
    . subst heq
      exact absurd huid' hold
    . next h h' =>
      rw [ne_eq, not_not] at h h'
      rw [h, h']

theorem mem_rotated {oldUID newUID : String} {uids : List String}
    (h : uid ∈ rotated oldUID newUID uids) : uid = oldUID ∨ (uid ∈ uids ∧ uid ≠ newUID) := by
  unfold rotated at h
  rw [Slices.mem_sortStrings, List.mem_map] at h
  obtain ⟨uid', huid', rfl⟩ := h
  split
  . next hne => exact .inr ⟨huid', hne⟩
  . exact .inl rfl

theorem sorted_rotated {oldUID newUID : String} {uids : List String} (hnodup : uids.Nodup)
    (hold : oldUID ∉ uids) : (rotated oldUID newUID uids).Pairwise (· < ·) := by
  have hsorted : (rotated oldUID newUID uids).Pairwise (· ≤ ·) := List.pairwise_insertionSort _ _
  exact (hsorted.and (nodup_rotated hnodup hold)).imp (fun h => lt_of_le_of_ne h.1 h.2)

end Rotation

section Update

theorem listsOthers_setup {good : FinMap String DB} {best : List DB} (hkeyed : newcd.Keyed)
    (hbest : ∀ db ∈ best, db.uid ≠ masterDBUID) (h : masterDB.spec.ListsOthers masterDBUID)
    : (setupSynchronousStandbys env newcd good best masterDB).spec.ListsOthers masterDBUID := by
  by_cases hsync : syncRepl newcd.cluster.defSpec = true
  . have hcases : Recomputed env newcd good best masterDB
        (setupSynchronousStandbys env newcd good best masterDB) ∨ Awaited newcd good masterDB
        (setupSynchronousStandbys env newcd good best masterDB) :=
      setupSynchronousStandbys_cases hsync
    obtain hcase | hcase := hcases
    . constructor
      . rw [hcase.required, Slice.elems_some]
        exact Std.ExtTreeSet.ordered_toList.imp (fun h => compare_lt_iff_lt.mp h)
      . rw [hcase.required, Slice.elems_some, Std.ExtTreeSet.mem_toList]
        intro hmem
        obtain hold | ⟨db, hdb, huid, -⟩ := (nextSynchronousStandbys_spec hkeyed).origin _ hmem
        . rw [Std.ExtTreeSet.mem_ofList, List.contains_iff_mem] at hold
          exact h.others (mem_knownStandbys.mp hold).1
        . exact hbest db hdb huid
    . exact h.of_eq (by rw [hcase.required])
  . unfold setupSynchronousStandbys
    rw [if_neg hsync]
    exact .of_nil rfl

theorem listsOthers_finished (hfinished : Finished cd mid newcd) (h : mid.SyncListed)
    : newcd.SyncListed := by
  intro masterDB hmaster
  obtain ⟨orphans, hdb⟩ := hfinished.getElem?_dbs newcd.cluster.status.master
  rw [hmaster] at hdb
  obtain ⟨midDB, hmidDB, rfl⟩ := Option.map_eq_some_iff.mp hdb.symm
  rw [hfinished.cluster] at hmidDB ⊢
  exact (h midDB hmidDB).of_eq (by simp [finishSpec])

theorem listsOthers_updateFollowers {followed : ClusterData} {curMasterDBUID wanted : String}
    (hfollow : updateFollowers mid curMasterDBUID wanted = .ok followed) (h : mid.SyncListed)
    : followed.SyncListed := by
  obtain ⟨oldMasterDB, followers, hold, rfl⟩ := updateFollowers_cases hfollow
  intro masterDB hmaster
  rw [Std.ExtTreeMap.getElem?_insert] at hmaster
  split at hmaster
  . next heq =>
    rw [compare_eq_iff_eq] at heq
    cases hmaster
    rw [heq] at hold
    exact (h oldMasterDB hold).of_eq rfl
  . exact h masterDB hmaster

theorem listsOthers_initCase (h : cd.SyncListed) (hmid : InitCase env cd mid) : mid.SyncListed := by
  intro masterDB hmaster
  cases hmid with
  | chosen db _ hdb =>
    simp only [addInitialMaster, Std.ExtTreeMap.getElem?_insert_self, Option.some.injEq] at hmaster
    subst hmaster
    exact .of_nil (by rw [hdb.synchronousStandbys]; rfl)
  | awaited => exact h masterDB hmaster
  | completed db _ hdb =>
    simp only [completeInit, Std.ExtTreeMap.getElem?_insert_self, Option.some.injEq] at hmaster
    subst hmaster
    exact (h db hdb).of_eq rfl
  | restarted => simp at hmaster

theorem listsOthers_confirmMasterRole (clusterSpec : DefSpec)
    (h : masterDB.spec.ListsOthers masterDBUID)
    : (confirmMasterRole clusterSpec masterDB).spec.ListsOthers masterDBUID := by
  unfold confirmMasterRole
  split
  . exact h.of_eq rfl
  . exact h

theorem ne_of_mem_findBestStandbys {search : CandidateSearch} {standbys : DBsByStatus}
    {best : List DB} {curMasterDB : DB} (hkeyed : mid.Keyed)
    (hmaster : mid.dbs[masterDBUID]? = some masterDB)
    (hline : masterDB.spec.type = some .primaryLine)
    (hbest : s.findBestStandbys env search (cleanInitMode standbys.good mid) curMasterDB = .ok best)
    (hmem : db ∈ best) : db.uid ≠ masterDBUID := by
  rintro rfl
  obtain ⟨hclean, -⟩ := (mem_findBestStandbys_iff (keyed_cleanInitMode hkeyed) hbest).mp hmem
  have hknown := hclean.known
  rw [getElem?_cleanInitMode, hmaster, Option.map_some, Option.some.injEq] at hknown
  have hreplica := hclean.replica
  rw [← hknown] at hreplica
  split at hreplica
  all_goals
    simp only [type_initialized, hline] at hreplica
    cases hreplica

theorem listsOthers_normalCase {wanted : String} (hsound : cd.Sound)
    (hphase : cd.cluster.status.phase = .normal) (hfresh : env.Fresh cd.dbs)
    (hbase : Base env.now cd base) (h : cd.SyncListed)
    (hmid : NormalCase env cd base pis wanted mid) : mid.SyncListed := by
  intro masterDB' hmaster'
  cases hmid with
  | promoted _ oldMasterDB newMasterDB role followConfig _ hne hpromotion =>
    have hold := hpromotion.old
    have hnew := hpromotion.new
    rw [hbase.dbs] at hold hnew
    have hlists := h oldMasterDB hold
    rw [hpromotion.cluster] at hmaster' ⊢
    rw [hpromotion.getElem?_dbs, if_pos rfl, Option.some.injEq] at hmaster'
    subst hmaster'
    unfold promoted inheritSynchronousStandbys
    dsimp only
    split
    . rw [hsound.assigned.keyed _ _ hold, hsound.assigned.keyed _ _ hnew]
      constructor
      . exact sorted_rotated hlists.nodup hlists.others
      . intro hmem
        obtain heq | ⟨-, hne'⟩ := mem_rotated hmem
        . exact hne heq
        . exact hne' rfl
    . exact .of_nil rfl
  | kept masterDB hmaster =>
    change (confirmMaster base cd.cluster.status.master masterDB pis).dbs[
      base.cluster.status.master]? = some masterDB' at hmaster'
    rw [hbase.master, getElem?_confirmMaster, if_pos rfl, Option.some.injEq] at hmaster'
    change masterDB'.spec.ListsOthers base.cluster.status.master
    rw [hbase.master, ← hmaster']
    rw [hbase.dbs] at hmaster
    exact listsOthers_confirmMasterRole _ (h masterDB hmaster)
  | reconciled masterDB curMasterDB s s' _ hmaster hcur _ hreconcile =>
    have hcluster := reconcileStandbys_cluster hreconcile
    have huid := hsound.assigned.keyed _ _ hcur
    rw [hcluster] at hmaster' ⊢
    change mid.dbs[base.cluster.status.master]? = some masterDB' at hmaster'
    change masterDB'.spec.ListsOthers base.cluster.status.master
    rw [hbase.master] at hmaster' ⊢
    obtain ⟨confirmed, hconfirmed, hline, hsound'⟩
        : ∃ (confirmed : DB),
          (confirmMaster base cd.cluster.status.master masterDB pis).dbs[cd.cluster.status.master]?
            = some confirmed
          ∧ confirmed.spec.type = some .primaryLine
          ∧ (confirmMaster base cd.cluster.status.master masterDB pis).Sound :=
      sound_confirmMaster hsound hphase hbase hmaster
    simp only [reconcileStandbys, Except.bind_eq_ok_iff, Except.pure_eq_ok, Except.ok.injEq,
      Prod.mk.injEq] at hreconcile
    obtain ⟨standbys, hstandbys, best, hbest, -, rfl⟩ := hreconcile
    have husable : (s.removeUnusableDBs cd
        (confirmMaster base cd.cluster.status.master masterDB pis) cd.cluster.status.master).dbs[
          cd.cluster.status.master]? = some confirmed := by
      rw [getElem?_removeUnusableDBs_master hsound'.assigned.keyed hcur huid, hconfirmed]
    have hkeyed : (s.removeUnusableDBs cd
        (confirmMaster base cd.cluster.status.master masterDB pis) cd.cluster.status.master).Keyed :=
      keyed_removeUnusableDBs hsound'.assigned.keyed
    rw [getElem?_confirmMaster, if_pos rfl, Option.some.injEq] at hconfirmed
    rw [hbase.dbs] at hmaster
    have hlists := listsOthers_confirmMasterRole base.cluster.defSpec (h masterDB hmaster)
    rw [hconfirmed] at hlists
    have hsetup := hmaster'.symm.trans (getElem?_followMaster_master hkeyed hstandbys
      (fun n => hfresh.ne_of_getElem? hcur n) husable hline)
    rw [Option.some.inj hsetup]
    exact listsOthers_setup (keyed_cleanInitMode hkeyed)
      (fun db hdb => ne_of_mem_findBestStandbys hkeyed husable hline hbest hdb) hlists

theorem syncListed_updateCluster (hsound : cd.Sound) (hfresh : env.Fresh cd.dbs) (h : cd.SyncListed)
    (hrun : s.updateCluster env cd pis = .ok (s', newcd)) : newcd.SyncListed := by
  cases updateCluster_cases hrun with
  | paused _ heq =>
    rw [heq]
    exact h
  | initializing _ mid hmid hfinish =>
    exact listsOthers_finished (finishUpdate_finished hfinish) (listsOthers_initCase h hmid)
  | normal hphase base mid followed wanted _ hbase hmid hfollow hfinish =>
    exact listsOthers_finished (finishUpdate_finished hfinish) (listsOthers_updateFollowers hfollow
      (listsOthers_normalCase hsound hphase hfresh hbase h hmid))

end Update

end Sentinel

variable {cd cd' : ClusterData}

theorem Operations.Effect.syncListed {c : Operations.Command} (heffect : Effect cd c cd')
    (h : cd.SyncListed) : cd'.SyncListed := by
  intro masterDB hmaster
  rw [heffect.master]
  exact h masterDB (heffect.getElem?_master hmaster)

theorem syncListed_clusterStep (hsound : cd.Sound) (h : cd.SyncListed) (hstep : ClusterStep cd cd')
    : cd'.SyncListed := by
  cases hstep with
  | command now c hrun => exact (Operations.command_effect c hsound.assigned hrun).syncListed h
  | updateKeepersStatus s s' now published firstRun kihs hrun =>
    intro masterDB' hmaster'
    obtain ⟨masterDB, hmaster, -, hspec⟩ := Sentinel.updateKeepersStatus_db_origin hrun hmaster'
    rw [Sentinel.updateKeepersStatus_cluster hrun] at hmaster ⊢
    rw [hspec]
    exact h masterDB hmaster
  | updateCluster env s s' pis hfresh hrun =>
    exact Sentinel.syncListed_updateCluster hsound hfresh h hrun
  | stored =>
    intro masterDB' hmaster'
    simp only [ClusterData.roundTrip, Std.ExtTreeMap.getElem?_map, Option.map_eq_some_iff] at hmaster'
    obtain ⟨masterDB, hmaster, rfl⟩ := hmaster'
    exact (h masterDB hmaster).of_eq (by simp [DB.roundTrip, DBSpec.roundTrip])

theorem syncListed_inductive
    : clusterDataSystem.Inductive (fun cd => cd.Sound ∧ cd.SyncListed) where
  init := by
    rintro _ ⟨uid, spec, rfl⟩
    refine ⟨sound_newClusterData uid spec, ?_⟩
    intro masterDB hmaster
    simp [newClusterData] at hmaster
  step := fun _ _ ⟨hsound, h⟩ hstep =>
    ⟨sound_clusterStep hsound hstep, syncListed_clusterStep hsound h hstep⟩
end Hysteron
