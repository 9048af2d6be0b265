import Hysteron.Sentinel.Lemmas.Standbys

/-!
What the set up of the synchronous standbys of a master makes of the required ones, of those known to
be in sync and of those reported to be in sync.
-/

namespace Hysteron
namespace Sentinel

variable {env : Env} {newcd : ClusterData} {good : FinMap String DB} {best : List DB}
variable {uids prev : FinSet String} {eligible : DB → Bool} {count : Nat} {uid : String}
variable {masterDB : DB}

section Next

theorem mem_addUpTo {dbs : List DB} (h : uid ∈ addUpTo eligible count uids dbs)
    : uid ∈ uids ∨ ∃ db ∈ dbs, db.uid = uid ∧ eligible db = true := by
  induction dbs generalizing count uids with
  | nil => exact .inl h
  | cons db dbs ih =>
    unfold addUpTo at h
    split at h
    . exact .inl h
    . split at h
      . obtain hmem | ⟨db', hmem, hdb'⟩ := ih h
        . exact .inl hmem
        . exact .inr ⟨db', List.mem_cons_of_mem _ hmem, hdb'⟩
      . next hskip =>
        obtain hmem | ⟨db', hmem, hdb'⟩ := ih h
        . rw [Std.ExtTreeSet.mem_insert, compare_eq_iff_eq] at hmem
          obtain heq | hmem := hmem
          . refine .inr ⟨db, List.mem_cons_self, heq, ?_⟩
            simp only [Bool.or_eq_true, Bool.not_eq_true', not_or, Bool.not_eq_false] at hskip
            exact hskip.2
          . exact .inl hmem
        . exact .inr ⟨db', List.mem_cons_of_mem _ hmem, hdb'⟩

theorem mem_addUpTo_of_mem {dbs : List DB} (h : uid ∈ uids)
    : uid ∈ addUpTo eligible count uids dbs := by
  induction dbs generalizing count uids with
  | nil => exact h
  | cons db dbs ih =>
    unfold addUpTo
    split
    . exact h
    . split
      . exact ih h
      . exact ih (Std.ExtTreeSet.mem_insert.mpr (.inr h))

theorem mem_of_mem_dropExcess {order : VisitOrder String} (h : uid ∈ dropExcess order count uids)
    : uid ∈ uids :=
  ((FinSet.mem_filter _ _ _).mp h).1

theorem exists_mem_dropExcess (order : VisitOrder String) (count : Nat) (uids : FinSet String)
    (h : count < uids.size)
    : ∃ (uid : String), uid ∈ dropExcess order count uids := by
  have hlength : count < (order.visit uids.toList).length := by
    rw [(order.perm _).length_eq, Std.ExtTreeSet.length_toList]
    exact h
  have hnodup : (order.visit uids.toList).Nodup := by
    apply order.nodup_visit
    refine Std.ExtTreeSet.distinct_toList.imp ?_
    intro a b hne heq
    exact hne (compare_eq_iff_eq.mpr heq)
  refine ⟨(order.visit uids.toList)[count], (FinSet.mem_filter _ _ _).mpr ⟨?_, ?_⟩⟩
  . rw [← Std.ExtTreeSet.mem_toList, ← order.mem_visit]
    exact List.getElem_mem hlength
  . simp only [Bool.not_eq_true', List.contains_eq_mem, decide_eq_false_iff_not]
    intro hmem
    obtain ⟨i, hi, heq⟩ := List.mem_take_iff_getElem.mp hmem
    have := (hnodup.getElem_inj_iff).mp heq
    omega

structure NextStandbys (newcd : ClusterData) (good : FinMap String DB) (best : List DB)
    (prev next : FinSet String) : Prop where
  origin : ∀ uid ∈ next, uid ∈ prev
    ∨ ∃ db ∈ best, db.uid = uid ∧ canBeSynchronousReplica newcd db = true
  known : ∀ uid ∈ next, uid ∈ newcd.dbs ∨ ∃ db ∈ best, db.uid = uid
  merged : (∀ uid ∈ next, uid ∈ prev) ∨ ∀ uid ∈ prev, uid ∈ newcd.dbs → uid ∈ next
  kept : 0 < newcd.cluster.defSpec.maxSynchronousStandbys.toNat
    → (∃ uid ∈ prev, uid ∈ newcd.dbs ∧ uid ∈ good)
    → ∃ uid ∈ next, uid ∈ prev ∧ uid ∈ newcd.dbs ∧ uid ∈ good

theorem nextSynchronousStandbys_spec (hkeyed : newcd.Keyed)
    : NextStandbys newcd good best prev (nextSynchronousStandbys env newcd good best prev) := by
  unfold nextSynchronousStandbys
  dsimp only
  -- The good ones of `prev`, those that are left of them, with the best ones, with previous ones.
  generalize hgood : (prev.filter (fun dbUID => newcd.dbs.contains dbUID)).filter
    (fun dbUID => good.contains dbUID) = kept
  generalize hlimited : dropExcess (env.order .excessSyncStandbys)
    (kept.size - newcd.cluster.defSpec.maxSynchronousStandbys.toNat) kept = limited
  generalize hfilled : addUpTo (canBeSynchronousReplica newcd)
    (newcd.cluster.defSpec.maxSynchronousStandbys.toNat - limited.size) limited best = filled
  generalize hrefilled : addUpTo (fun db => prev.contains db.uid)
    (newcd.cluster.defSpec.minSynchronousStandbys.toNat - filled.size) filled
    (FinMap.valuesIn (env.order .previousSyncStandbys) newcd.dbs) = refilled
  have hkept (uid : String) : uid ∈ kept ↔ uid ∈ prev ∧ uid ∈ newcd.dbs ∧ uid ∈ good := by
    rw [← hgood, FinSet.mem_filter, FinSet.mem_filter]
    simp [and_assoc]
  have hleft (uid : String) (h : uid ∈ limited) : uid ∈ kept := by
    rw [← hlimited] at h
    exact mem_of_mem_dropExcess h
  have hrefill (uid : String) (h : uid ∈ limited) : uid ∈ refilled := by
    rw [← hrefilled, ← hfilled]
    exact mem_addUpTo_of_mem (mem_addUpTo_of_mem h)
  have horigin (uid : String) (h : uid ∈ refilled)
      : (uid ∈ prev ∧ uid ∈ newcd.dbs)
        ∨ ∃ db ∈ best, db.uid = uid ∧ canBeSynchronousReplica newcd db = true := by
    rw [← hrefilled] at h
    obtain h | ⟨db, hmem, rfl, hprev⟩ := mem_addUpTo h
    . rw [← hfilled] at h
      obtain h | hbest := mem_addUpTo h
      . have := (hkept uid).mp (hleft uid h)
        exact .inl ⟨this.1, this.2.1⟩
      . exact .inr hbest
    . obtain ⟨uid, hdb⟩ := (FinMap.mem_valuesIn _ _ _).mp hmem
      refine .inl ⟨Std.ExtTreeSet.contains_iff_mem.mp hprev, ?_⟩
      rw [hkeyed uid db hdb]
      exact Std.ExtTreeMap.mem_iff_isSome_getElem?.mpr (by simp [hdb])
  have hstays (hmax : 0 < newcd.cluster.defSpec.maxSynchronousStandbys.toNat)
      (hsome : ∃ uid ∈ prev, uid ∈ newcd.dbs ∧ uid ∈ good)
      : ∃ uid ∈ refilled, uid ∈ prev ∧ uid ∈ newcd.dbs ∧ uid ∈ good := by
    obtain ⟨uid, huid⟩ := hsome
    have hsize : kept.size ≠ 0 := by
      intro hzero
      rw [← Std.ExtTreeSet.eq_empty_iff_size_eq_zero] at hzero
      have := (hkept uid).mpr huid
      simp [hzero] at this
    obtain ⟨uid', huid'⟩ := exists_mem_dropExcess (env.order .excessSyncStandbys)
      (kept.size - newcd.cluster.defSpec.maxSynchronousStandbys.toNat) kept (by omega)
    rw [hlimited] at huid'
    exact ⟨uid', hrefill uid' huid', (hkept uid').mp (hleft uid' huid')⟩
  split
  . next hany =>
    have hunion (uid : String) : uid ∈ refilled ∪ prev.filter (fun dbUID => newcd.dbs.contains dbUID)
        ↔ uid ∈ refilled ∨ (uid ∈ prev ∧ uid ∈ newcd.dbs) := by
      rw [Std.ExtTreeSet.mem_union_iff, FinSet.mem_filter]
      simp
    refine ⟨?_, ?_, .inr ?_, ?_⟩
    . intro uid h
      obtain h | h := (hunion uid).mp h
      . exact (horigin uid h).imp_left And.left
      . exact .inl h.1
    . intro uid h
      obtain h | h := (hunion uid).mp h
      . obtain h | ⟨db, hmem, huid, -⟩ := horigin uid h
        . exact .inl h.2
        . exact .inr ⟨db, hmem, huid⟩
      . exact .inl h.2
    . intro uid hprev hdb
      exact (hunion uid).mpr (.inr ⟨hprev, hdb⟩)
    . intro hmax hsome
      obtain ⟨uid, hmem, h⟩ := hstays hmax hsome
      exact ⟨uid, (hunion uid).mpr (.inl hmem), h⟩
  . next hall =>
    refine ⟨?_, ?_, .inl ?_, hstays⟩
    . intro uid h
      exact (horigin uid h).imp_left And.left
    . intro uid h
      obtain h | ⟨db, hmem, huid, -⟩ := horigin uid h
      . exact .inl h.2
      . exact .inr ⟨db, hmem, huid⟩
    . intro uid h
      by_contra hprev
      refine hall (List.any_eq_true.mpr ⟨uid, Std.ExtTreeSet.mem_toList.mpr h, ?_⟩)
      rw [Bool.not_eq_true', ← Bool.not_eq_true, Std.ExtTreeSet.contains_iff_mem]
      exact hprev

end Next

section Setup

def knownStandbys (masterDB : DB) : List String :=
  let required := masterDB.spec.synchronousStandbys.elems
  let known := masterDB.status.synchronousStandbys.elems
  if Slices.compareStringSliceNoOrder known required then
    known
  else
    let known := Slices.commonElements known required
    known ++ Slices.difference
      (Slices.commonElements masterDB.status.curSynchronousStandbys.elems required) known

theorem mem_knownStandbys
    : uid ∈ knownStandbys masterDB
        ↔
      uid ∈ masterDB.spec.synchronousStandbys.elems
        ∧
      (uid ∈ masterDB.status.synchronousStandbys.elems
        ∨ uid ∈ masterDB.status.curSynchronousStandbys.elems) := by
  unfold knownStandbys
  dsimp only
  split
  . next hsame =>
    have := (Slices.compareStringSliceNoOrder_iff.mp hsame).mem_iff (a := uid)
    tauto
  . simp only [List.mem_append, Slices.mem_difference, Slices.mem_commonElements]
    tauto

structure Recomputed (env : Env) (newcd : ClusterData) (good : FinMap String DB) (best : List DB)
    (masterDB masterDB' : DB) : Prop where
  cause : (knownStandbys masterDB).Perm masterDB.spec.synchronousStandbys.elems
    ∨ ∃ uid ∈ masterDB.spec.synchronousStandbys.elems,
      uid ∉ knownStandbys masterDB ∧ ¬ (uid ∈ newcd.dbs ∧ uid ∈ good)
  replication : masterDB'.spec.synchronousReplication = true
  required : masterDB'.spec.synchronousStandbys = some (nextSynchronousStandbys env newcd good best
    (Std.ExtTreeSet.ofList (knownStandbys masterDB) compare)).toList
  external : masterDB'.spec.externalSynchronousStandbys
    = some (if (nextSynchronousStandbys env newcd good best
        (Std.ExtTreeSet.ofList (knownStandbys masterDB) compare)).size
          < newcd.cluster.defSpec.minSynchronousStandbys.toNat
      then [fakeStandbyName] else [])
  known : ∃ (known : List String),
    known.Perm (knownStandbys masterDB)
      ∧
    masterDB'.status.synchronousStandbys = some (Slices.commonElements known
      (nextSynchronousStandbys env newcd good best
        (Std.ExtTreeSet.ofList (knownStandbys masterDB) compare)).toList)

structure Awaited (newcd : ClusterData) (good : FinMap String DB) (masterDB masterDB' : DB)
    : Prop where
  differs : ¬ (knownStandbys masterDB).Perm masterDB.spec.synchronousStandbys.elems
  good : ∀ uid ∈ masterDB.spec.synchronousStandbys.elems, uid ∉ knownStandbys masterDB
    → uid ∈ newcd.dbs ∧ uid ∈ good
  replication : masterDB'.spec.synchronousReplication = masterDB.spec.synchronousReplication
  required : masterDB'.spec.synchronousStandbys = masterDB.spec.synchronousStandbys
  external : masterDB'.spec.externalSynchronousStandbys = masterDB.spec.externalSynchronousStandbys
  known : masterDB'.status.synchronousStandbys = some (knownStandbys masterDB)

theorem recomputed_requireSynchronousStandbys {merged : DB}
    (hcause : (knownStandbys masterDB).Perm masterDB.spec.synchronousStandbys.elems
      ∨ ∃ uid ∈ masterDB.spec.synchronousStandbys.elems,
        uid ∉ knownStandbys masterDB ∧ ¬ (uid ∈ newcd.dbs ∧ uid ∈ good))
    (hspec : merged.spec.synchronousStandbys.elems.Perm (knownStandbys masterDB))
    (hstatus : merged.status.synchronousStandbys.elems.Perm (knownStandbys masterDB))
    : Recomputed env newcd good best masterDB
        (requireSynchronousStandbys env newcd good best merged) := by
  have hprev : Std.ExtTreeSet.ofList merged.spec.synchronousStandbys.elems compare
      = Std.ExtTreeSet.ofList (knownStandbys masterDB) compare := by
    apply Std.ExtTreeSet.ext_mem
    intro uid
    simp [hspec.mem_iff]
  unfold requireSynchronousStandbys
  rw [hprev]
  exact ⟨hcause, rfl, rfl, rfl, _, hstatus, rfl⟩

theorem setupSynchronousStandbys_cases (hsync : syncRepl newcd.cluster.defSpec = true)
    : Recomputed env newcd good best masterDB
          (setupSynchronousStandbys env newcd good best masterDB)
        ∨
      Awaited newcd good masterDB (setupSynchronousStandbys env newcd good best masterDB) := by
  have hbad (uid : String) : (!(newcd.dbs.contains uid && good.contains uid)) = true
      ↔ ¬ (uid ∈ newcd.dbs ∧ uid ∈ good) := by
    rw [Bool.not_eq_true', ← Bool.not_eq_true, Bool.and_eq_true, Std.ExtTreeMap.contains_iff_mem,
      Std.ExtTreeMap.contains_iff_mem]
  unfold setupSynchronousStandbys
  rw [if_pos hsync]
  dsimp only
  by_cases hsame : Slices.compareStringSliceNoOrder masterDB.status.synchronousStandbys.elems
      masterDB.spec.synchronousStandbys.elems = true
  . -- All required standbys are known to be in sync.
    have hmerged : mergeReportedStandbys newcd good masterDB = masterDB := by
      unfold mergeReportedStandbys
      simp [hsame]
    have hknown : knownStandbys masterDB = masterDB.status.synchronousStandbys.elems := by
      unfold knownStandbys
      simp [hsame]
    rw [hmerged, if_pos hsame]
    rw [Slices.compareStringSliceNoOrder_iff] at hsame
    left
    apply recomputed_requireSynchronousStandbys
    . rw [hknown]
      exact .inl hsame
    . rw [hknown]
      exact hsame.symm
    . rw [hknown]
  . have hknown : Slices.commonElements masterDB.status.synchronousStandbys.elems
          masterDB.spec.synchronousStandbys.elems
        ++ Slices.difference
          (Slices.commonElements masterDB.status.curSynchronousStandbys.elems
            masterDB.spec.synchronousStandbys.elems)
          (Slices.commonElements masterDB.status.synchronousStandbys.elems
            masterDB.spec.synchronousStandbys.elems)
        = knownStandbys masterDB := by
      unfold knownStandbys
      simp [hsame]
    unfold mergeReportedStandbys
    simp only [hsame, Bool.false_eq_true, if_false, hknown]
    by_cases hfailed : (Slices.difference masterDB.spec.synchronousStandbys.elems
        (knownStandbys masterDB)).any
          (fun dbUID => !(newcd.dbs.contains dbUID && good.contains dbUID)) = true
    . -- Only the known ones stay required.
      have hself : Slices.compareStringSliceNoOrder (Slices.sortStrings (knownStandbys masterDB))
          (Slices.sortStrings (knownStandbys masterDB)) = true :=
        Slices.compareStringSliceNoOrder_iff.mpr (List.Perm.refl _)
      simp only [hfailed, if_true, Slice.elems_some, hself]
      left
      apply recomputed_requireSynchronousStandbys
      . right
        obtain ⟨uid, hmem, huid⟩ := List.any_eq_true.mp hfailed
        rw [Slices.mem_difference] at hmem
        exact ⟨uid, hmem.1, hmem.2, (hbad uid).mp huid⟩
      . exact List.perm_insertionSort _ _
      . exact List.perm_insertionSort _ _
    . simp only [hfailed, Bool.false_eq_true, if_false, Slice.elems_some]
      split
      . next hequal =>
        rw [Slices.compareStringSliceNoOrder_iff] at hequal
        left
        exact recomputed_requireSynchronousStandbys (.inl hequal) hequal.symm (List.Perm.refl _)
      . next hdiffers =>
        rw [Slices.compareStringSliceNoOrder_iff] at hdiffers
        refine .inr ⟨hdiffers, ?_, rfl, rfl, rfl, rfl⟩
        intro uid hmem hnot
        by_contra huid
        exact hfailed (List.any_eq_true.mpr ⟨uid, Slices.mem_difference.mpr ⟨hmem, hnot⟩,
          (hbad uid).mpr huid⟩)

end Setup

end Sentinel
end Hysteron
