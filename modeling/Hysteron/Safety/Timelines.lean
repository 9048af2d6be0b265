import Hysteron.Keeper.PGState
import Hysteron.Util.Except
import Hysteron.Util.ForkTree

/-!
How far the comparison of timelines can be trusted. The timelines of a cluster form a tree of
branches, of which the comparison looks at single entries of the histories. The first part says for
which pairs of instances its verdict is the one of the tree, the second one for which pairs the
verdict survives the cut of the published histories.
-/

namespace Hysteron

variable {f c pos i max : Nat} {hf hc pf pc h : PostgresTimelinesHistory}

section Lookup

theorem getTimelineHistory_eq_none_iff
    : h.getTimelineHistory i = none ↔ ∀ e ∈ h, e.timelineID ≠ i := by
  simp [PostgresTimelinesHistory.getTimelineHistory]

theorem mem_of_getTimelineHistory {e : PostgresTimelineHistory}
    (hfind : h.getTimelineHistory i = some e) : e ∈ h ∧ e.timelineID = i := by
  unfold PostgresTimelinesHistory.getTimelineHistory at hfind
  refine ⟨List.mem_of_find?_eq_some hfind, ?_⟩
  simpa using List.find?_some hfind

theorem detect_of_lt (hlt : f < c)
    : (detectTimelineBranchDivergence f hf c hc pos).different = true := by
  unfold detectTimelineBranchDivergence
  rw [if_pos hlt]

theorem detect_of_eq
    : (detectTimelineBranchDivergence c hf c hc pos).different = true
        ↔
      1 < c
        ∧
      ∃ e e',
        hf.getTimelineHistory (c - 1) = some e
          ∧
        hc.getTimelineHistory (c - 1) = some e'
          ∧
        e.switchPoint ≠ e'.switchPoint := by
  unfold detectTimelineBranchDivergence
  rw [if_neg (Nat.lt_irrefl c), if_pos rfl]
  split
  . next hle =>
    simp only [Bool.false_eq_true, false_iff]
    omega
  . next hle =>
    split
    . next e e' he he' =>
      split
      . next hne =>
        simp only [true_iff]
        exact ⟨by omega, e, e', he, he', hne⟩
      . next heq =>
        simp only [Bool.false_eq_true, false_iff]
        rintro ⟨-, e₁, e₁', he₁, he₁', hne⟩
        rw [he] at he₁
        cases he₁
        rw [he'] at he₁'
        cases he₁'
        exact heq hne
    . next hnone =>
      simp only [Bool.false_eq_true, false_iff]
      rintro ⟨-, e, e', he, he', -⟩
      exact hnone e e' he he'

theorem detect_of_gt (hlt : c < f)
    : (detectTimelineBranchDivergence f hf c hc pos).different = true
        ↔
      ∃ e, hf.getTimelineHistory c = some e ∧ e.switchPoint < pos := by
  unfold detectTimelineBranchDivergence
  rw [if_neg (by omega), if_neg (by omega)]
  split
  . next e he =>
    split
    . next hforked =>
      simp only [true_iff]
      exact ⟨e, he, hforked⟩
    . next hforked =>
      simp only [Bool.false_eq_true, false_iff]
      rintro ⟨e', he', hforked'⟩
      rw [he] at he'
      cases he'
      exact hforked hforked'
  . next hnone => simp [hnone]

end Lookup

section Exact

variable {ι : Type u} {t : ForkTree ι} {followed current : ι}

def CompleteHistory (t : ForkTree ι) (b : ι) (h : PostgresTimelinesHistory) : Prop :=
  t.History b (h.map (fun e => (e.timelineID, e.switchPoint)))

theorem CompleteHistory.lookup_iff {b : ι} {p : Nat} (hcomplete : CompleteHistory t b h)
    : (∃ e, h.getTimelineHistory i = some e ∧ e.switchPoint = p)
        ↔
      ∃ (a : ι), t.id a = i ∧ t.Leaves a b p := by
  have hmem (i p : Nat) := hcomplete.mem_iff (i := i) (p := p)
  constructor
  . rintro ⟨e, he, rfl⟩
    obtain ⟨hin, rfl⟩ := mem_of_getTimelineHistory he
    rw [← hmem]
    apply List.mem_map_of_mem hin
  . rintro ⟨a, rfl, hleaves⟩
    obtain ⟨e, hin, heq⟩ := List.mem_map.mp ((hmem (t.id a) p).mpr ⟨a, rfl, hleaves⟩)
    cases hfind : h.getTimelineHistory (t.id a) with
    | none =>
      rw [getTimelineHistory_eq_none_iff] at hfind
      exact absurd (congrArg Prod.fst heq) (hfind e hin)
    | some e' =>
      refine ⟨e', rfl, ?_⟩
      -- Another entry of the same id would belong to another ancestor of the same id.
      obtain ⟨hin', hid'⟩ := mem_of_getTimelineHistory hfind
      obtain ⟨a', hid, hleaves'⟩ := (hmem (t.id a) e'.switchPoint).mp
        (by rw [← hid']; exact List.mem_map_of_mem hin')
      exact (hleaves'.unique hleaves hid).2

/--
The pairs of branches and positions on which the comparison of the histories sees enough of the tree:
the current branch is newer; or both have one id and are the same branch, or fork at different points
off branches with the id before theirs; or the lineage of the followed one passes the id of the
current one, on the current branch itself or on one that it left before the current position.
-/
def Comparable (t : ForkTree ι) (followed current : ι) (pos : Nat) : Prop :=
  t.id followed < t.id current
    ∨
  (t.id followed = t.id current
    ∧
  (followed = current
    ∨
  ∃ (a a' : ι),
    t.parent followed = some a
      ∧
    t.parent current = some a'
      ∧
    t.id a + 1 = t.id followed
      ∧
    t.id a' + 1 = t.id current
      ∧
    t.forkPoint followed ≠ t.forkPoint current))
    ∨
  (t.id current < t.id followed
    ∧
  ∃ (a : ι) (p : Nat), t.id a = t.id current ∧ t.Leaves a followed p ∧ (a = current ∨ p < pos))

theorem detect_same_id_iff (hid : t.id followed = t.id current)
    (hfollowed : CompleteHistory t followed hf) (hcurrent : CompleteHistory t current hc)
    : (detectTimelineBranchDivergence (t.id followed) hf (t.id current) hc pos).different = true
        ↔
      ∃ (a a' : ι),
        t.parent followed = some a
          ∧
        t.parent current = some a'
          ∧
        t.id a + 1 = t.id followed
          ∧
        t.id a' + 1 = t.id current
          ∧
        t.forkPoint followed ≠ t.forkPoint current := by
  rw [hid, detect_of_eq]
  constructor
  . rintro ⟨hlt, e, e', he, he', hne⟩
    obtain ⟨a, ha, hleaves⟩ := hfollowed.lookup_iff.mp ⟨e, he, rfl⟩
    obtain ⟨a', ha', hleaves'⟩ := hcurrent.lookup_iff.mp ⟨e', he', rfl⟩
    obtain ⟨hparent, hpoint⟩ := hleaves.parent_of_succ (by omega)
    obtain ⟨hparent', hpoint'⟩ := hleaves'.parent_of_succ (by omega)
    rw [hpoint, hpoint'] at hne
    exact ⟨a, a', hparent, hparent', by omega, by omega, hne⟩
  . rintro ⟨a, a', hparent, hparent', ha, ha', hne⟩
    obtain ⟨e, he, hpoint⟩ := hfollowed.lookup_iff.mpr ⟨a, rfl, .fork hparent⟩
    obtain ⟨e', he', hpoint'⟩ := hcurrent.lookup_iff.mpr ⟨a', rfl, .fork hparent'⟩
    have hpos := hfollowed.parent_id_pos hparent
    refine ⟨by omega, e, e', ?_, ?_, by omega⟩
    . rw [← he]
      congr 1
      omega
    . rw [← he']
      congr 1
      omega

theorem detect_older_iff (hlt : t.id current < t.id followed)
    (hfollowed : CompleteHistory t followed hf)
    : (detectTimelineBranchDivergence (t.id followed) hf (t.id current) hc pos).different = true
        ↔
      ∃ (a : ι) (p : Nat), t.id a = t.id current ∧ t.Leaves a followed p ∧ p < pos := by
  rw [detect_of_gt hlt]
  constructor
  . rintro ⟨e, he, hforked⟩
    obtain ⟨a, ha, hleaves⟩ := hfollowed.lookup_iff.mp ⟨e, he, rfl⟩
    exact ⟨a, _, ha, hleaves, hforked⟩
  . rintro ⟨a, p, ha, hleaves, hforked⟩
    obtain ⟨e, he, rfl⟩ := hfollowed.lookup_iff.mpr ⟨a, ha, hleaves⟩
    exact ⟨e, he, hforked⟩

/--
With complete histories, the verdict on two instances is the one of the tree exactly when they are
comparable.
-/
theorem detectTimelineBranchDivergence_exact_iff {ι : Type u} (t : ForkTree ι) (followed current : ι)
    (pos : Nat) (hf hc : PostgresTimelinesHistory) (hfollowed : CompleteHistory t followed hf)
    (hcurrent : CompleteHistory t current hc)
    : ((detectTimelineBranchDivergence (t.id followed) hf (t.id current) hc pos).different = false
        ↔
      t.OnLineage current pos followed)
        ↔
      Comparable t followed current pos := by
  unfold Comparable
  rw [← Bool.not_eq_true]
  rcases Nat.lt_trichotomy (t.id followed) (t.id current) with hlt | heq | hgt
  . simp [detect_of_lt hlt, ForkTree.not_onLineage_of_id_lt hlt, hlt]
  . rw [detect_same_id_iff heq hfollowed hcurrent, ForkTree.onLineage_iff_eq heq.symm]
    simp only [heq, Nat.lt_irrefl, false_and, or_false, false_or, true_and]
    constructor
    . intro hexact
      by_cases hsame : followed = current
      . exact .inl hsame
      . right
        apply Classical.byContradiction
        intro hseen
        exact hsame (hexact.mp hseen).symm
    . rintro (rfl | hseen)
      . simp
      . constructor
        . intro hunseen
          exact absurd hseen hunseen
        . rintro rfl
          obtain ⟨-, -, -, -, -, -, hne⟩ := hseen
          exact absurd rfl hne
  . rw [detect_older_iff hgt hfollowed, ForkTree.onLineage_iff_leaves hgt]
    have hnlt : ¬ t.id followed < t.id current := by omega
    have hne : t.id followed ≠ t.id current := by omega
    simp only [hnlt, hne, hgt, false_and, false_or, true_and]
    constructor
    . intro hexact
      by_cases hleft : ∃ (a : ι) (p : Nat), t.id a = t.id current ∧ t.Leaves a followed p ∧ p < pos
      . obtain ⟨a, p, ha, hleaves, hforked⟩ := hleft
        exact ⟨a, p, ha, hleaves, .inr hforked⟩
      . obtain ⟨q, hleaves, -⟩ := hexact.mp hleft
        exact ⟨current, q, rfl, hleaves, .inl rfl⟩
    . rintro ⟨a, p, ha, hleaves, hsees⟩
      constructor
      . intro hnot
        cases hsees with
        | inl heq =>
          subst heq
          refine ⟨p, hleaves, ?_⟩
          apply Nat.le_of_not_lt
          intro hforked
          exact hnot ⟨a, p, rfl, hleaves, hforked⟩
        | inr hforked => exact absurd ⟨a, p, ha, hleaves, hforked⟩ hnot
      . rintro ⟨q, hcur, hle⟩ ⟨a', p', ha', hleaves', hforked⟩
        have := (hcur.unique hleaves' ha'.symm).2
        omega

/--
Two promotions of the first timeline, at the positions 10 and 20, that were both given the id 3.
-/
def sampleTree : ForkTree (Fin 3) where
  root := 0
  parent b := if b = 0 then none else some 0
  id b := if b = 0 then 1 else 3
  forkPoint b := 10 * b
  parent_eq_none_iff := by decide
  id_root := by decide
  id_lt := by decide
  forkPoint_le := by decide
  forks_distinct := by decide

theorem completeHistory_sampleTree (b : Fin 3) (hb : b ≠ 0)
    : CompleteHistory sampleTree b [{ timelineID := 1, switchPoint := 10 * b }] := by
  have hparent : sampleTree.parent b = some sampleTree.root := by
    revert b
    decide
  exact .fork hparent .root

/--
The two branches of the sample tree are not told apart, since neither history has the id before
theirs.
-/
theorem detectTimelineBranchDivergence_misses
    : ∃ (t : ForkTree (Fin 3)) (followed current : Fin 3) (pos : Nat)
        (hf hc : PostgresTimelinesHistory),
        CompleteHistory t followed hf
          ∧
        CompleteHistory t current hc
          ∧
        t.forkPoint current ≤ pos
          ∧
        (detectTimelineBranchDivergence (t.id followed) hf (t.id current) hc pos).different = false
          ∧
        ¬ t.OnLineage current pos followed := by
  refine ⟨sampleTree, 1, 2, 25, _, _, completeHistory_sampleTree 1 (by decide),
    completeHistory_sampleTree 2 (by decide), by decide, by decide, ?_⟩
  rw [ForkTree.onLineage_iff_eq (by decide)]
  decide

theorem detectTimelineBranchDivergence_exact_iff_sample
    : ((detectTimelineBranchDivergence 3 [{ timelineID := 1, switchPoint := 10 }] 1 [] 5).different
          = false
        ↔
      sampleTree.OnLineage 0 5 1)
        ↔
      Comparable sampleTree 1 0 5 :=
  detectTimelineBranchDivergence_exact_iff sampleTree 1 0 5 [{ timelineID := 1, switchPoint := 10 }] []
    (completeHistory_sampleTree 1 (by decide)) .root

end Exact

section Published

def newerEntries (h : PostgresTimelinesHistory) (id : Nat) : List PostgresTimelineHistory :=
  h.filter (fun e => id < e.timelineID)

def Increasing (h : PostgresTimelinesHistory) : Prop :=
  h.Pairwise (fun e e' => e.timelineID < e'.timelineID)

theorem getTimeLinesHistory_eq (timelineID max : Nat) (h : PostgresTimelinesHistory)
    : Keeper.getTimeLinesHistory timelineID (.ok h) max
        =
      .ok (if 1 < timelineID then h.drop (h.length - max) else []) := by
  unfold Keeper.getTimeLinesHistory
  split
  . simp only [Except.bind_ok]
    split
    . rfl
    . next hle =>
      have hzero : h.length - max = 0 := by omega
      rw [hzero]
      rfl
  . rfl

theorem mem_latest_iff {e : PostgresTimelineHistory} (hsorted : Increasing h) (he : e ∈ h)
    : e ∈ h.drop (h.length - max) ↔ (newerEntries h e.timelineID).length < max := by
  obtain ⟨before, after, rfl⟩ := List.append_of_mem he
  obtain ⟨-, hafter, hbefore⟩ := List.pairwise_append.mp hsorted
  have hlater : ∀ e' ∈ after, e.timelineID < e'.timelineID := (List.pairwise_cons.mp hafter).1
  have hnewer : newerEntries (before ++ e :: after) e.timelineID = after := by
    unfold newerEntries
    rw [List.filter_append, List.filter_cons_of_neg (by simp)]
    rw [List.filter_eq_nil_iff.mpr, List.filter_eq_self.mpr]
    . rfl
    . simpa using hlater
    . intro e' he'
      have := hbefore e' he' e List.mem_cons_self
      simp only [decide_eq_true_eq]
      omega
  rw [hnewer]
  constructor
  . intro hmem
    apply Classical.byContradiction
    intro hfew
    -- The cut falls after the entry, and all entries behind it are newer.
    have hcut : (before ++ e :: after).length - max
        = (before ++ [e]).length + (after.length - max) := by
      simp only [List.length_append, List.length_cons, List.length_nil]
      omega
    rw [hcut, ← List.drop_drop, List.append_cons before e after, List.drop_left] at hmem
    have := hlater e (List.mem_of_mem_drop hmem)
    omega
  . intro hfew
    rw [List.drop_append_of_le_length]
    . simp
    . simp only [List.length_append, List.length_cons]
      omega

theorem getTimelineHistory_eq_some_iff {e : PostgresTimelineHistory} (hsorted : Increasing h)
    : h.getTimelineHistory i = some e ↔ e ∈ h ∧ e.timelineID = i := by
  constructor
  . exact mem_of_getTimelineHistory
  . rintro ⟨he, hid⟩
    cases hfind : h.getTimelineHistory i with
    | none => exact absurd hid (getTimelineHistory_eq_none_iff.mp hfind e he)
    | some e' =>
      obtain ⟨he', hid'⟩ := mem_of_getTimelineHistory hfind
      have hnodup : (h.map (fun e => e.timelineID)).Nodup := by
        apply List.pairwise_map.mpr
        apply hsorted.imp
        exact Nat.ne_of_lt
      rw [List.inj_on_of_nodup_map hnodup he' he (hid'.trans hid.symm)]

theorem getTimelineHistory_latest (hsorted : Increasing h)
    : PostgresTimelinesHistory.getTimelineHistory (h.drop (h.length - max)) i
        =
      if (newerEntries h i).length < max then h.getTimelineHistory i else none := by
  have hsublist := List.drop_sublist (h.length - max) h
  have hcut (e : PostgresTimelineHistory) (he : e ∈ h) (hid : e.timelineID = i)
      : e ∈ h.drop (h.length - max) ↔ (newerEntries h i).length < max := by
    rw [← hid]
    apply mem_latest_iff hsorted he
  split
  . next hfew =>
    cases hfind : h.getTimelineHistory i with
    | none =>
      rw [getTimelineHistory_eq_none_iff] at hfind ⊢
      intro e he
      exact hfind e (hsublist.subset he)
    | some e =>
      obtain ⟨he, hid⟩ := mem_of_getTimelineHistory hfind
      rw [getTimelineHistory_eq_some_iff (hsorted.sublist hsublist)]
      exact ⟨(hcut e he hid).mpr hfew, hid⟩
  . next hmany =>
    rw [getTimelineHistory_eq_none_iff]
    intro e he hid
    exact hmany ((hcut e (hsublist.subset he) hid).mp he)

theorem getTimelineHistory_latest_eq_some_iff {e : PostgresTimelineHistory}
    (hsorted : Increasing h)
    : PostgresTimelinesHistory.getTimelineHistory (h.drop (h.length - max)) i = some e
        ↔
      e ∈ h ∧ e.timelineID = i ∧ (newerEntries h i).length < max := by
  rw [getTimelineHistory_latest hsorted, Option.ite_none_right_eq_some,
    getTimelineHistory_eq_some_iff hsorted]
  tauto

/--
The entries that decide the verdict on two instances are published: on one timeline, the entries of
the timeline before it when their switch points differ; on an older timeline, the entry at which the
followed instance left it before the current position.
-/
structure DecisivePublished (f : Nat) (hf : PostgresTimelinesHistory) (c : Nat)
    (hc : PostgresTimelinesHistory) (pos max : Nat) : Prop where
  same : f = c → 1 < c → ∀ e ∈ hf, ∀ e' ∈ hc, e.timelineID = c - 1 → e'.timelineID = c - 1 →
    e.switchPoint ≠ e'.switchPoint →
      (newerEntries hf (c - 1)).length < max ∧ (newerEntries hc (c - 1)).length < max
  older : c < f → ∀ e ∈ hf, e.timelineID = c → e.switchPoint < pos →
    1 < f ∧ (newerEntries hf c).length < max

theorem published_same_iff (hlt : 1 < c) (hfsorted : Increasing hf) (hcsorted : Increasing hc)
    : (detectTimelineBranchDivergence c (hf.drop (hf.length - max)) c (hc.drop (hc.length - max))
        pos).different
          = (detectTimelineBranchDivergence c hf c hc pos).different
        ↔
      ∀ e ∈ hf, ∀ e' ∈ hc, e.timelineID = c - 1 → e'.timelineID = c - 1 →
        e.switchPoint ≠ e'.switchPoint →
          (newerEntries hf (c - 1)).length < max ∧ (newerEntries hc (c - 1)).length < max := by
  rw [Bool.eq_iff_iff, detect_of_eq, detect_of_eq]
  simp only [getTimelineHistory_latest_eq_some_iff hfsorted,
    getTimelineHistory_latest_eq_some_iff hcsorted, getTimelineHistory_eq_some_iff hfsorted,
    getTimelineHistory_eq_some_iff hcsorted, hlt, true_and]
  constructor
  . intro hiff e he e' he' hid hid' hne
    obtain ⟨_, _, ⟨-, -, hfew⟩, ⟨-, -, hfew'⟩, -⟩ :=
      hiff.mpr ⟨e, e', ⟨he, hid⟩, ⟨he', hid'⟩, hne⟩
    exact ⟨hfew, hfew'⟩
  . intro hpublished
    constructor
    . rintro ⟨e, e', ⟨he, hid, -⟩, ⟨he', hid', -⟩, hne⟩
      exact ⟨e, e', ⟨he, hid⟩, ⟨he', hid'⟩, hne⟩
    . rintro ⟨e, e', ⟨he, hid⟩, ⟨he', hid'⟩, hne⟩
      obtain ⟨hfew, hfew'⟩ := hpublished e he e' he' hid hid' hne
      exact ⟨e, e', ⟨he, hid, hfew⟩, ⟨he', hid', hfew'⟩, hne⟩

theorem published_older_iff (hlt : c < f) (hfsorted : Increasing hf)
    : (detectTimelineBranchDivergence f (hf.drop (hf.length - max)) c pc pos).different
          = (detectTimelineBranchDivergence f hf c hc pos).different
        ↔
      ∀ e ∈ hf, e.timelineID = c → e.switchPoint < pos → (newerEntries hf c).length < max := by
  rw [Bool.eq_iff_iff, detect_of_gt hlt, detect_of_gt hlt]
  simp only [getTimelineHistory_latest_eq_some_iff hfsorted, getTimelineHistory_eq_some_iff hfsorted]
  constructor
  . intro hiff e he hid hforked
    obtain ⟨_, ⟨-, -, hfew⟩, -⟩ := hiff.mpr ⟨e, ⟨he, hid⟩, hforked⟩
    exact hfew
  . intro hpublished
    constructor
    . rintro ⟨e, ⟨he, hid, -⟩, hforked⟩
      exact ⟨e, ⟨he, hid⟩, hforked⟩
    . rintro ⟨e, ⟨he, hid⟩, hforked⟩
      exact ⟨e, ⟨he, hid, hpublished e he hid hforked⟩, hforked⟩

/--
The verdict on the published histories is the one on the complete histories exactly when the decisive
entries are published.
-/
theorem published_verdict_eq_iff (f c pos : Nat) (hf hc pf pc : PostgresTimelinesHistory)
    (hfsorted : Increasing hf) (hcsorted : Increasing hc)
    (hpf : Keeper.getTimeLinesHistory f (.ok hf) Keeper.maxPostgresTimelinesHistory = .ok pf)
    (hpc : Keeper.getTimeLinesHistory c (.ok hc) Keeper.maxPostgresTimelinesHistory = .ok pc)
    : (detectTimelineBranchDivergence f pf c pc pos).different
          = (detectTimelineBranchDivergence f hf c hc pos).different
        ↔
      DecisivePublished f hf c hc pos Keeper.maxPostgresTimelinesHistory := by
  rw [getTimeLinesHistory_eq] at hpf hpc
  cases hpf
  cases hpc
  rcases Nat.lt_trichotomy f c with hlt | rfl | hgt
  . rw [detect_of_lt hlt, detect_of_lt hlt]
    simp only [true_iff]
    constructor <;> omega
  . by_cases hone : 1 < f
    . rw [if_pos hone, if_pos hone, published_same_iff hone hfsorted hcsorted]
      constructor
      . intro hsame
        constructor
        . exact fun _ _ => hsame
        . omega
      . intro hdecisive
        exact hdecisive.same rfl hone
    . rw [Bool.eq_iff_iff, detect_of_eq, detect_of_eq]
      simp only [hone, false_and, true_iff]
      constructor <;> omega
  . by_cases hone : 1 < f
    . rw [if_pos hone, published_older_iff hgt hfsorted]
      constructor
      . intro holder
        constructor
        . omega
        . exact fun _ e he hid hforked => ⟨hone, holder e he hid hforked⟩
      . intro hdecisive e he hid hforked
        exact (hdecisive.older hgt e he hid hforked).2
    . rw [if_neg hone, Bool.eq_iff_iff, detect_of_gt hgt, detect_of_gt hgt]
      simp only [getTimelineHistory_eq_some_iff hfsorted]
      constructor
      . intro hiff
        constructor
        . omega
        . intro _ e he hid hforked
          obtain ⟨e', hnone, -⟩ := hiff.mpr ⟨e, ⟨he, hid⟩, hforked⟩
          cases hnone
      . intro hdecisive
        constructor
        . rintro ⟨e, hnone, -⟩
          cases hnone
        . rintro ⟨e, ⟨he, hid⟩, hforked⟩
          exact absurd (hdecisive.older hgt e he hid hforked).1 hone

def sampleHistory : PostgresTimelinesHistory :=
  [{ timelineID := 1, switchPoint := 10 }, { timelineID := 2, switchPoint := 20 },
    { timelineID := 3, switchPoint := 30 }]

theorem published_verdict_eq_iff_sample
    : (detectTimelineBranchDivergence 4 (sampleHistory.drop 1) 2 [] 25).different
          = (detectTimelineBranchDivergence 4 sampleHistory 2 [] 25).different
        ↔
      DecisivePublished 4 sampleHistory 2 [] 25 Keeper.maxPostgresTimelinesHistory :=
  published_verdict_eq_iff 4 2 25 sampleHistory [] (sampleHistory.drop 1) []
    (by unfold Increasing; decide) (by unfold Increasing; decide) rfl rfl

/--
An instance that stayed on the first timeline through three promotions, beyond the position of the
first of them: its divergence is not seen in the published history.
-/
theorem published_verdict_differs
    : ∃ (f c pos : Nat) (hf hc pf pc : PostgresTimelinesHistory),
        Increasing hf
          ∧
        Increasing hc
          ∧
        Keeper.getTimeLinesHistory f (.ok hf) Keeper.maxPostgresTimelinesHistory = .ok pf
          ∧
        Keeper.getTimeLinesHistory c (.ok hc) Keeper.maxPostgresTimelinesHistory = .ok pc
          ∧
        (detectTimelineBranchDivergence f hf c hc pos).different = true
          ∧
        (detectTimelineBranchDivergence f pf c pc pos).different = false :=
  ⟨4, 1, 15, sampleHistory, [], sampleHistory.drop 1, [], by unfold Increasing; decide,
    by unfold Increasing; decide, rfl, rfl, rfl, rfl⟩

end Published
end Hysteron
