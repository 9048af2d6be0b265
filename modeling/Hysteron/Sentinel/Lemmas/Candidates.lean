import Hysteron.Sentinel.Lemmas.Election
import Hysteron.Sentinel.Lemmas.Standbys

/-!
The candidates for a new master: which databases they are, and the order in which they are
considered. Neither depends on the order in which the loops visit the databases.
-/

namespace Hysteron

def candidateKey (cd : ClusterData) (db : DB) : Nat ×ₗ Int ×ₗ String :=
  toLex (db.status.xLogPos, toLex (-keeperMasterPriority cd db, db.uid))

variable {cd : ClusterData}

theorem candidateLess_iff {a b : DB}
    : candidateLess cd a b = true ↔ candidateKey cd a < candidateKey cd b := by
  unfold candidateLess candidateKey
  rw [Prod.Lex.toLex_lt_toLex, Prod.Lex.toLex_lt_toLex]
  dsimp only
  split
  . next hne => simp [hne]
  . next heq =>
    have heq : a.status.xLogPos = b.status.xLogPos := by simpa using heq
    split
    . next hne => simp [heq, hne]
    . next heq' =>
      have heq' : keeperMasterPriority cd a = keeperMasterPriority cd b := by simpa using heq'
      simp [heq, heq']

theorem candidateLess_eq_false_iff {a b : DB}
    : candidateLess cd b a = false ↔ candidateKey cd a ≤ candidateKey cd b := by
  rw [← Bool.not_eq_true, candidateLess_iff, not_lt]

theorem uid_eq_of_candidateKey_eq {a b : DB} (h : candidateKey cd a = candidateKey cd b)
    : a.uid = b.uid := by
  simp only [candidateKey, EmbeddingLike.apply_eq_iff_eq, Prod.mk.injEq] at h
  exact h.2.2

theorem sortCandidateMasters_eq (candidates : List DB)
    : sortCandidateMasters cd candidates
        =
      candidates.insertionSort (fun a b => candidateKey cd a ≤ candidateKey cd b) := by
  simp only [sortCandidateMasters, candidateLess_eq_false_iff]

theorem pairwise_sortCandidateMasters (candidates : List DB)
    : (sortCandidateMasters cd candidates).Pairwise
        (fun a b => candidateKey cd a ≤ candidateKey cd b) := by
  rw [sortCandidateMasters_eq]
  have : Std.Total (fun a b : DB => candidateKey cd a ≤ candidateKey cd b) :=
    ⟨fun a b => le_total _ _⟩
  have : IsTrans DB (fun a b => candidateKey cd a ≤ candidateKey cd b) :=
    ⟨fun a b c => le_trans⟩
  exact List.pairwise_insertionSort _ _

theorem sortCandidateMasters_eq_of_perm {candidates candidates' : List DB}
    (hperm : candidates.Perm candidates')
    (huid : ∀ a ∈ candidates, ∀ b ∈ candidates, a.uid = b.uid → a = b)
    : sortCandidateMasters cd candidates = sortCandidateMasters cd candidates' := by
  have hsorted := List.perm_insertionSort (fun a b => candidateLess cd b a = false)
  refine List.Perm.eq_of_pairwise ?_ (pairwise_sortCandidateMasters candidates)
    (pairwise_sortCandidateMasters candidates') ?_
  . intro a b ha hb hab hba
    have ha := (hsorted candidates).mem_iff.mp ha
    have hb := hperm.mem_iff.mpr ((hsorted candidates').mem_iff.mp hb)
    exact huid a ha b hb (uid_eq_of_candidateKey_eq (le_antisymm hab hba))
  . exact ((hsorted candidates).trans hperm).trans (hsorted candidates').symm

namespace Sentinel

variable {env env' : Env} {s : Sentinel} {search search' : CandidateSearch} {masterDB c : DB}
variable {candidates : List DB}

def Candidate (s : Sentinel) (now : Time) (cd : ClusterData) (masterDB c : DB) : Prop :=
  (∃ (key : String), cd.dbs[key]? = some c)
    ∧
  s.dbStatus now cd c.uid = .ok .good
    ∧
  isNearMaster cd masterDB c = true
    ∧
  (isValidOfType cd .replicaLine c.uid = true ∧ canBeMaster cd c = true
    ∨
  isValidOfType cd .primaryLine c.uid = true ∧ c.uid ≠ masterDB.uid)

theorem mem_valuesIn_good {now : Time} {wantType : DBType} {byStatus : DBsByStatus}
    (h : s.validDBsByStatus now cd wantType = .ok byStatus) (order : VisitOrder String)
    : c ∈ FinMap.valuesIn order byStatus.good
        ↔
      (∃ (key : String), cd.dbs[key]? = some c)
        ∧
      isValidOfType cd wantType c.uid = true
        ∧
      s.dbStatus now cd c.uid = .ok .good := by
  unfold validDBsByStatus at h
  dsimp only at h
  split at h
  . cases h
  . cases h
    simp only [FinMap.mem_valuesIn, FinMap.getElem?_filter_eq_some, decide_eq_true_eq]
    constructor
    . rintro ⟨key, ⟨hdb, hvalid⟩, hgood⟩
      exact ⟨⟨key, hdb⟩, hvalid, hgood⟩
    . rintro ⟨⟨key, hdb⟩, hvalid, hgood⟩
      exact ⟨key, ⟨hdb, hvalid⟩, hgood⟩

theorem mem_findBestNewMasters_iff
    (h : s.findBestNewMasters env search cd masterDB = .ok candidates)
    : c ∈ candidates ↔ Candidate s env.now cd masterDB c := by
  simp only [findBestNewMasters, findBestStandbys, Except.bind_eq_ok_iff, Except.pure_eq_ok,
    Except.ok.injEq] at h
  obtain ⟨_, ⟨standbys, hstandbys, rfl⟩, masters, hmasters, rfl⟩ := h
  simp only [sortCandidateMasters, List.mem_insertionSort, List.mem_append, List.mem_filter,
    mem_valuesIn_good hstandbys, mem_valuesIn_good hmasters, Bool.and_eq_true, ne_eq,
    decide_eq_true_eq]
  unfold Candidate
  tauto

theorem pairwise_findBestNewMasters
    (h : s.findBestNewMasters env search cd masterDB = .ok candidates)
    : candidates.Pairwise (fun a b => candidateKey cd a ≤ candidateKey cd b) := by
  simp only [findBestNewMasters, Except.bind_eq_ok_iff, Except.pure_eq_ok, Except.ok.injEq] at h
  obtain ⟨standbys, -, masters, -, rfl⟩ := h
  exact pairwise_sortCandidateMasters _

theorem candidateKey_head_le {candidates : List DB}
    (h : s.findBestNewMasters env search cd masterDB = .ok (c :: candidates)) {c' : DB}
    (hc' : Candidate s env.now cd masterDB c') : candidateKey cd c ≤ candidateKey cd c' := by
  obtain rfl | hmem := List.mem_cons.mp ((mem_findBestNewMasters_iff h).mpr hc')
  . exact le_rfl
  . exact (List.pairwise_cons.mp (pairwise_findBestNewMasters h)).1 c' hmem

theorem Candidate.getElem? {now : Time} (hkeyed : cd.Keyed) (h : Candidate s now cd masterDB c)
    : cd.dbs[c.uid]? = some c := by
  obtain ⟨key, hdb⟩ := h.1
  rw [hkeyed key c hdb]
  exact hdb

theorem findBestNewMasters_order (hkeyed : cd.Keyed) (hnow : env'.now = env.now)
    : s.findBestNewMasters env' search' cd masterDB = s.findBestNewMasters env search cd masterDB := by
  unfold findBestNewMasters findBestStandbys
  rw [hnow]
  cases hstandbys : s.validStandbysByStatus env.now cd with
  | error fault => rfl
  | ok standbys =>
    cases hmasters : s.validMastersByStatus env.now cd with
    | error fault => rfl
    | ok masters =>
      have hfound : s.findBestNewMasters env' search' cd masterDB = .ok (sortCandidateMasters cd
          ((((FinMap.valuesIn (env'.order (.goodStandbys search')) standbys.good).filter
            (isNearMaster cd masterDB)).insertionSort
              (fun a b => a.status.xLogPos ≤ b.status.xLogPos)).filter (canBeMaster cd)
            ++
          (FinMap.valuesIn (env'.order (.validMasters search')) masters.good).filter
            (fun db => db.uid ≠ masterDB.uid && isNearMaster cd masterDB db))) := by
        simp only [findBestNewMasters, findBestStandbys, hnow, hstandbys, hmasters, Except.bind_ok,
          Except.pure_eq_ok]
      simp only [Except.bind_ok, Except.pure_eq_ok, Except.ok.injEq]
      apply sortCandidateMasters_eq_of_perm
      . -- Both parts of the list are permuted.
        apply List.Perm.append
        . apply List.Perm.filter
          apply (List.perm_insertionSort _ _).trans
          apply List.Perm.trans _ (List.perm_insertionSort _ _).symm
          exact (FinMap.perm_valuesIn _ _ _).filter _
        . exact (FinMap.perm_valuesIn _ _ _).filter _
      . intro a ha b hb huid
        rw [← List.mem_insertionSort (fun a b => candidateLess cd b a = false)] at ha hb
        have ha := ((mem_findBestNewMasters_iff hfound).mp ha).getElem? hkeyed
        have hb := ((mem_findBestNewMasters_iff hfound).mp hb).getElem? hkeyed
        rw [huid, hb] at ha
        exact (Option.some.inj ha).symm

end Sentinel
end Hysteron
