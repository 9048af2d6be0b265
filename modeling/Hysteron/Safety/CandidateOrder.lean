import Hysteron.Safety.MasterChange
import Hysteron.Sentinel.Lemmas.Candidates

/-!
Which of the candidates an election picks. The candidates are sorted by their WAL positions from the
least one on, so that a failover without synchronous replication elects the candidate that is the
furthest behind. The order in which the loops visit the maps plays no role, as long as no two
databases share a keeper.
-/

namespace Hysteron
namespace Sentinel

variable {env env' : Env} {s s' : Sentinel} {cd newcd : ClusterData} {pis : ProxiesInfo}
variable {curMasterDB : DB} {dbUID : String}

section MostAdvanced

def Outranks (cd : ClusterData) (db db' : DB) : Prop :=
  db'.status.xLogPos < db.status.xLogPos
    ∨
  db'.status.xLogPos = db.status.xLogPos
    ∧
  (keeperMasterPriority cd db' < keeperMasterPriority cd db
    ∨
  keeperMasterPriority cd db' = keeperMasterPriority cd db ∧ db.uid ≤ db'.uid)

theorem candidateKey_le_iff {db db' : DB}
    : candidateKey cd db ≤ candidateKey cd db'
        ↔
      db.status.xLogPos < db'.status.xLogPos
        ∨
      db.status.xLogPos = db'.status.xLogPos
        ∧
      (keeperMasterPriority cd db' < keeperMasterPriority cd db
        ∨
      keeperMasterPriority cd db' = keeperMasterPriority cd db ∧ db.uid ≤ db'.uid) := by
  unfold candidateKey
  rw [Prod.Lex.toLex_le_toLex, Prod.Lex.toLex_le_toLex]
  simp only [neg_lt_neg_iff, neg_inj, eq_comm (a := keeperMasterPriority cd db)]

theorem outranks_iff_same_position {now : Time} {elected : DB}
    (helected : Candidate s now cd curMasterDB elected)
    (hleast : ∀ (c : DB), Candidate s now cd curMasterDB c →
      candidateKey cd elected ≤ candidateKey cd c)
    : (∀ (c : DB), Candidate s now cd curMasterDB c → Outranks cd elected c)
        ↔
      ∀ (c c' : DB), Candidate s now cd curMasterDB c → Candidate s now cd curMasterDB c' →
        c.status.xLogPos = c'.status.xLogPos := by
  constructor
  . intro hall
    have hposition (c : DB) (hc : Candidate s now cd curMasterDB c)
        : c.status.xLogPos = elected.status.xLogPos := by
      have hle := candidateKey_le_iff.mp (hleast c hc)
      have hge := hall c hc
      unfold Outranks at hge
      omega
    intro c c' hc hc'
    rw [hposition c hc, hposition c' hc']
  . intro hsame c hc
    have hposition := hsame c elected hc helected
    obtain hlt | hties := candidateKey_le_iff.mp (hleast c hc)
    . omega
    . exact .inr ⟨hposition, hties.2⟩

theorem pickNewMaster_async (cd : ClusterData) {candidates : List DB}
    (hasync : (curMasterDB.spec.synchronousReplication
      && cd.cluster.defSpec.synchronousReplication) = false)
    : (pickNewMaster cd curMasterDB candidates).1 = candidates.head? := by
  simp [pickNewMaster, hasync]

theorem FailoverDue.head (hasync : (curMasterDB.spec.synchronousReplication
      && cd.cluster.defSpec.synchronousReplication) = false)
    (h : FailoverDue env s cd curMasterDB dbUID)
    : ∃ (elected : DB) (candidates : List DB),
        s.findBestNewMasters env .failover (removeOldKeepers env.now cd) curMasterDB
          = .ok (elected :: candidates)
          ∧
        elected.uid = dbUID := by
  obtain ⟨-, -, candidates, hcandidates, -, hpick⟩ := h
  rw [pickNewMaster_async (removeOldKeepers env.now cd) hasync] at hpick
  obtain ⟨elected, hhead, huid⟩ := Option.map_eq_some_iff.mp hpick
  obtain ⟨candidates, rfl⟩ := List.head?_eq_some_iff.mp hhead
  exact ⟨elected, candidates, hcandidates, huid⟩

/--
An update that replaces a failed master automatically elects the preferred candidate exactly if all
candidates are at one position.
-/
theorem failover_elects_preferred_iff (env : Env) (s s' : Sentinel) (cd newcd : ClusterData)
    (pis : ProxiesInfo) (curMasterDB : DB)
    (hphase : cd.cluster.status.phase = .normal)
    (hcur : cd.dbs[cd.cluster.status.master]? = some curMasterDB)
    (hasync : (curMasterDB.spec.synchronousReplication
      && cd.cluster.defSpec.synchronousReplication) = false)
    (hfailed : s.masterOK env.now cd.cluster.defSpec curMasterDB = false)
    (hswitch : ∀ (other : String), ¬ ManualSwitchDue env s cd curMasterDB other)
    (h : s.updateCluster env cd pis = .ok (s', newcd))
    (hchanged : newcd.cluster.status.master ≠ cd.cluster.status.master)
    : ∃ (elected : DB),
        elected.uid = newcd.cluster.status.master
          ∧
        Candidate s env.now (removeOldKeepers env.now cd) curMasterDB elected
          ∧
        ((∀ (c : DB), Candidate s env.now (removeOldKeepers env.now cd) curMasterDB c →
            Outranks (removeOldKeepers env.now cd) elected c)
          ↔
        ∀ (c c' : DB), Candidate s env.now (removeOldKeepers env.now cd) curMasterDB c →
          Candidate s env.now (removeOldKeepers env.now cd) curMasterDB c' →
          c.status.xLogPos = c'.status.xLogPos) := by
  obtain ⟨-, hdue⟩ := (updateCluster_changes_master_iff hphase hcur h hchanged).mp rfl
  rcases hdue with hmanual | hfailback | hfailover
  . exact absurd hmanual (hswitch _)
  . have hok := hfailback.2.2.1
    rw [hfailed] at hok
    cases hok
  . obtain ⟨elected, candidates, hcandidates, huid⟩ := hfailover.head hasync
    have helected := (mem_findBestNewMasters_iff hcandidates).mp List.mem_cons_self
    exact ⟨elected, huid, helected,
      outranks_iff_same_position helected fun c hc => candidateKey_head_le hcandidates hc⟩

def sampleStandbyAt (uid keeperUID : String) (xLogPos : Nat) : DB :=
  let db := sampleStandby uid keeperUID
  { db with status := { db.status with xLogPos } }

def sampleFailed (posB posC : Nat) : ClusterData where
  formatVersion := currentCDFormatVersion
  cluster := {
    uid := "cluster"
    generation := initialGeneration
    spec := { initMode := some .new }
    status := { phase := .normal, master := "a" }
  }
  keepers := ((Std.ExtTreeMap.empty.insert "k1" (sampleKeeper "k1")).insert "k2"
    (sampleKeeper "k2")).insert "k3" (sampleKeeper "k3")
  dbs := ((Std.ExtTreeMap.empty.insert "a" sampleFailedMaster).insert "b"
    (sampleStandbyAt "b" "k2" posB)).insert "c" (sampleStandbyAt "c" "k3" posC)
  proxy := {}
where
  sampleFailedMaster : DB := {
    uid := "a"
    generation := 2
    spec := { keeperUID := "k1", initMode := .none, role := .master }
    status := { currentGeneration := 2, healthy := false, timelineID := 1, xLogPos := 20 }
  }

theorem not_manualSwitchDue_sampleFailed (posB posC : Nat) (other : String)
    : ¬ ManualSwitchDue env s (sampleFailed posB posC) curMasterDB other := by
  rintro ⟨-, ⟨_, _, hreq, -⟩, -⟩
  cases hreq

theorem failover_elects_preferred_iff_sample
    : ∃ (s' : Sentinel) (newcd : ClusterData) (curMasterDB elected : DB),
        ({} : Sentinel).updateCluster (.simplest 0) (sampleFailed 20 20) ∅ = .ok (s', newcd)
          ∧
        newcd.cluster.status.master = "b"
          ∧
        elected.uid = newcd.cluster.status.master
          ∧
        ((∀ (c : DB), Candidate {} 0 (removeOldKeepers 0 (sampleFailed 20 20)) curMasterDB c →
            Outranks (removeOldKeepers 0 (sampleFailed 20 20)) elected c)
          ↔
        ∀ (c c' : DB), Candidate {} 0 (removeOldKeepers 0 (sampleFailed 20 20)) curMasterDB c →
          Candidate {} 0 (removeOldKeepers 0 (sampleFailed 20 20)) curMasterDB c' →
          c.status.xLogPos = c'.status.xLogPos) := by
  have hrun : (({} : Sentinel).updateCluster (.simplest 0) (sampleFailed 20 20) ∅).toOption.map
      (fun r => r.2.cluster.status.master) = some "b" := by
    decide +kernel
  obtain ⟨⟨s', newcd⟩, hrun, hmaster⟩ := Except.exists_ok_of_toOption_map hrun
  dsimp only at hmaster
  obtain ⟨elected, huid, -, hiff⟩ := failover_elects_preferred_iff (.simplest 0) {} s'
    (sampleFailed 20 20) newcd ∅ sampleFailed.sampleFailedMaster rfl (by decide +kernel) rfl
    (by decide +kernel) (not_manualSwitchDue_sampleFailed 20 20) hrun (by rw [hmaster]; decide)
  exact ⟨s', newcd, _, elected, hrun, hmaster, huid, hiff⟩

/--
The standby `c` has received everything that the master has reported, and the one that lags behind is
elected.
-/
theorem failover_elects_least_advanced
    : ∃ (env : Env) (s s' : Sentinel) (cd newcd : ClusterData) (curMasterDB elected c : DB),
        cd.cluster.status.phase = .normal
          ∧
        cd.dbs[cd.cluster.status.master]? = some curMasterDB
          ∧
        cd.cluster.defSpec.synchronousReplication = false
          ∧
        s.masterOK env.now cd.cluster.defSpec curMasterDB = false
          ∧
        cd.cluster.status.manualSwitch = none
          ∧
        s.updateCluster env cd ∅ = .ok (s', newcd)
          ∧
        newcd.cluster.status.master ≠ cd.cluster.status.master
          ∧
        cd.dbs[newcd.cluster.status.master]? = some elected
          ∧
        Candidate s env.now (removeOldKeepers env.now cd) curMasterDB c
          ∧
        elected.status.xLogPos < c.status.xLogPos := by
  have hrun : (({} : Sentinel).updateCluster (.simplest 0) (sampleFailed 10 20) ∅).toOption.map
      (fun r => r.2.cluster.status.master) = some "b" := by
    decide +kernel
  obtain ⟨⟨s', newcd⟩, hrun, hmaster⟩ := Except.exists_ok_of_toOption_map hrun
  dsimp only at hmaster
  refine ⟨.simplest 0, {}, s', sampleFailed 10 20, newcd, sampleFailed.sampleFailedMaster,
    sampleStandbyAt "b" "k2" 10, sampleStandbyAt "c" "k3" 20, rfl, by decide +kernel, rfl,
    by decide +kernel, rfl, hrun, by rw [hmaster]; decide, by rw [hmaster]; decide +kernel, ?_,
    by decide⟩
  exact ⟨⟨"c", by decide +kernel⟩, by decide +kernel, by decide +kernel,
    .inl ⟨by decide +kernel, by decide +kernel⟩⟩

end MostAdvanced

section Order

theorem findDB_order (order order' : VisitOrder String)
    (hexclusive : ∀ (uid uid' : String) (db db' : DB), cd.dbs[uid]? = some db →
      cd.dbs[uid']? = some db' → db.spec.keeperUID = db'.spec.keeperUID → uid = uid')
    (keeperUID : String) : cd.findDB order keeperUID = cd.findDB order' keeperUID := by
  have hperm := FinMap.perm_valuesIn order order' cd.dbs
  -- All databases on the keeper are one.
  have hunique (db db' : DB) (hdb : db ∈ FinMap.valuesIn order cd.dbs)
      (hdb' : db' ∈ FinMap.valuesIn order cd.dbs) (hkeeper : db.spec.keeperUID = keeperUID)
      (hkeeper' : db'.spec.keeperUID = keeperUID) : db = db' := by
    rw [FinMap.mem_valuesIn] at hdb hdb'
    obtain ⟨uid, hdb⟩ := hdb
    obtain ⟨uid', hdb'⟩ := hdb'
    obtain rfl := hexclusive uid uid' db db' hdb hdb' (hkeeper.trans hkeeper'.symm)
    exact Option.some.inj (hdb.symm.trans hdb')
  unfold ClusterData.findDB
  cases hfind : (FinMap.valuesIn order cd.dbs).find? (fun db => db.spec.keeperUID = keeperUID) with
  | none =>
    rw [List.find?_eq_none] at hfind
    exact (List.find?_eq_none.mpr fun db hdb => hfind db (hperm.mem_iff.mpr hdb)).symm
  | some db =>
    cases hfind' : (FinMap.valuesIn order' cd.dbs).find? (fun db => db.spec.keeperUID = keeperUID) with
    | none =>
      rw [List.find?_eq_none] at hfind'
      have hmem := hperm.mem_iff.mp (List.mem_of_find?_eq_some hfind)
      exact absurd (List.find?_some hfind) (hfind' db hmem)
    | some db' =>
      have hmem' := hperm.mem_iff.mpr (List.mem_of_find?_eq_some hfind')
      have hkeeper : db.spec.keeperUID = keeperUID := by simpa using List.find?_some hfind
      have hkeeper' : db'.spec.keeperUID = keeperUID := by simpa using List.find?_some hfind'
      rw [hunique db db' (List.mem_of_find?_eq_some hfind) hmem' hkeeper hkeeper']

theorem MasterChangeDue.of_order (order : RangeSite → VisitOrder String) (hkeyed : cd.Keyed)
    (hexclusive : ∀ (uid uid' : String) (db db' : DB), cd.dbs[uid]? = some db →
      cd.dbs[uid']? = some db' → db.spec.keeperUID = db'.spec.keeperUID → uid = uid')
    (h : MasterChangeDue env s cd curMasterDB dbUID)
    : MasterChangeDue { env with order } s cd curMasterDB dbUID := by
  have hkeyed' : (removeOldKeepers env.now cd).Keyed := hkeyed
  have hcandidates (search : CandidateSearch)
      : s.findBestNewMasters { env with order } search (removeOldKeepers env.now cd) curMasterDB
          = s.findBestNewMasters env search (removeOldKeepers env.now cd) curMasterDB :=
    findBestNewMasters_order hkeyed' rfl
  have hrequested (targetDB : DB)
      : SwitchRequested { env with order } cd targetDB ↔ SwitchRequested env cd targetDB := by
    simp only [SwitchRequested, findDB_order (order .manualSwitchTarget)
      (env.order .manualSwitchTarget) hexclusive]
  have hmanual (dbUID : String)
      : ManualSwitchDue { env with order } s cd curMasterDB dbUID
          ↔
        ManualSwitchDue env s cd curMasterDB dbUID := by
    simp only [ManualSwitchDue, Eligible, hrequested, hcandidates]
  rcases h with hswitch | hfailback | hfailover
  . exact .inl ((hmanual dbUID).mpr hswitch)
  . refine .inr (.inl ?_)
    simp only [AutoFailbackDue, hmanual, hcandidates] at hfailback ⊢
    exact hfailback
  . refine .inr (.inr ?_)
    simp only [FailoverDue, hmanual, hcandidates] at hfailover ⊢
    exact hfailover

theorem initCluster_order {order : RangeSite → VisitOrder String}
    (hmaster : cd.cluster.status.master ≠ "")
    : s.initCluster { env with order } cd = s.initCluster env cd := by
  simp only [initCluster, initNew, initExisting, initPITR, hmaster, ↓reduceIte]
  rfl

theorem initCluster_master_order {order : RangeSite → VisitOrder String} {s₁ s₂ : Sentinel}
    {newcd₁ newcd₂ : ClusterData} (h₁ : s.initCluster env cd = .ok (s₁, newcd₁))
    (h₂ : s.initCluster { env with order } cd = .ok (s₂, newcd₂))
    : newcd₁.cluster.status.master = newcd₂.cluster.status.master := by
  by_cases hmaster : cd.cluster.status.master = ""
  . -- The new database has the same UID on whatever keeper it is.
    obtain ⟨k₁, db₁, -, huid₁, -, rfl⟩ := initCluster_chosen hmaster h₁
    obtain ⟨k₂, db₂, -, huid₂, -, rfl⟩ := initCluster_chosen hmaster h₂
    exact huid₁.trans huid₂.symm
  . rw [initCluster_order hmaster, h₁] at h₂
    cases h₂
    rfl

/--
Two updates that differ only in the orders in which their loops visit the maps leave the same master,
if every database is filed under its UID and no two of them share a keeper.
-/
theorem updateCluster_master_order (env : Env) (order : RangeSite → VisitOrder String) (s : Sentinel)
    (cd : ClusterData) (pis : ProxiesInfo) (s₁ s₂ : Sentinel) (newcd₁ newcd₂ : ClusterData)
    (hkeyed : cd.Keyed)
    (hexclusive : ∀ (uid uid' : String) (db db' : DB), cd.dbs[uid]? = some db →
      cd.dbs[uid']? = some db' → db.spec.keeperUID = db'.spec.keeperUID → uid = uid')
    (h₁ : s.updateCluster env cd pis = .ok (s₁, newcd₁))
    (h₂ : s.updateCluster { env with order } cd pis = .ok (s₂, newcd₂))
    : newcd₁.cluster.status.master = newcd₂.cluster.status.master := by
  cases hphase : cd.cluster.status.phase with
  | initializing =>
    simp only [updateCluster, hphase, Except.bind_eq_ok_iff, Except.pure_eq_ok, Except.ok.injEq,
      Prod.mk.injEq] at h₁ h₂
    obtain ⟨⟨s₁', mid₁⟩, hinit₁, newcd₁', hfinish₁, rfl, rfl⟩ := h₁
    obtain ⟨⟨s₂', mid₂⟩, hinit₂, newcd₂', hfinish₂, rfl, rfl⟩ := h₂
    rw [finishUpdate_cluster hfinish₁, finishUpdate_cluster hfinish₂]
    exact initCluster_master_order hinit₁ hinit₂
  | normal =>
    cases hcur : cd.dbs[cd.cluster.status.master]? with
    | none =>
      -- Only a paused update succeeds.
      simp only [updateCluster, hphase, updateNormal, hcur] at h₁ h₂
      split at h₁
      . next hpaused =>
        rw [if_pos hpaused] at h₂
        cases h₁
        cases h₂
        rfl
      . cases h₁
    | some curMasterDB =>
      by_cases hkeep₁ : newcd₁.cluster.status.master = cd.cluster.status.master
      . by_cases hkeep₂ : newcd₂.cluster.status.master = cd.cluster.status.master
        . rw [hkeep₁, hkeep₂]
        . obtain ⟨hpaused, hdue⟩ := (updateCluster_changes_master_iff hphase hcur h₂ hkeep₂).mp rfl
          have hdue := hdue.of_order env.order hkeyed hexclusive
          exact (updateCluster_changes_master_iff hphase hcur h₁ hkeep₂).mpr ⟨hpaused, hdue⟩
      . obtain ⟨hpaused, hdue⟩ := (updateCluster_changes_master_iff hphase hcur h₁ hkeep₁).mp rfl
        have hdue := hdue.of_order order hkeyed hexclusive
        exact ((updateCluster_changes_master_iff hphase hcur h₂ hkeep₁).mpr ⟨hpaused, hdue⟩).symm
  | unknown name =>
    simp only [updateCluster, hphase] at h₁
    cases h₁

theorem dbs_sampleSwitch {keeperUID uid : String} {db : DB}
    (h : (sampleSwitch keeperUID).dbs[uid]? = some db)
    : (uid = "a" ∧ db = sampleMaster)
        ∨
      (uid = "b" ∧ db = sampleStandby "b" "k2")
        ∨
      (uid = "c" ∧ db = sampleStandby "c" "k3") := by
  simp only [sampleSwitch, Std.ExtTreeMap.getElem?_insert, Std.LawfulEqCmp.compare_eq_iff_eq] at h
  split at h
  . next heq => exact .inr (.inr ⟨heq.symm, (Option.some.inj h).symm⟩)
  . split at h
    . next heq => exact .inr (.inl ⟨heq.symm, (Option.some.inj h).symm⟩)
    . split at h
      . next heq => exact .inl ⟨heq.symm, (Option.some.inj h).symm⟩
      . simp at h

theorem updateCluster_master_order_sample
    : ∃ (s₁ s₂ : Sentinel) (newcd₁ newcd₂ : ClusterData),
        ({} : Sentinel).updateCluster (.simplest 0) (sampleSwitch "k2") ∅ = .ok (s₁, newcd₁)
          ∧
        ({} : Sentinel).updateCluster { Env.simplest 0 with order := fun _ => .reversed }
          (sampleSwitch "k2") ∅ = .ok (s₂, newcd₂)
          ∧
        newcd₁.cluster.status.master = "b"
          ∧
        newcd₁.cluster.status.master = newcd₂.cluster.status.master := by
  have hrun₁ : (({} : Sentinel).updateCluster (.simplest 0) (sampleSwitch "k2") ∅).toOption.map
      (fun r => r.2.cluster.status.master) = some "b" := by
    decide +kernel
  have hrun₂ : (({} : Sentinel).updateCluster { Env.simplest 0 with order := fun _ => .reversed }
      (sampleSwitch "k2") ∅).toOption.map (fun _ => ()) = some () := by
    decide +kernel
  obtain ⟨⟨s₁, newcd₁⟩, hrun₁, hmaster⟩ := Except.exists_ok_of_toOption_map hrun₁
  obtain ⟨⟨s₂, newcd₂⟩, hrun₂, -⟩ := Except.exists_ok_of_toOption_map hrun₂
  refine ⟨s₁, s₂, newcd₁, newcd₂, hrun₁, hrun₂, hmaster, ?_⟩
  refine updateCluster_master_order (.simplest 0) (fun _ => .reversed) {} (sampleSwitch "k2") ∅ s₁ s₂
    newcd₁ newcd₂ ?_ ?_ hrun₁ hrun₂
  . intro uid db hdb
    obtain ⟨rfl, rfl⟩ | ⟨rfl, rfl⟩ | ⟨rfl, rfl⟩ := dbs_sampleSwitch hdb <;> rfl
  . intro uid uid' db db' hdb hdb' hkeeper
    obtain ⟨rfl, rfl⟩ | ⟨rfl, rfl⟩ | ⟨rfl, rfl⟩ := dbs_sampleSwitch hdb
    all_goals obtain ⟨rfl, rfl⟩ | ⟨rfl, rfl⟩ | ⟨rfl, rfl⟩ := dbs_sampleSwitch hdb'
    all_goals first | rfl | exact absurd hkeeper (by decide)

def sampleShared : ClusterData :=
  let cd := sampleSwitch "k2"
  { cd with dbs := cd.dbs.insert "c" (sampleStandby "c" "k2") }

/--
The database that the loop finds on the keeper is the new master.
-/
theorem updateCluster_master_depends_on_order
    : ∃ (env : Env) (order : RangeSite → VisitOrder String) (s s₁ s₂ : Sentinel)
        (cd newcd₁ newcd₂ : ClusterData) (pis : ProxiesInfo),
        s.updateCluster env cd pis = .ok (s₁, newcd₁)
          ∧
        s.updateCluster { env with order } cd pis = .ok (s₂, newcd₂)
          ∧
        newcd₁.cluster.status.master ≠ newcd₂.cluster.status.master := by
  have hrun₁ : (({} : Sentinel).updateCluster (.simplest 0) sampleShared ∅).toOption.map
      (fun r => r.2.cluster.status.master) = some "b" := by
    decide +kernel
  have hrun₂ : (({} : Sentinel).updateCluster { Env.simplest 0 with order := fun _ => .reversed }
      sampleShared ∅).toOption.map (fun r => r.2.cluster.status.master) = some "c" := by
    decide +kernel
  obtain ⟨⟨s₁, newcd₁⟩, hrun₁, hmaster₁⟩ := Except.exists_ok_of_toOption_map hrun₁
  obtain ⟨⟨s₂, newcd₂⟩, hrun₂, hmaster₂⟩ := Except.exists_ok_of_toOption_map hrun₂
  dsimp only at hmaster₁ hmaster₂
  refine ⟨.simplest 0, fun _ => .reversed, {}, s₁, s₂, sampleShared, newcd₁, newcd₂, ∅, hrun₁, hrun₂,
    ?_⟩
  rw [hmaster₁, hmaster₂]
  decide

end Order

end Sentinel
end Hysteron
