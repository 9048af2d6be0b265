import Hysteron.Safety.WellFormed
import Hysteron.Sentinel.Lemmas.Memory

/-!
The versions of the cluster data that are committed to the store. A command or a check reads a
version and replaces exactly that version, since every write is a compare-and-swap.
-/

namespace Hysteron

inductive Writer where
  | command (now : Time) (c : Operations.Command)
  | check (inp : Sentinel.CheckInput) (s : Sentinel)

inductive Commit : Writer → ClusterData → ClusterData → Prop where
  | command (now : Time) (c : Operations.Command) {cd cd' : ClusterData}
    (h : c.run now cd = .ok cd') : Commit (.command now c) cd cd'.roundTrip
  | check (inp : Sentinel.CheckInput) (s : Sentinel) {cd cd' : ClusterData}
    (hfresh : inp.env.Fresh cd.dbs) (h : (s.clusterSentinelCheck inp cd).2 = some cd')
    : Commit (.check inp s) cd cd'.roundTrip

def commitSystem : TransitionSystem ClusterData where
  init cd := ∃ (uid : String) (spec : ClusterSpec),
    cd = (newClusterData (newCluster uid spec)).roundTrip
  step cd cd' := ∃ (w : Writer), Commit w cd cd'

namespace Sentinel

variable {s s' : Sentinel} {inp : CheckInput} {cd cd' : ClusterData}

theorem clusterSentinelCheck_cases (h : (s.clusterSentinelCheck inp cd).2 = some cd')
    : cd.cluster.spec.validate = .ok ()
        ∧
      ∃ (s₁ s₂ s₃ s₄ : Sentinel) (firstRun : Bool) (observed : ClusterData)
        (kihs : FinMap String KeeperInfoHistory) (pis : ProxiesInfo),
        s₁.updateKeepersStatus inp.env.now cd inp.keepersInfo firstRun = .ok (s₂, observed, kihs)
          ∧
        s₃.updateCluster inp.env observed pis = .ok (s₄, cd') := by
  obtain ⟨merged, observed, kihs, hcompleted⟩ := clusterSentinelCheck_completed (Prod.ext rfl h)
  obtain ⟨s₄, hupdate⟩ := hcompleted.update
  exact ⟨hcompleted.valid, _, merged, _, s₄, _, observed, kihs, _, hcompleted.merge, hupdate⟩

theorem keyed_keepersInfo (inp : CheckInput) : KeepersInfo.Keyed inp.keepersInfo :=
  keyed_getKeepersInfo _

theorem fresh_updateKeepersStatus {env : Env} {now : Time} {keepersInfo : KeepersInfo}
    {firstRun : Bool} {kihs : FinMap String KeeperInfoHistory} (hfresh : env.Fresh cd.dbs)
    (h : s.updateKeepersStatus now cd keepersInfo firstRun = .ok (s', cd', kihs))
    : env.Fresh cd'.dbs where
  ne_empty := hfresh.ne_empty
  injective := hfresh.injective
  not_mem := by
    intro n hmem
    cases firstRun with
    | true =>
      rw [(updateKeepersStatus_firstRun h).2] at hmem
      exact hfresh.not_mem n hmem
    | false =>
      rw [Std.ExtTreeMap.mem_iff_isSome_getElem?, (updateKeepersStatus_merged h).getElem?_dbs,
        Option.isSome_map, ← Std.ExtTreeMap.mem_iff_isSome_getElem?] at hmem
      exact hfresh.not_mem n hmem

end Sentinel

variable {w : Writer} {cd cd' : ClusterData}

theorem getElem?_roundTrip {uid : String} {db' : DB}
    (h : cd.roundTrip.dbs[uid]? = some db')
    : ∃ (db : DB), cd.dbs[uid]? = some db ∧ db' = db.roundTrip := by
  simp only [ClusterData.roundTrip, Std.ExtTreeMap.getElem?_map, Option.map_eq_some_iff] at h
  obtain ⟨db, hdb, rfl⟩ := h
  exact ⟨db, hdb, rfl⟩

theorem steps_of_commit (h : Commit w cd cd') : Relation.ReflTransGen ClusterStep cd cd' := by
  cases h with
  | command now c hrun =>
    exact .tail (.single (.command now c hrun)) (.stored _)
  | check inp s hfresh hcheck =>
    obtain ⟨-, s₁, s₂, s₃, s₄, firstRun, observed, kihs, pis, hstatus, hupdate⟩ :=
      Sentinel.clusterSentinelCheck_cases hcheck
    have hfresh' := Sentinel.fresh_updateKeepersStatus hfresh hstatus
    exact .tail (.tail (.single (.updateKeepersStatus s₁ s₂ _ _ firstRun kihs hstatus))
      (.updateCluster inp.env s₃ s₄ pis hfresh' hupdate)) (.stored _)

theorem roundTrip_newClusterData (uid : String) (spec : ClusterSpec)
    : (newClusterData (newCluster uid spec)).roundTrip
        =
      newClusterData (newCluster uid spec.roundTrip) := by
  have hdbs : (∅ : FinMap String DB).map (fun _ db => db.roundTrip) = ∅ := by
    ext uid : 1
    simp
  unfold ClusterData.roundTrip newClusterData
  rw [hdbs]
  rfl

theorem reachable_of_commits (h : commitSystem.Reachable cd) : clusterDataSystem.Reachable cd := by
  refine TransitionSystem.Reachable.simulate (f := id) h ?_ ?_
  . rintro _ ⟨uid, spec, rfl⟩
    exact ⟨uid, spec.roundTrip, roundTrip_newClusterData uid spec⟩
  . rintro cd cd' ⟨w, hcommit⟩
    exact steps_of_commit hcommit

theorem sound_of_commits (h : commitSystem.Reachable cd) : cd.Sound :=
  sound_inductive.of_reachable (reachable_of_commits h)

theorem sound_commit (hsound : cd.Sound) (h : Commit w cd cd') : cd'.Sound :=
  sound_inductive.steps hsound (steps_of_commit h)

def checked (inp : Sentinel.CheckInput) (s : Sentinel) (cd : ClusterData) : ClusterData :=
  match (s.clusterSentinelCheck inp cd).2 with
  | some cd' => cd'.roundTrip
  | none => cd

def commanded (now : Time) (c : Operations.Command) (cd : ClusterData) : ClusterData :=
  match c.run now cd with
  | .ok cd' => cd'.roundTrip
  | .error _ => cd

theorem commit_checked {inp : Sentinel.CheckInput} {s : Sentinel} (hfresh : inp.env.Fresh cd.dbs)
    (h : (s.clusterSentinelCheck inp cd).2.isSome) : Commit (.check inp s) cd (checked inp s cd) := by
  obtain ⟨cd', hcheck⟩ := Option.isSome_iff_exists.mp h
  unfold checked
  rw [hcheck]
  exact .check inp s hfresh hcheck

theorem commit_commanded {now : Time} {c : Operations.Command} (h : (c.run now cd).isOk)
    : Commit (.command now c) cd (commanded now c cd) := by
  unfold commanded
  split
  . next hrun => exact .command now c hrun
  . next hrun => simp [hrun, Except.isOk, Except.toBool] at h

theorem reachable_checked {inp : Sentinel.CheckInput} {s : Sentinel} (hfresh : inp.env.Fresh cd.dbs)
    (h : commitSystem.Reachable cd) : commitSystem.Reachable (checked inp s cd) := by
  unfold checked
  split
  . next hcheck => exact h.step ⟨_, .check inp s hfresh hcheck⟩
  . exact h

theorem reachable_commanded {now : Time} {c : Operations.Command} (h : commitSystem.Reachable cd)
    : commitSystem.Reachable (commanded now c cd) := by
  unfold commanded
  split
  . next hrun => exact h.step ⟨_, .command now c hrun⟩
  . exact h

section Sample

def sampleInfo (now : Time) (uid : String) (state : Option PostgresState) : KeeperInfo where
  infoUID := toString now
  uid
  clusterUID := "cluster"
  postgresState := state

def sampleState (uid : String) (generation : Int) : PostgresState where
  uid
  generation
  healthy := true

def sampleCheck (now : Time) (used : Nat) (keepers : List KeeperInfo) : Sentinel.CheckInput where
  env := .simplest now used
  leadershipCount := 1
  keepers
  proxies := []

def sampleChecked (now : Time) (used : Nat) (keepers : List KeeperInfo) (cd : ClusterData)
    : ClusterData :=
  checked (sampleCheck now used keepers) { lastLeadershipCount := 1 } cd

theorem reachable_sampleChecked {now : Time} {used : Nat} {keepers : List KeeperInfo}
    (hlength : ∀ uid ∈ cd.dbs.keys, uid.length ≤ used) (h : commitSystem.Reachable cd)
    : commitSystem.Reachable (sampleChecked now used keepers cd) :=
  reachable_checked (Env.fresh_simplest hlength) h

def sampleCreated : ClusterData :=
  (newClusterData (newCluster "cluster" { initMode := some .new })).roundTrip

def sampleReplicated (spec : ClusterSpec) : ClusterData :=
  let cd := (newClusterData (newCluster "cluster" spec)).roundTrip
  let cd := sampleChecked 1 0 [sampleInfo 1 "k1" none, sampleInfo 1 "k2" none] cd
  let cd := sampleChecked 2 1
    [sampleInfo 2 "k1" (some (sampleState "d" 1)), sampleInfo 2 "k2" none] cd
  let cd := sampleChecked 3 1
    [sampleInfo 3 "k1" (some (sampleState "d" 2)), sampleInfo 3 "k2" none] cd
  sampleChecked 4 2
    [sampleInfo 4 "k1" (some (sampleState "d" 3)),
      sampleInfo 4 "k2" (some (sampleState "dd" 1))] cd

theorem reachable_sampleReplicated
    : commitSystem.Reachable (sampleReplicated { initMode := some .new }) :=
  reachable_sampleChecked (by decide +kernel) (reachable_sampleChecked (by decide +kernel)
    (reachable_sampleChecked (by decide +kernel) (reachable_sampleChecked (by decide +kernel)
      (.init ⟨"cluster", { initMode := some .new }, rfl⟩))))

end Sample

end Hysteron
