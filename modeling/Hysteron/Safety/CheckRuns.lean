import Hysteron.Safety.Origins

/-!
Runs of checks. The leader may change from one check to the next, and operators may send commands in
between.
-/

namespace Hysteron

def CommandStep (cd cd' : ClusterData) : Prop :=
  ∃ (now : Time) (c : Operations.Command), Commit (.command now c) cd cd'

/--
Checks that write the cluster data. Publishing the Kubernetes Services may fail.
-/
structure CheckRun where
  length : Nat
  inp : Nat → Sentinel.CheckInput
  memory : Nat → Sentinel
  read : Nat → ClusterData
  written : Nat → ClusterData
  reachable : commitSystem.Reachable (read 0)
  check : ∀ n < length, ((memory n).clusterSentinelCheck (inp n) (read n)).2 = some (written n)
  putOK : ∀ n < length, (inp n).putOK = true
  /-- The clock does not go back. -/
  ordered : ∀ (n : Nat), n + 1 < length → (inp n).env.now ≤ (inp (n + 1)).env.now
  /-- A generated UID has not been in use before. -/
  unused : ∀ n < length, ∀ m ≤ n, (inp n).env.Fresh (read m).dbs
  commands : ∀ (n : Nat), n + 1 < length →
    Relation.ReflTransGen CommandStep (written n).roundTrip (read (n + 1))
  first : (memory 0).lastLeadershipCount ≠ (inp 0).leadershipCount
  /-- The next check is one of the same sentinel, or it is the first check of another leadership. -/
  leader : ∀ (n : Nat), n + 1 < length →
    memory (n + 1) = ((memory n).clusterSentinelCheck (inp n) (read n)).1
      ∨ (memory (n + 1)).lastLeadershipCount ≠ (inp (n + 1)).leadershipCount

namespace CheckRun

variable (r : CheckRun)

def now (n : Nat) : Time := (r.inp n).env.now

def after (n : Nat) : Sentinel := ((r.memory n).clusterSentinelCheck (r.inp n) (r.read n)).1

def firstRun (n : Nat) : Bool := (r.inp n).firstRun (r.memory n)

def infos (n : Nat) : KeepersInfo := Sentinel.ownKeepersInfo (r.read n) (r.inp n).keepersInfo

def fresh (n : Nat) : KeepersInfo :=
  ((r.inp n).start (r.memory n) (r.read n)).freshKeepersInfo (r.now n) (r.read n)
    (r.inp n).keepersInfo

def failInterval (n : Nat) : Duration := (r.read n).cluster.defSpec.failInterval

variable {r : CheckRun} {n m : Nat} {uid : String}

theorem commit_check (hn : n < r.length)
    : Commit (.check (r.inp n) (r.memory n)) (r.read n) (r.written n).roundTrip :=
  .check _ _ (r.unused n hn n (Nat.le_refl n)) (r.check n hn)

theorem now_le (hn : n < r.length) (hmn : m ≤ n) : r.now m ≤ r.now n := by
  induction hmn with
  | refl => exact Int.le_refl _
  | @step n hmn ih => exact Int.le_trans (ih (by omega)) (r.ordered n hn)

theorem reachable_read (hn : n < r.length) : commitSystem.Reachable (r.read n) := by
  induction n with
  | zero => exact r.reachable
  | succ n ih =>
    have hwritten := (ih (by omega)).step ⟨_, commit_check (r := r) (n := n) (by omega)⟩
    refine hwritten.steps (Relation.ReflTransGen.mono ?_ _ _ (r.commands n hn))
    rintro cd cd' ⟨now, c, hcommit⟩
    exact ⟨_, hcommit⟩

theorem sound_read (hn : n < r.length) : (r.read n).Sound := sound_of_commits (reachable_read hn)

theorem memory_succ (hn : n + 1 < r.length) (hfirst : r.firstRun (n + 1) = false)
    : r.memory (n + 1) = r.after n := by
  cases r.leader n hn with
  | inl hsame => exact hsame
  | inr hother => simp [firstRun, Sentinel.CheckInput.firstRun, hother] at hfirst

theorem firstRun_zero : r.firstRun 0 = true := by
  simpa [firstRun, Sentinel.CheckInput.firstRun] using r.first

theorem completed (hn : n < r.length)
    : ∃ (merged : Sentinel) (observed : ClusterData) (kihs : FinMap String KeeperInfoHistory),
        Sentinel.Completed (r.inp n) (r.memory n) (r.after n) (r.read n) (r.written n) merged
          observed kihs :=
  Sentinel.clusterSentinelCheck_completed (Prod.ext rfl (r.check n hn))

theorem start_firstRun (hfirst : r.firstRun n = true)
    : ((r.inp n).start (r.memory n) (r.read n)).observations
        =
      { keeperErrorTimers := ∅
        dbErrorTimers := ∅
        keeperInfoHistories := ∅
        proxyInfoHistories := ∅
        lastLeadershipCount := (r.inp n).leadershipCount
        sleepInterval := (r.read n).cluster.defSpec.sleepInterval } := by
  have hcount : (r.memory n).lastLeadershipCount ≠ (r.inp n).leadershipCount := by
    simpa [firstRun, Sentinel.CheckInput.firstRun] using hfirst
  unfold Sentinel.CheckInput.start Sentinel.gainLeadership Sentinel.runLeadershipSanitySweep
  rw [if_pos hcount, Sentinel.observations_updateDBConvergenceInfos]
  rfl

theorem start_laterRun (hlater : r.firstRun n = false)
    : (r.inp n).start (r.memory n) (r.read n)
        =
      { r.memory n with sleepInterval := (r.read n).cluster.defSpec.sleepInterval } := by
  have hcount : (r.memory n).lastLeadershipCount = (r.inp n).leadershipCount := by
    simpa [firstRun, Sentinel.CheckInput.firstRun] using hlater
  unfold Sentinel.CheckInput.start Sentinel.gainLeadership
  rw [if_neg (by simpa using hcount)]

theorem timers_firstRun (hn : n < r.length) (hfirst : r.firstRun n = true)
    : (r.after n).keeperErrorTimers = ∅ ∧ (r.after n).dbErrorTimers = ∅ := by
  obtain ⟨merged, observed, kihs, hcompleted⟩ := r.completed hn
  have hmerge := hcompleted.merge
  rw [← firstRun, hfirst] at hmerge
  have hstart := start_firstRun hfirst
  simp only [Sentinel.observations, Sentinel.Observations.mk.injEq] at hstart
  rw [hcompleted.keeperErrorTimers, hcompleted.dbErrorTimers,
    (Sentinel.updateKeepersStatus_firstRun hmerge).1]
  exact ⟨hstart.1, hstart.2.1⟩

theorem completed_laterRun (hn : n < r.length) (hlater : r.firstRun n = false)
    : ∃ (merged : Sentinel) (observed : ClusterData) (kihs : FinMap String KeeperInfoHistory),
        Sentinel.Completed (r.inp n) (r.memory n) (r.after n) (r.read n) (r.written n) merged
          observed kihs
          ∧
        Sentinel.Merged ((r.inp n).start (r.memory n) (r.read n)) merged (r.now n) (r.read n) observed
          (r.fresh n)
          ∧
        Sentinel.MergedMemory ((r.inp n).start (r.memory n) (r.read n)) merged (r.now n) (r.read n)
          (r.fresh n)
          ∧
        kihs = ((r.inp n).start (r.memory n) (r.read n)).nextHistories (r.now n) (r.read n)
          (r.inp n).keepersInfo := by
  obtain ⟨merged, observed, kihs, hcompleted⟩ := r.completed hn
  have hmerge := hcompleted.merge
  rw [← firstRun, hlater] at hmerge
  obtain ⟨hmemory, hkihs⟩ := Sentinel.updateKeepersStatus_memory (sound_read hn).assigned.keyed hmerge
  exact ⟨merged, observed, kihs, hcompleted, Sentinel.updateKeepersStatus_merged hmerge, hmemory,
    hkihs⟩

def keepers (r : CheckRun) (n : Nat) : FinMap String Keeper :=
  Sentinel.mergedKeepers (r.now n) (r.fresh n) (r.read n)

theorem keeperErrorTimer_after (hn : n < r.length) (hlater : r.firstRun n = false)
    : (r.after n).keeperErrorTimers[uid]?
        =
      if uid ∈ r.keepers n then
        if uid ∈ r.fresh n then
          none
        else
          Sentinel.runTimer (r.now n) (r.memory n).keeperErrorTimers[uid]?
      else
        (r.memory n).keeperErrorTimers[uid]? := by
  obtain ⟨merged, observed, kihs, hcompleted, -, hmemory, -⟩ := completed_laterRun hn hlater
  have htimers : ((r.inp n).start (r.memory n) (r.read n)).keeperErrorTimers
      = (r.memory n).keeperErrorTimers := by
    rw [start_laterRun hlater]
  rw [hcompleted.keeperErrorTimers, hmemory.keeperErrorTimer, htimers]
  rfl

theorem dbErrorTimer_after (hn : n < r.length) (hlater : r.firstRun n = false)
    : (r.after n).dbErrorTimers[uid]?
        =
      match (r.read n).dbs[uid]? with
      | some db =>
        if Sentinel.reportsHealthy (r.fresh n) db then
          none
        else
          Sentinel.runTimer (r.now n) (r.memory n).dbErrorTimers[uid]?
      | none => (r.memory n).dbErrorTimers[uid]? := by
  obtain ⟨merged, observed, kihs, hcompleted, -, hmemory, -⟩ := completed_laterRun hn hlater
  have htimers : ((r.inp n).start (r.memory n) (r.read n)).dbErrorTimers
      = (r.memory n).dbErrorTimers := by
    rw [start_laterRun hlater]
  rw [hcompleted.dbErrorTimers, ← htimers]
  exact hmemory.dbErrorTimer uid

theorem histories_after (hn : n < r.length) (hlater : r.firstRun n = false)
    : (r.after n).keeperInfoHistories
        =
      if (r.inp n).publishOK then
        (r.memory n).nextHistories (r.now n) (r.read n) (r.inp n).keepersInfo
      else
        (r.memory n).keeperInfoHistories := by
  obtain ⟨merged, observed, kihs, hcompleted, -, hmemory, rfl⟩ := completed_laterRun hn hlater
  rw [hcompleted.keeperInfoHistories, hmemory.keeperInfoHistories, r.putOK n hn, Bool.true_and,
    start_laterRun hlater]
  rfl

theorem lastLeadershipCount_after (hn : n < r.length)
    : (r.after n).lastLeadershipCount = (r.inp n).leadershipCount := by
  cases hfirst : r.firstRun n with
  | true =>
    obtain ⟨merged, observed, kihs, hcompleted⟩ := r.completed hn
    have hmerge := hcompleted.merge
    rw [← firstRun, hfirst] at hmerge
    rw [hcompleted.lastLeadershipCount, (Sentinel.updateKeepersStatus_firstRun hmerge).1]
    exact congrArg Sentinel.Observations.lastLeadershipCount (start_firstRun hfirst)
  | false =>
    obtain ⟨merged, observed, kihs, hcompleted, -, hmemory, -⟩ := completed_laterRun hn hfirst
    rw [hcompleted.lastLeadershipCount, hmemory.lastLeadershipCount, start_laterRun hfirst]
    simpa [firstRun, Sentinel.CheckInput.firstRun] using hfirst

theorem histories_firstRun (hn : n < r.length) (hfirst : r.firstRun n = true)
    : (r.after n).keeperInfoHistories[uid]?
        =
      if (r.inp n).publishOK then
        (r.infos n)[uid]?.map (fun ki => { keeperInfo := ki, seen := false })
      else
        none := by
  obtain ⟨merged, observed, kihs, hcompleted⟩ := r.completed hn
  have hmerge := hcompleted.merge
  rw [← firstRun, hfirst] at hmerge
  have hstart : ((r.inp n).start (r.memory n) (r.read n)).keeperInfoHistories = ∅ :=
    congrArg Sentinel.Observations.keeperInfoHistories (start_firstRun hfirst)
  obtain ⟨hmerged, hkihs⟩ := Sentinel.updateKeepersStatus_firstRunHistories hmerge
  rw [hcompleted.keeperInfoHistories, r.putOK n hn, Bool.true_and, hmerged, hkihs, hstart]
  split
  . rw [Sentinel.getElem?_firstRunHistories, hstart]
    unfold infos
    cases (Sentinel.ownKeepersInfo (r.read n) (r.inp n).keepersInfo)[uid]? with
    | none => simp
    | some ki => rfl
  . simp

section Health

variable {k : Keeper} {db db' : DB}

theorem sound_completed {merged : Sentinel} {observed : ClusterData}
    {kihs : FinMap String KeeperInfoHistory} (hn : n < r.length)
    (h : Sentinel.Completed (r.inp n) (r.memory n) (r.after n) (r.read n) (r.written n) merged
      observed kihs)
    : observed.Sound ∧ (r.inp n).env.Fresh observed.dbs ∧ (r.written n).Sound := by
  have hsound := sound_read hn
  have hobserved := hsound.of_derived
    (Sentinel.derived_updateKeepersStatus hsound.assigned (Sentinel.keyed_keepersInfo _) h.merge)
  have hfresh := Sentinel.fresh_updateKeepersStatus (r.unused n hn n (Nat.le_refl n)) h.merge
  obtain ⟨s₁, hupdate⟩ := h.update
  exact ⟨hobserved, hfresh, Sentinel.sound_updateCluster hobserved hfresh hupdate⟩

theorem keyed_fresh : KeepersInfo.Keyed (r.fresh n) :=
  Sentinel.keyed_freshKeepersInfo (Sentinel.keyed_keepersInfo _)

theorem mem_keepers_of_fresh (h : uid ∈ r.fresh n) : uid ∈ r.keepers n := by
  obtain ⟨ki, hki⟩ := Option.isSome_iff_exists.mp (Std.ExtTreeMap.mem_iff_isSome_getElem?.mp h)
  rw [Std.ExtTreeMap.mem_iff_isSome_getElem?, keepers, Sentinel.getElem?_mergedKeepers keyed_fresh]
  simp [hki]

theorem healthy_keeper (hn : n < r.length) (hlater : r.firstRun n = false)
    (hk : (r.written n).keepers[uid]? = some k)
    : ∃ (k₀ : Keeper),
        (r.keepers n)[uid]? = some k₀
          ∧
        k.status.healthy
          =
        (!Sentinel.timerExpired (r.after n).keeperErrorTimers (r.now n) (r.failInterval n) uid
          && !k₀.status.forceFail) := by
  obtain ⟨merged, observed, kihs, hcompleted, hmerged, hmemory, -⟩ := completed_laterRun hn hlater
  obtain ⟨s₁, hupdate⟩ := hcompleted.update
  have hobserved := Sentinel.updateCluster_keepers hupdate hk
  rw [hmerged.getElem?_keepers] at hobserved
  obtain ⟨k₀, hk₀, rfl⟩ := Option.map_eq_some_iff.mp hobserved
  refine ⟨k₀, hk₀, ?_⟩
  have huid := (Sentinel.mergedKeepers_keyed keyed_fresh (sound_read hn).assigned.keeperKeyed hk₀).1
  have htimer : (((r.inp n).start (r.memory n) (r.read n)).updateKeeperErrors (r.now n) (r.fresh n)
      (r.keepers n)).keeperErrorTimers[uid]? = (r.after n).keeperErrorTimers[uid]? := by
    rw [Sentinel.getElem?_updateKeeperErrors, hcompleted.keeperErrorTimers,
      hmemory.keeperErrorTimer]
    rfl
  rw [keepers] at htimer
  simp only [Sentinel.updateKeeperHealth, Sentinel.isKeeperHealthy, Sentinel.timerExpired, huid, htimer]
  rfl

theorem healthy_db (hn : n < r.length) (hlater : r.firstRun n = false)
    (hdb : (r.read n).dbs[uid]? = some db) (hdb' : (r.written n).dbs[uid]? = some db')
    : db'.spec.keeperUID = db.spec.keeperUID
        ∧
      ∃ (k : Keeper),
        (r.written n).keepers[db'.spec.keeperUID]? = some k
          ∧
        db'.status.healthy
          =
        (!Sentinel.timerExpired (r.after n).dbErrorTimers (r.now n) (r.failInterval n) uid
          && k.status.healthy) := by
  obtain ⟨merged, observed, kihs, hcompleted, hmerged, hmemory, -⟩ := completed_laterRun hn hlater
  obtain ⟨hobserved, hfresh, hwritten⟩ := sound_completed hn hcompleted
  obtain ⟨s₁, hupdate⟩ := hcompleted.update
  have hmergedDB := hmerged.getElem?_dbs uid
  rw [hdb] at hmergedDB
  obtain ⟨hkeeper, hhealthy⟩ := Sentinel.updateCluster_inherits hobserved hfresh hupdate hmergedDB hdb'
  have hsame : db'.spec.keeperUID = db.spec.keeperUID := by simpa using hkeeper
  refine ⟨hsame, ?_⟩
  obtain ⟨k, hk⟩ := Option.isSome_iff_exists.mp
    (Std.ExtTreeMap.mem_iff_isSome_getElem?.mp (hwritten.assigned.registered uid db' hdb'))
  refine ⟨k, hk, ?_⟩
  have hkept := Sentinel.updateCluster_keepers hupdate hk
  rw [hsame] at hkept
  rw [hhealthy, Sentinel.healthy_updateDBHealth_mergeReport, hkept,
    (sound_read hn).assigned.keyed uid db hdb, hcompleted.dbErrorTimers]
  rfl

theorem healthy_firstRun (hn : n < r.length) (hfirst : r.firstRun n = true)
    : (∀ (uid : String) (k : Keeper),
        (r.written n).keepers[uid]? = some k → (r.read n).keepers[uid]? = some k)
        ∧
      ∀ (uid : String) (db db' : DB),
        (r.read n).dbs[uid]? = some db → (r.written n).dbs[uid]? = some db' →
        db'.status.healthy = db.status.healthy := by
  obtain ⟨merged, observed, kihs, hcompleted⟩ := r.completed hn
  obtain ⟨hobserved, hfresh, -⟩ := sound_completed hn hcompleted
  obtain ⟨s₁, hupdate⟩ := hcompleted.update
  have hmerge := hcompleted.merge
  rw [← firstRun, hfirst] at hmerge
  rw [← (Sentinel.updateKeepersStatus_firstRun hmerge).2]
  refine ⟨?_, ?_⟩
  . intro uid k hk
    exact Sentinel.updateCluster_keepers hupdate hk
  . intro uid db db' hdb hdb'
    exact (Sentinel.updateCluster_inherits hobserved hfresh hupdate hdb hdb').2

end Health

section Between

variable {db' : DB}

theorem commands_origin {cd cd' : ClusterData} (hsound : cd.Sound)
    (h : Relation.ReflTransGen CommandStep cd cd')
    : (∀ (uid : String) (db' : DB), cd'.dbs[uid]? = some db' →
        ∃ (db : DB), cd.dbs[uid]? = some db ∧ db'.spec.keeperUID = db.spec.keeperUID)
        ∧
      ∀ (uid : String), uid ∈ cd'.keepers → uid ∈ cd.keepers := by
  suffices h : cd'.Sound ∧ (∀ (uid : String) (db' : DB), cd'.dbs[uid]? = some db' →
      ∃ (db : DB), cd.dbs[uid]? = some db ∧ db'.spec.keeperUID = db.spec.keeperUID)
        ∧ ∀ (uid : String), uid ∈ cd'.keepers → uid ∈ cd.keepers from h.2
  induction h with
  | refl => exact ⟨hsound, fun uid db' hdb' => ⟨db', hdb', rfl⟩, fun uid hmem => hmem⟩
  | tail _ hstep ih =>
    obtain ⟨hmid, hdbs, hkeepers⟩ := ih
    obtain ⟨now, c, hcommit⟩ := hstep
    refine ⟨sound_commit hmid hcommit, ?_⟩
    cases hcommit with
    | command _ _ hrun =>
      have heffect := Operations.command_effect c hmid.assigned hrun
      refine ⟨?_, fun uid hmem => hkeepers uid (heffect.mem_keepers hmem)⟩
      intro uid db' hdb'
      obtain ⟨newDB, hnewDB, rfl⟩ := getElem?_roundTrip hdb'
      obtain ⟨midDB, hmidDB, hcases⟩ := heffect.db_cases hnewDB
      obtain ⟨db, hdb, hkeeper⟩ := hdbs uid midDB hmidDB
      refine ⟨db, hdb, ?_⟩
      rw [← hkeeper]
      rcases hcases with rfl | ⟨-, -, rfl⟩ <;> rfl

theorem mem_keepers_succ (hn : n + 1 < r.length) (h : uid ∈ (r.read (n + 1)).keepers)
    : uid ∈ (r.written n).keepers := by
  have hcommit := commit_check (r := r) (n := n) (by omega)
  have hsound := sound_commit (sound_read (by omega)) hcommit
  exact (commands_origin hsound (r.commands n hn)).2 uid h

theorem db_succ (hn : n + 1 < r.length) (hdb' : (r.read (n + 1)).dbs[uid]? = some db')
    : (∃ (db : DB), (r.read n).dbs[uid]? = some db ∧ db'.spec.keeperUID = db.spec.keeperUID)
        ∨
      ∃ (i : Nat), uid = (r.inp n).env.uidFn i := by
  have hcommit := commit_check (r := r) (n := n) (by omega)
  have hsound := sound_commit (sound_read (by omega)) hcommit
  obtain ⟨storedDB, hstoredDB, hstored⟩ := (commands_origin hsound (r.commands n hn)).1 uid db' hdb'
  obtain ⟨newDB, hnewDB, rfl⟩ := getElem?_roundTrip hstoredDB
  obtain ⟨merged, observed, kihs, hcompleted⟩ := r.completed (n := n) (by omega)
  obtain ⟨hobserved, hfresh, -⟩ := sound_completed (by omega) hcompleted
  obtain ⟨s₁, hupdate⟩ := hcompleted.update
  cases hobservedDB : observed.dbs[uid]? with
  | none => exact .inr (Sentinel.updateCluster_new hobserved hfresh hupdate hobservedDB hnewDB)
  | some observedDB =>
    obtain ⟨db, hdb, -, hspec⟩ :=
      Sentinel.updateKeepersStatus_db_origin hcompleted.merge hobservedDB
    refine .inl ⟨db, hdb, ?_⟩
    have hkeeper := (Sentinel.updateCluster_inherits hobserved hfresh hupdate hobservedDB hnewDB).1
    rw [hstored, ← hspec, ← hkeeper]
    rfl

end Between

section Steady

variable (inp : Nat → Sentinel.CheckInput) (s : Sentinel) (cd : ClusterData)

/--
The memory and the stored cluster data before each check, when a single sentinel makes the checks
and nobody else writes.
-/
def steadyStates : Nat → Sentinel × ClusterData
  | 0 => (s, cd)
  | n + 1 =>
    let (s, cd) := steadyStates n
    ((s.clusterSentinelCheck (inp n) cd).1, checked (inp n) s cd)

theorem reachable_steadyStates {inp : Nat → Sentinel.CheckInput} {s : Sentinel} {cd : ClusterData}
    {length : Nat} (hreach : commitSystem.Reachable cd)
    (hfresh : ∀ n < length, (inp n).env.Fresh (steadyStates inp s cd n).2.dbs)
    : commitSystem.Reachable (steadyStates inp s cd length).2 := by
  induction length with
  | zero => exact hreach
  | succ n ih =>
    exact reachable_checked (hfresh n (Nat.lt_succ_self n))
      (ih (fun m hm => hfresh m (Nat.lt_succ_of_lt hm)))

def steadyWrite (n : Nat) : Option ClusterData :=
  ((steadyStates inp s cd n).1.clusterSentinelCheck (inp n) (steadyStates inp s cd n).2).2

def steady (length : Nat) (hreach : commitSystem.Reachable cd)
    (hcheck : ∀ n < length, (steadyWrite inp s cd n).isSome)
    (hput : ∀ n < length, (inp n).putOK = true)
    (hordered : ∀ (n : Nat), n + 1 < length → (inp n).env.now ≤ (inp (n + 1)).env.now)
    (hunused : ∀ n < length, ∀ m ≤ n, (inp n).env.Fresh (steadyStates inp s cd m).2.dbs)
    (hfirst : s.lastLeadershipCount ≠ (inp 0).leadershipCount) : CheckRun where
  length
  inp
  memory n := (steadyStates inp s cd n).1
  read n := (steadyStates inp s cd n).2
  written n := (steadyWrite inp s cd n).getD cd
  reachable := hreach
  check n hn := by
    obtain ⟨newcd, hnewcd⟩ := Option.isSome_iff_exists.mp (hcheck n hn)
    rw [hnewcd]
    exact hnewcd
  putOK := hput
  ordered := hordered
  unused := hunused
  commands n hn := by
    obtain ⟨newcd, hnewcd⟩ := Option.isSome_iff_exists.mp (hcheck n (by omega))
    have hread : (steadyStates inp s cd (n + 1)).2 = newcd.roundTrip := by
      rw [steadyWrite] at hnewcd
      simp only [steadyStates, checked, hnewcd]
    rw [hread, hnewcd]
    exact .refl
  first := hfirst
  leader n _ := .inl rfl

end Steady

end CheckRun
end Hysteron
