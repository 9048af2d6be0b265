import Hysteron.Cluster.Validated
import Hysteron.Safety.CheckRuns

/-!
Failure detection over runs of checks. A keeper or a database is recorded as not healthy only after
it has not been heard of for the fail interval. A keeper that is not heard of any more is recorded as
not healthy in time, if publishing the Kubernetes Services does not keep on failing.
-/

namespace Hysteron
namespace CheckRun

variable {r : CheckRun} {n m : Nat} {uid : String}

section NoFalseFailure

theorem runTimer_eq_some {now t : Time} {timer : Option Time}
    (h : Sentinel.runTimer now timer = some t) : timer = some t ∨ t = now := by
  cases timer with
  | none => exact .inr (Option.some.inj h).symm
  | some t' => exact .inl h

theorem reportsHealthy_congr {fresh : KeepersInfo} {db db' : DB} (huid : db'.uid = db.uid)
    (hkeeper : db'.spec.keeperUID = db.spec.keeperUID)
    : Sentinel.reportsHealthy fresh db' = Sentinel.reportsHealthy fresh db := by
  unfold Sentinel.reportsHealthy Sentinel.reportedState
  rw [huid, hkeeper]

structure Tracked (r : CheckRun) (n : Nat) : Prop where
  keeper : ∀ (uid : String) (t : Time), (r.after n).keeperErrorTimers[uid]? = some t →
    ∀ m ≤ n, t < r.now m → uid ∉ r.fresh m
  db : ∀ (uid : String) (t : Time) (db : DB), (r.after n).dbErrorTimers[uid]? = some t →
    (r.read n).dbs[uid]? = some db →
    ∀ m ≤ n, t < r.now m → Sentinel.reportsHealthy (r.fresh m) db = false
  known : ∀ (uid : String) (t : Time), (r.after n).dbErrorTimers[uid]? = some t →
    ∃ m ≤ n, uid ∈ (r.read m).dbs

theorem tracked_firstRun (hn : n < r.length) (hfirst : r.firstRun n = true) : Tracked r n := by
  obtain ⟨hkeepers, hdbs⟩ := timers_firstRun hn hfirst
  constructor
  case keeper =>
    intro uid t ht
    simp [hkeepers] at ht
  all_goals
    intro uid t
    simp [hdbs]

theorem tracked_laterRun (hn : n + 1 < r.length) (hlater : r.firstRun (n + 1) = false)
    (h : Tracked r n) : Tracked r (n + 1) := by
  have hmemory := memory_succ hn hlater
  -- A timer that runs on has been started by an earlier check, so the new check adds one case.
  have hcases {P : Nat → Prop} {t : Time} (hold : t = r.now (n + 1) ∨ ∀ m ≤ n, t < r.now m → P m)
      (hnew : P (n + 1)) : ∀ m ≤ n + 1, t < r.now m → P m := by
    intro m hm ht
    rcases Nat.le_succ_iff.mp hm with hm | rfl
    . rcases hold with rfl | hold
      . exact absurd ht (Int.not_lt.mpr (now_le hn (Nat.le_succ_of_le hm)))
      . exact hold m hm ht
    . exact hnew
  constructor
  case keeper =>
    intro uid t ht
    rw [keeperErrorTimer_after hn hlater, hmemory] at ht
    split at ht
    . split at ht
      . cases ht
      . next hfresh =>
        refine hcases ?_ hfresh
        rcases runTimer_eq_some ht with ht | ht
        . exact .inr (h.keeper uid t ht)
        . exact .inl ht
    . next hmem =>
      refine hcases (.inr (h.keeper uid t ht)) ?_
      exact fun hfresh => hmem (mem_keepers_of_fresh hfresh)
  case db =>
    intro uid t db ht hdb
    rw [dbErrorTimer_after hn hlater, hmemory, hdb] at ht
    dsimp only at ht
    split at ht
    . cases ht
    . next hreport =>
      refine hcases ?_ (by simpa using hreport)
      rcases runTimer_eq_some ht with ht | ht
      . rcases db_succ hn hdb with ⟨db₀, hdb₀, hkeeper⟩ | ⟨i, rfl⟩
        . right
          intro m hm hlt
          have huid : db.uid = db₀.uid :=
            ((sound_read hn).assigned.keyed _ _ hdb).trans
              ((sound_read (by omega)).assigned.keyed _ _ hdb₀).symm
          rw [reportsHealthy_congr huid hkeeper]
          exact h.db uid t db₀ ht hdb₀ m hm hlt
        . -- A UID that has just been generated has no timer.
          obtain ⟨m, hm, hmem⟩ := h.known _ t ht
          exact absurd hmem ((r.unused n (by omega) m hm).not_mem i)
      . exact .inl ht
  case known =>
    intro uid t ht
    rw [dbErrorTimer_after hn hlater, hmemory] at ht
    cases hdb : (r.read (n + 1)).dbs[uid]? with
    | some db =>
      refine ⟨n + 1, Nat.le_refl _, ?_⟩
      rw [Std.ExtTreeMap.mem_iff_isSome_getElem?, hdb]
      rfl
    | none =>
      rw [hdb] at ht
      obtain ⟨m, hm, hmem⟩ := h.known uid t ht
      exact ⟨m, Nat.le_succ_of_le hm, hmem⟩

theorem tracked (hn : n < r.length) : Tracked r n := by
  induction n with
  | zero => exact tracked_firstRun hn firstRun_zero
  | succ n ih =>
    cases hfirst : r.firstRun (n + 1) with
    | true => exact tracked_firstRun hn hfirst
    | false => exact tracked_laterRun hn hfirst (ih (by omega))

theorem timerExpired_eq_true {timers : FinMap String Time} {now : Time} {failInterval : Duration}
    (h : Sentinel.timerExpired timers now failInterval uid = true)
    : ∃ (t : Time), timers[uid]? = some t ∧ t < now - failInterval := by
  unfold Sentinel.timerExpired at h
  split at h
  . cases h
  . next t ht =>
    have hexpired : failInterval + t < now := Int.add_lt_of_lt_sub_right (of_decide_eq_true h)
    exact ⟨t, ht, Int.lt_sub_left_of_add_lt hexpired⟩

/--
The first check of a leadership leaves the healthiness as it is stored. A later check that has no
failure request to apply records a keeper as not healthy only if no check within the fail interval
has seen a fresh info of it, and a database only if its keeper is not healthy or no check within the
fail interval has seen a fresh info in which the keeper reports that database as healthy.
-/
theorem unhealthy_only_if_silent (r : CheckRun) (hn : n < r.length)
    : (r.firstRun n = true →
        (∀ (uid : String) (k : Keeper),
          (r.written n).keepers[uid]? = some k → (r.read n).keepers[uid]? = some k)
          ∧
        ∀ (uid : String) (db db' : DB),
          (r.read n).dbs[uid]? = some db → (r.written n).dbs[uid]? = some db' →
          db'.status.healthy = db.status.healthy)
        ∧
      (r.firstRun n = false →
        (∀ (uid : String) (k : Keeper),
          (r.read n).keepers[uid]? = some k → k.status.forceFail = false) →
        (∀ (uid : String) (k : Keeper),
          (r.written n).keepers[uid]? = some k → k.status.healthy = false →
          ∀ m ≤ n, r.now n - r.failInterval n ≤ r.now m → uid ∉ r.fresh m)
          ∧
        ∀ (uid : String) (db db' : DB),
          (r.read n).dbs[uid]? = some db → (r.written n).dbs[uid]? = some db' →
          db'.status.healthy = false →
          (∃ (k : Keeper),
            (r.written n).keepers[db'.spec.keeperUID]? = some k ∧ k.status.healthy = false)
            ∨
          ∀ m ≤ n, r.now n - r.failInterval n ≤ r.now m →
            Sentinel.reportsHealthy (r.fresh m) db = false) := by
  refine ⟨healthy_firstRun hn, ?_⟩
  intro hlater hforce
  have htracked := tracked hn
  refine ⟨?_, ?_⟩
  . intro uid k hk hunhealthy
    obtain ⟨k₀, hk₀, hhealthy⟩ := healthy_keeper hn hlater hk
    have hnoforce : k₀.status.forceFail = false := by
      cases hf : k₀.status.forceFail with
      | false => rfl
      | true =>
        obtain ⟨k₁, hk₁, hf₁⟩ := (Sentinel.mergedKeepers_keyed keyed_fresh
          (sound_read hn).assigned.keeperKeyed hk₀).2 hf
        rw [hforce uid k₁ hk₁] at hf₁
        cases hf₁
    rw [hunhealthy, hnoforce] at hhealthy
    obtain ⟨t, ht, hlt⟩ := timerExpired_eq_true (by simpa using hhealthy)
    intro m hm hwindow
    exact htracked.keeper uid t ht m hm (Int.lt_of_lt_of_le hlt hwindow)
  . intro uid db db' hdb hdb' hunhealthy
    obtain ⟨hkeeper, k, hk, hhealthy⟩ := healthy_db hn hlater hdb hdb'
    cases hkh : k.status.healthy with
    | false => exact .inl ⟨k, hk, hkh⟩
    | true =>
      rw [hunhealthy, hkh] at hhealthy
      obtain ⟨t, ht, hlt⟩ := timerExpired_eq_true (by simpa using hhealthy)
      right
      intro m hm hwindow
      exact htracked.db uid t db ht hdb m hm (Int.lt_of_lt_of_le hlt hwindow)

end NoFalseFailure

section Detection

structure OneLeader (r : CheckRun) : Prop where
  memory : ∀ (n : Nat), n + 1 < r.length → r.memory (n + 1) = r.after n
  leadershipCount : ∀ (n : Nat), n + 1 < r.length →
    (r.inp (n + 1)).leadershipCount = (r.inp n).leadershipCount

theorem OneLeader.laterRun (h : r.OneLeader) (hn : n + 1 < r.length)
    : r.firstRun (n + 1) = false := by
  have hcount := lastLeadershipCount_after (r := r) (n := n) (by omega)
  simp [firstRun, Sentinel.CheckInput.firstRun, h.memory n hn, hcount, h.leadershipCount n hn]

theorem keeperErrorTimer_le (hone : r.OneLeader) {t : Time} (hn : n < r.length)
    (ht : (r.after n).keeperErrorTimers[uid]? = some t) : t ≤ r.now n := by
  induction n generalizing t with
  | zero => simp [(timers_firstRun hn firstRun_zero).1] at ht
  | succ n ih =>
    have hold {t : Time} (ht : (r.memory (n + 1)).keeperErrorTimers[uid]? = some t)
        : t ≤ r.now (n + 1) := by
      rw [hone.memory n hn] at ht
      exact Int.le_trans (ih (by omega) ht) (r.ordered n hn)
    rw [keeperErrorTimer_after hn (hone.laterRun hn)] at ht
    split at ht
    . split at ht
      . cases ht
      . rcases runTimer_eq_some ht with ht | rfl
        . exact hold ht
        . exact Int.le_refl _
    . exact hold ht

theorem history_le (hone : r.OneLeader) {kih : KeeperInfoHistory} (hn : n < r.length)
    (hkih : (r.after n).keeperInfoHistories[uid]? = some kih) (hseen : kih.seen = true)
    : kih.timer ≤ r.now n := by
  induction n with
  | zero =>
    rw [histories_firstRun hn firstRun_zero] at hkih
    split at hkih
    . obtain ⟨ki, -, rfl⟩ := Option.map_eq_some_iff.mp hkih
      cases hseen
    . cases hkih
  | succ n ih =>
    have hold (hkih : (r.memory (n + 1)).keeperInfoHistories[uid]? = some kih)
        : kih.timer ≤ r.now (n + 1) := by
      rw [hone.memory n hn] at hkih
      exact Int.le_trans (ih (by omega) hkih) (r.ordered n hn)
    rw [histories_after hn (hone.laterRun hn)] at hkih
    split at hkih
    . rw [Sentinel.getElem?_nextHistories] at hkih
      split at hkih
      . split at hkih
        . exact hold hkih
        . cases hkih
          exact Int.le_refl _
      . exact hold hkih
    . exact hold hkih

def Silent (r : CheckRun) (uid infoUID : String) (i : Nat) : Prop :=
  ∀ (m : Nat), i ≤ m → m < r.length →
    ∃ (ki : KeeperInfo), (r.infos m)[uid]? = some ki ∧ ki.infoUID = infoUID

def Remembers (s : Sentinel) (uid infoUID : String) (since : Time) : Prop :=
  ∃ (kih : KeeperInfoHistory),
    s.keeperInfoHistories[uid]? = some kih
      ∧
    kih.keeperInfo.infoUID = infoUID
      ∧
    (kih.seen = true → kih.timer ≤ since)

variable {infoUID : String} {i j : Nat}

theorem remembers_published (hone : r.OneLeader) (hsilent : r.Silent uid infoUID i) (hij : i ≤ j)
    (hj : j < r.length) (hpublish : (r.inp j).publishOK = true)
    : Remembers (r.after j) uid infoUID (r.now j) := by
  obtain ⟨ki, hki, hinfoUID⟩ := hsilent j hij hj
  cases j with
  | zero =>
    refine ⟨{ keeperInfo := ki, seen := false }, ?_, hinfoUID, fun h => by cases h⟩
    rw [histories_firstRun hj firstRun_zero, hpublish, hki]
    rfl
  | succ j =>
    have hhistories := histories_after hj (hone.laterRun hj)
    rw [hpublish, if_pos rfl] at hhistories
    unfold Remembers
    rw [hhistories]
    rcases Sentinel.nextHistories_cases hki with ⟨kih, hkih, huid, hnext⟩ | hnext
    . refine ⟨kih, hnext, huid.trans hinfoUID, ?_⟩
      rw [← hhistories] at hnext
      exact history_le hone hj hnext
    . exact ⟨_, hnext, hinfoUID, fun _ => Int.le_refl _⟩

theorem remembers_later (hone : r.OneLeader) (hsilent : r.Silent uid infoUID i) (hij : i ≤ j)
    (hpublish : (r.inp j).publishOK = true) (hjn : j ≤ n) (hn : n < r.length)
    : Remembers (r.after n) uid infoUID (r.now j) := by
  induction hjn with
  | refl => exact remembers_published hone hsilent hij hn hpublish
  | @step n hjn ih =>
    obtain ⟨kih, hkih, hinfoUID, htimer⟩ := ih (by omega)
    obtain ⟨ki, hki, hkiUID⟩ := hsilent (n + 1) (Nat.le_trans hij (Nat.le_succ_of_le hjn)) hn
    refine ⟨kih, ?_, hinfoUID, htimer⟩
    rw [histories_after hn (hone.laterRun hn), hone.memory n hn]
    split
    . rw [Sentinel.getElem?_nextHistories, ← infos, hki]
      simp [hkih, hinfoUID, hkiUID]
    . exact hkih

theorem not_fresh_of_remembers {since : Time} (hone : r.OneLeader)
    (hsilent : r.Silent uid infoUID i) (hin : i ≤ n + 1) (hn : n + 1 < r.length)
    (hknown : Remembers (r.after n) uid infoUID since)
    (hlate : since + (r.read (n + 1)).cluster.defSpec.sleepInterval < r.now (n + 1))
    : uid ∉ r.fresh (n + 1) := by
  intro hmem
  obtain ⟨ki', hki'⟩ := Option.isSome_iff_exists.mp (Std.ExtTreeMap.mem_iff_isSome_getElem?.mp hmem)
  obtain ⟨ki, hki, hkiUID⟩ := hsilent (n + 1) hin hn
  obtain ⟨kih, hkih, hinfoUID, htimer⟩ := hknown
  obtain ⟨hread, -, hfresh⟩ := Sentinel.getElem?_freshKeepersInfo.mp hki'
  have hsame : ki' = ki := by
    have hread' := ((FinMap.getElem?_filter_eq_some _ _ _ _).mp hki).1
    rw [hread] at hread'
    exact Option.some.inj hread'
  subst hsame
  rw [start_laterRun (hone.laterRun hn)] at hfresh
  simp only [Sentinel.isFreshInfo, hone.memory n hn, hkih, hinfoUID, hkiUID, ne_eq, not_true,
    decide_false, Bool.false_or, Bool.and_eq_true, decide_eq_true_eq] at hfresh
  have hsince := htimer hfresh.1
  have helapsed : r.now (n + 1) ≤ (r.read (n + 1)).cluster.defSpec.sleepInterval + kih.timer :=
    Int.le_add_of_sub_right_le hfresh.2
  have hbound := Int.add_le_add_left hsince (r.read (n + 1)).cluster.defSpec.sleepInterval
  rw [Int.add_comm] at hlate
  exact absurd (Int.le_trans helapsed hbound) (Int.not_le.mpr hlate)

theorem keeperErrorTimer_runs (hone : r.OneLeader) {e : Nat}
    (hstale : ∀ (m : Nat), e ≤ m → m < r.length → uid ∉ r.fresh m) (he : 0 < e) (hen : e ≤ n)
    (hn : n < r.length) (hmem : uid ∈ (r.written n).keepers)
    : ∃ t ≤ r.now e, (r.after n).keeperErrorTimers[uid]? = some t := by
  have hlater {m : Nat} (hm : m < r.length) (hem : e ≤ m) : r.firstRun m = false := by
    obtain ⟨m, rfl⟩ := Nat.exists_eq_add_of_lt (Nat.lt_of_lt_of_le he hem)
    exact hone.laterRun (by omega)
  -- What a check writes without a fresh info was registered before it.
  have hregistered {m : Nat} (hm : m < r.length) (hem : e ≤ m) (hmem : uid ∈ (r.written m).keepers)
      : uid ∈ r.keepers m ∧ uid ∈ (r.read m).keepers := by
    obtain ⟨k, hk⟩ := Option.isSome_iff_exists.mp (Std.ExtTreeMap.mem_iff_isSome_getElem?.mp hmem)
    obtain ⟨k₀, hk₀, -⟩ := healthy_keeper hm (hlater hm hem) hk
    have hmerged : uid ∈ r.keepers m := by
      rw [Std.ExtTreeMap.mem_iff_isSome_getElem?, hk₀]
      rfl
    refine ⟨hmerged, ?_⟩
    rw [keepers, Sentinel.getElem?_mergedKeepers keyed_fresh,
      Std.ExtTreeMap.getElem?_eq_none (hstale m hem hm)] at hk₀
    rw [Std.ExtTreeMap.mem_iff_isSome_getElem?]
    cases hread : (r.read m).keepers[uid]? with
    | none => simp [hread] at hk₀
    | some k => rfl
  induction hen with
  | refl =>
    have htimer : (r.after e).keeperErrorTimers[uid]?
        = Sentinel.runTimer (r.now e) (r.memory e).keeperErrorTimers[uid]? := by
      rw [keeperErrorTimer_after hn (hlater hn (Nat.le_refl e)),
        if_pos (hregistered hn (Nat.le_refl e) hmem).1, if_neg (hstale e (Nat.le_refl e) hn)]
    exact ⟨_, keeperErrorTimer_le hone hn htimer, htimer⟩
  | @step n hen ih =>
    have hen : e ≤ n + 1 := Nat.le_succ_of_le hen
    obtain ⟨hmerged, hread⟩ := hregistered hn hen hmem
    obtain ⟨t, ht, htimer⟩ := ih (by omega) (mem_keepers_succ hn hread)
    refine ⟨t, ht, ?_⟩
    rw [keeperErrorTimer_after hn (hlater hn hen), if_pos hmerged, if_neg (hstale (n + 1) hen hn),
      hone.memory n hn, htimer]
    rfl

theorem timings_read (hn : n < r.length)
    : 0 ≤ (r.read n).cluster.defSpec.sleepInterval ∧ 0 ≤ r.failInterval n := by
  obtain ⟨merged, observed, kihs, hcompleted⟩ := r.completed hn
  have htimings := ClusterSpec.validTimings_of_validate hcompleted.valid
  exact ⟨htimings.sleepInterval, htimings.failInterval⟩

/--
A keeper does not publish any more from the check `i` on. A leader whose checks are at most one
period apart, one of which publishes the Kubernetes Services not later than one period after that
check, records the keeper as not healthy at every check that starts more than the sleep interval, the
fail interval and two periods after it.
-/
theorem silent_keeper_detected (r : CheckRun) (hone : r.OneLeader)
    {sleepInterval failInterval period : Duration}
    (hsleep : ∀ m < r.length, (r.read m).cluster.defSpec.sleepInterval = sleepInterval)
    (hfail : ∀ m < r.length, r.failInterval m = failInterval)
    (hperiod₀ : 0 ≤ period)
    (hperiod : ∀ (m : Nat), m + 1 < r.length → r.now (m + 1) ≤ r.now m + period)
    (hsilent : r.Silent uid infoUID i) (hij : i ≤ j) (hj : j < r.length)
    (hpublish : (r.inp j).publishOK = true) (hjperiod : r.now j ≤ r.now i + period)
    (hn : n < r.length) (hlate : r.now i + sleepInterval + failInterval + 2 * period < r.now n)
    : ∀ (k : Keeper), (r.written n).keepers[uid]? = some k → k.status.healthy = false := by
  intro k hk
  have hsleep₀ : 0 ≤ sleepInterval := hsleep n hn ▸ (timings_read hn).1
  have hfail₀ : 0 ≤ failInterval := hfail n hn ▸ (timings_read hn).2
  -- The first check that starts more than the sleep interval after the check `j`.
  obtain ⟨e, hje, hen, hestart, hebound⟩ : ∃ (e : Nat), j ≤ e ∧ e + 1 ≤ n
      ∧ r.now j + sleepInterval < r.now (e + 1) ∧ r.now e ≤ r.now j + sleepInterval := by
    have hexists : ∃ (e : Nat), r.now j + sleepInterval < r.now e ∧ e ≤ n :=
      ⟨n, by linarith, Nat.le_refl n⟩
    obtain ⟨hestart, hen⟩ := Nat.find_spec hexists
    have hmin := fun m => Nat.find_min hexists (m := m)
    generalize Nat.find hexists = e at hestart hen hmin
    have hje : j < e := by
      by_contra hej
      have hnow := now_le hj (Nat.not_lt.mp hej)
      linarith
    obtain ⟨e, rfl⟩ := Nat.exists_eq_add_of_lt hje
    refine ⟨j + e, by omega, hen, hestart, ?_⟩
    have hbefore := hmin (j + e) (by omega)
    by_contra hlater
    exact hbefore ⟨Int.not_le.mp hlater, by omega⟩
  have hstale (m : Nat) (hem : e + 1 ≤ m) (hm : m < r.length) : uid ∉ r.fresh m := by
    obtain ⟨m, rfl⟩ := Nat.exists_eq_add_of_le' (Nat.le_trans (Nat.le_add_left 1 e) hem)
    have hknown := remembers_later hone hsilent hij hpublish (n := m) (by omega) (by omega)
    refine not_fresh_of_remembers hone hsilent (by omega) hm hknown ?_
    rw [hsleep _ hm]
    exact Int.lt_of_lt_of_le hestart (now_le hm hem)
  have hmem : uid ∈ (r.written n).keepers := by
    rw [Std.ExtTreeMap.mem_iff_isSome_getElem?, hk]
    rfl
  obtain ⟨t, ht, htimer⟩ := keeperErrorTimer_runs hone hstale (by omega) hen hn hmem
  have hstep := hperiod e (by omega)
  have hexpired : Sentinel.timerExpired (r.after n).keeperErrorTimers (r.now n) (r.failInterval n) uid
      = true := by
    rw [hfail n hn]
    simp only [Sentinel.timerExpired, htimer, decide_eq_true_eq]
    linarith
  have hlater : r.firstRun n = false := by
    obtain ⟨n, rfl⟩ := Nat.exists_eq_add_of_le' (Nat.le_trans (Nat.le_add_left 1 e) hen)
    exact hone.laterRun hn
  obtain ⟨k₀, -, hhealthy⟩ := healthy_keeper hn hlater hk
  rw [hhealthy, hexpired]
  rfl

end Detection

section Sample

def sampleTimings : ClusterSpec where
  initMode := some .new
  sleepInterval := some 1
  requestTimeout := some 1
  failInterval := some 3

def sampleMonitored : ClusterData :=
  sampleChecked 1 0 [sampleInfo 1 "k1" none]
    (newClusterData (newCluster "cluster" sampleTimings)).roundTrip

theorem reachable_sampleMonitored : commitSystem.Reachable sampleMonitored :=
  reachable_sampleChecked (by decide +kernel) (.init ⟨"cluster", sampleTimings, rfl⟩)

def sampleSilent (publishOK : Bool) (n : Nat) : Sentinel.CheckInput :=
  { sampleCheck (10 * (n + 1)) 1 [sampleInfo 5 "k1" none] with publishOK }

theorem sampleSilent_writes (publishOK : Bool)
    : ∀ n < 4, (steadyWrite (sampleSilent publishOK) {} sampleMonitored n).isSome = true := by
  cases publishOK <;> decide +kernel

theorem sampleSilent_length (publishOK : Bool)
    : ∀ n < 4, ∀ uid ∈ (steadyStates (sampleSilent publishOK) {} sampleMonitored n).2.dbs.keys,
        uid.length ≤ 1 := by
  cases publishOK <;> decide +kernel

def sampleSilentRun (publishOK : Bool) : CheckRun :=
  steady (sampleSilent publishOK) {} sampleMonitored 4 reachable_sampleMonitored
    (sampleSilent_writes publishOK) (fun _ _ => rfl)
    (fun n _ => by simp [sampleSilent, sampleCheck, Env.simplest])
    (fun n hn m hm => Env.fresh_simplest
      (sampleSilent_length publishOK m (Nat.lt_of_le_of_lt hm hn)))
    (by simp [sampleSilent, sampleCheck])

theorem sampleSilentRun_oneLeader (publishOK : Bool) : (sampleSilentRun publishOK).OneLeader :=
  ⟨fun _ _ => rfl, fun _ _ => rfl⟩

theorem sampleSilentRun_now (publishOK : Bool) (n : Nat)
    : (sampleSilentRun publishOK).now n = 10 * (n + 1) := rfl

theorem sampleSilentRun_period (publishOK : Bool) (n : Nat)
    : (sampleSilentRun publishOK).now (n + 1) ≤ (sampleSilentRun publishOK).now n + 10 := by
  rw [sampleSilentRun_now, sampleSilentRun_now]
  push_cast
  linarith

theorem sampleSilentRun_silent (publishOK : Bool)
    : (sampleSilentRun publishOK).Silent "k1" "5" 0 := by
  have hinfos : ∀ m < 4, (((sampleSilentRun publishOK).infos m)["k1"]?).map KeeperInfo.infoUID
      = some "5" := by
    cases publishOK <;> decide +kernel
  intro m _ hm
  simpa using hinfos m hm

theorem unhealthy_only_if_silent_sample
    : ∃ (k : Keeper),
        ((sampleSilentRun true).written 2).keepers["k1"]? = some k
          ∧
        k.status.healthy = false
          ∧
        ∀ (m : Nat), m ≤ 2 → (30 : Time) - 3 ≤ 10 * (m + 1) → "k1" ∉ (sampleSilentRun true).fresh m := by
  have hrecorded : (((sampleSilentRun true).written 2).keepers["k1"]?).map
      (fun k => k.status.healthy) = some false := by
    decide +kernel
  obtain ⟨k, hk, hhealthy⟩ := Option.map_eq_some_iff.mp hrecorded
  have hinterval : (sampleSilentRun true).failInterval 2 = 3 := by decide +kernel
  have hforce : FinMap.anyValue ((sampleSilentRun true).read 2).keepers
      (fun k => k.status.forceFail) = false := by
    decide +kernel
  have hsilent := ((unhealthy_only_if_silent (sampleSilentRun true) (n := 2) (by decide)).2
    (by decide +kernel) ((FinMap.anyValue_eq_false_iff _ _).mp hforce)).1 "k1" k hk hhealthy
  rw [hinterval] at hsilent
  exact ⟨k, hk, hhealthy, hsilent⟩

theorem silent_keeper_detected_sample
    : ∃ (k : Keeper), ((sampleSilentRun true).written 3).keepers["k1"]? = some k
        ∧
      k.status.healthy = false := by
  have hrecorded : ((sampleSilentRun true).written 3).keepers["k1"]?.isSome := by decide +kernel
  obtain ⟨k, hk⟩ := Option.isSome_iff_exists.mp hrecorded
  have hsleep : ∀ m < 4, ((sampleSilentRun true).read m).cluster.defSpec.sleepInterval = 1 := by
    decide +kernel
  have hfail : ∀ m < 4, (sampleSilentRun true).failInterval m = 3 := by decide +kernel
  exact ⟨k, hk, silent_keeper_detected (sampleSilentRun true) (sampleSilentRun_oneLeader true) hsleep
    hfail (by decide : (0 : Duration) ≤ 10) (fun m _ => sampleSilentRun_period true m)
    (sampleSilentRun_silent true) (Nat.le_refl 0) (by decide) rfl (by decide) (by decide) (by decide)
    k hk⟩

/--
With Services that cannot be published, the fourth check still records the keeper as healthy.
-/
theorem silent_keeper_undetected
    : ∃ (r : CheckRun) (k : Keeper),
        r.OneLeader
          ∧
        (∀ m < r.length, (r.read m).cluster.defSpec.sleepInterval = 1 ∧ r.failInterval m = 3)
          ∧
        (∀ (m : Nat), m + 1 < r.length → r.now (m + 1) ≤ r.now m + 10)
          ∧
        r.Silent "k1" "5" 0
          ∧
        3 < r.length
          ∧
        r.now 0 + 1 + 3 + 2 * 10 < r.now 3
          ∧
        (r.written 3).keepers["k1"]? = some k
          ∧
        k.status.healthy = true := by
  have hrecorded : (((sampleSilentRun false).written 3).keepers["k1"]?).map
      (fun k => k.status.healthy) = some true := by
    decide +kernel
  obtain ⟨k, hk, hhealthy⟩ := Option.map_eq_some_iff.mp hrecorded
  have htimings : ∀ m < 4, ((sampleSilentRun false).read m).cluster.defSpec.sleepInterval = 1
      ∧ (sampleSilentRun false).failInterval m = 3 := by
    decide +kernel
  exact ⟨sampleSilentRun false, k, sampleSilentRun_oneLeader false, htimings,
    fun m _ => sampleSilentRun_period false m, sampleSilentRun_silent false, by decide, by decide,
    hk, hhealthy⟩

end Sample

end CheckRun
end Hysteron
