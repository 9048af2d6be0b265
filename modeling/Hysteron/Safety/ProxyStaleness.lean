import Hysteron.Proxy.Lemmas

/-!
How long a proxy that cannot read the store keeps on routing. A check that fails never routes anew,
but only a timeout and a cancellation that are still in the chain of the error make it stop.
-/

namespace Hysteron
namespace ClusterChecker

open Store

variable {c : ClusterChecker} {a : CheckAnswers}

/--
A check whose answers make it return in the middle with an error that the loop does not take for a
timeout: the cluster data could not be read, or the info could not be published.
-/
def FailsOpen (a : CheckAnswers) (c : ClusterChecker) : Prop :=
  a.ctxErr = none
    ∧
  ((∃ (err : GoError),
      c.backend.getClusterData a.getClusterData = .error err ∧ err.isContextError = false)
    ∨
   ∃ (cd : ClusterData) (addr : String) (err : GoError),
      c.backend.getClusterData a.getClusterData = .ok (some cd)
        ∧
      Opens a.resolve cd addr
        ∧
      c.writable.isSome
        ∧
      c.backend.setProxyInfo a.setProxyInfo = some err
        ∧
      err.isContextError = false)

theorem check_of_read {cd : Option ClusterData} (h : c.Running) (hctx : a.ctxErr = none)
    (hread : c.backend.getClusterData a.getClusterData = .ok cd)
    : c.check a = runActions (c.backend.setProxyInfo a.setProxyInfo) (c.plan a.resolve cd) c := by
  unfold check
  simp only [hctx, hread, startListeners_running h]

theorem check_of_unread {err : GoError} (hctx : a.ctxErr = none)
    (hread : c.backend.getClusterData a.getClusterData = .error err)
    : c.check a = (c, .error (.wrapped "cannot get cluster data" err)) := by
  unfold check
  simp only [hctx, hread]

theorem runActions_unpublished {err : GoError} {generation : Int} {proxyTimeout : Duration}
    {rest : List Action} (hwritable : c.writable.isSome)
    : runActions (some err) (c.publish generation proxyTimeout true ++ rest) c
        = (c, .error (.wrapped "failed to update proxyInfo" err)) := by
  simp [publish, hwritable, runActions]

theorem round_of_unrecognized {err : GoError} (h : c.check a = (c, .error err))
    (herr : err.isContextError = false)
    : c.round a = c := by
  unfold round
  rw [h]
  exact checkFailed_of_not_context herr

theorem FailsOpen.round (hrunning : c.Running) (h : FailsOpen a c)
    : (c.check a).2 ≠ .ok () ∧ c.round a = c := by
  obtain ⟨hctx, ⟨err, hread, herr⟩ | ⟨cd, addr, err, hread, hopens, hwritable, hset, herr⟩⟩ := h
  . have hcheck := check_of_unread hctx hread
    refine ⟨by simp [hcheck], round_of_unrecognized hcheck herr⟩
  . have hcheck := check_of_read hrunning hctx hread
    rw [plan_of_opens hopens, hset, runActions_unpublished hwritable] at hcheck
    exact ⟨by simp [hcheck], round_of_unrecognized hcheck herr⟩

theorem runActions_plan (setProxyInfo : Option GoError) (resolve : String → String → Option String)
    (cd : Option ClusterData) (c : ClusterChecker)
    : (runActions setProxyInfo (c.plan resolve cd) c).1.destination = none
        ∨
      (runActions setProxyInfo (c.plan resolve cd) c).2 = .ok ()
        ∨
      ∃ (cd' : ClusterData) (addr : String) (err : GoError),
        cd = some cd'
          ∧
        Opens resolve cd' addr
          ∧
        c.writable.isSome
          ∧
        setProxyInfo = some err
          ∧
        runActions setProxyInfo (c.plan resolve cd) c
          = (c, .error (.wrapped "failed to update proxyInfo" err)) := by
  obtain ⟨rest, hplan, hrest⟩ | ⟨cd', addr, rfl, hopens⟩ := c.plan_cases resolve cd
  . left
    rw [hplan]
    exact (destination_runActions hrest).trans destination_setWritableDestination_none
  . rw [plan_of_opens hopens]
    cases hw : c.writable.isSome with
    | false => simp [publish, hw, runActions]
    | true =>
      cases setProxyInfo with
      | none => simp [publish, hw, runActions]
      | some err =>
        exact .inr (.inr ⟨cd', addr, err, rfl, hopens, rfl, rfl, runActions_unpublished hw⟩)

theorem destination_round (a : CheckAnswers) (c : ClusterChecker)
    : (c.round a).destination = none ∨ (c.round a).destination = (c.check a).1.destination := by
  unfold round
  split
  . next hcheck => simp [hcheck]
  . next err hcheck =>
    rw [hcheck]
    exact destination_checkFailed err _

theorem destination_round_of_context {err : GoError} (h : (c.check a).2 = .error err)
    (herr : err.isContextError = true)
    : (c.round a).destination = none := by
  have hcheck : c.check a = ((c.check a).1, .error err) := by
    rw [← h]
  unfold round
  rw [hcheck]
  exact destination_checkFailed_of_context herr

theorem destination_of_failed (h : (c.check a).2 ≠ .ok ())
    : (c.round a).destination = none ∨ (c.round a).destination = c.destination := by
  have hcheck : (c.check a).1.destination = none ∨ (c.check a).1.destination = c.destination := by
    revert h
    unfold check
    split
    . simp
    . split
      . simp
      . next cd _ =>
        have hstart := c.startListeners_spec a
        split
        . next hstarted =>
          rw [hstarted] at hstart
          intro _
          exact .inr hstart.1
        . next c' hstarted =>
          rw [hstarted] at hstart
          intro h
          obtain hnone | hok | ⟨_, _, _, _, _, _, _, hrun⟩ :=
            c'.runActions_plan (c'.backend.setProxyInfo a.setProxyInfo) a.resolve cd
          . exact .inl hnone
          . contradiction
          . rw [hrun]
            exact .inr hstart.1
  obtain hround | hround := c.destination_round a
  . exact .inl hround
  . rwa [hround]

theorem destination_of_not_failsOpen (hrunning : c.Running) (hfailed : (c.check a).2 ≠ .ok ())
    (h : ¬ FailsOpen a c)
    : (c.round a).destination = none := by
  cases hctx : a.ctxErr with
  | some err =>
    have hcheck : (c.check a).2 = .error (.context err) := by
      simp [check, hctx]
    exact destination_round_of_context hcheck rfl
  | none =>
    cases hread : c.backend.getClusterData a.getClusterData with
    | error err =>
      refine destination_round_of_context (by rw [check_of_unread hctx hread]) ?_
      by_contra herr
      exact h ⟨hctx, .inl ⟨err, hread, by simpa [GoError.isContextError] using herr⟩⟩
    | ok cd =>
      have hcheck := check_of_read hrunning hctx hread
      obtain hnone | hok | ⟨cd', addr, err, rfl, hopens, hwritable, hset, hrun⟩ :=
        c.runActions_plan (c.backend.setProxyInfo a.setProxyInfo) a.resolve cd
      . obtain hround | hround := c.destination_round a
        . exact hround
        . rw [hround, hcheck, hnone]
      . rw [hcheck] at hfailed
        contradiction
      . refine destination_round_of_context (by rw [hcheck, hrun]) ?_
        by_contra herr
        have herr : err.isContextError = false := by
          simpa [GoError.isContextError] using herr
        exact h ⟨hctx, .inr ⟨cd', addr, err, hread, hopens, hwritable, hset, herr⟩⟩

theorem running_of_succeeds (h : (c.check a).2 = .ok ()) : (c.round a).Running := by
  have hround : c.round a = (c.check a).1 := by
    unfold round
    split
    . next hcheck => simp [hcheck]
    . next hcheck => simp [hcheck] at h
  rw [hround]
  revert h
  unfold check
  split
  . nofun
  . split
    . nofun
    . have hstart := c.startListeners_spec a
      split
      . nofun
      . next hstarted =>
        rw [hstarted] at hstart
        intro _
        exact (hstart.2 rfl).runActions

def after (answers : Nat → CheckAnswers) (c : ClusterChecker) : Nat → ClusterChecker
  | 0 => c
  | n + 1 => (after answers c n).round (answers n)

def Succeeds (answers : Nat → CheckAnswers) (c : ClusterChecker) (n : Nat) : Prop :=
  ((c.after answers n).check (answers n)).2 = .ok ()

def Steady (answers : Nat → CheckAnswers) (c : ClusterChecker) : Prop :=
  ∀ (n : Nat),
    (c.after answers n).proxyCheckInterval = c.proxyCheckInterval
      ∧
    (c.after answers n).proxyTimeout = c.proxyTimeout

/--
When the checks start and return. A check returns by the deadline of its context, and the next one
starts when the timer fires. A check takes effect when it returns.
-/
structure Schedule (answers : Nat → CheckAnswers) (c : ClusterChecker) where
  start : Nat → ℚ
  return_ : Nat → ℚ
  start_le_return : ∀ (n : Nat), start n ≤ return_ n
  return_le_start : ∀ (n : Nat), return_ n ≤ start (n + 1)
  return_le_deadline : ∀ (n : Nat), return_ n ≤ start n + (c.after answers n).proxyTimeout
  start_le_tick
    : ∀ (n : Nat), start (n + 1) ≤ return_ n + (c.after answers (n + 1)).proxyCheckInterval

structure Stale (answers : Nat → CheckAnswers) (c : ClusterChecker) (schedule : Schedule answers c)
    (k n : Nat) (time : ℚ) : Prop where
  returned : ∀ (j : Nat), j < n ↔ schedule.return_ j ≤ time
  lt : k < n
  succeeds : c.Succeeds answers k
  last : ∀ (j : Nat), k < j → j < n → ¬ c.Succeeds answers j
  old : schedule.return_ k + c.proxyCheckInterval + c.proxyTimeout < time

theorem destination_after_failed {answers : Nat → CheckAnswers} {k n : Nat} (hle : k ≤ n)
    (hfailed : ∀ (j : Nat), k ≤ j → j < n → ¬ c.Succeeds answers j)
    (h : (c.after answers k).destination = none)
    : (c.after answers n).destination = none := by
  induction n, hle using Nat.le_induction with
  | base => exact h
  | succ n hle ih =>
    have hn : (c.after answers n).destination = none := by
      apply ih
      intro j hkj hjn
      exact hfailed j hkj (by omega)
    obtain hnone | hsame := destination_of_failed (hfailed n hle (by omega))
    . exact hnone
    . exact hsame.trans hn

def slowest {answers : Nat → CheckAnswers} (hsteady : c.Steady answers)
    (hinterval : 0 ≤ c.proxyCheckInterval) (htimeout : 0 ≤ c.proxyTimeout)
    : Schedule answers c where
  start n := n * (c.proxyCheckInterval + c.proxyTimeout)
  return_ n := n * (c.proxyCheckInterval + c.proxyTimeout) + c.proxyTimeout
  start_le_return n := by
    have : (0 : ℚ) ≤ c.proxyTimeout := by exact_mod_cast htimeout
    linarith
  return_le_start n := by
    have : (0 : ℚ) ≤ c.proxyCheckInterval := by exact_mod_cast hinterval
    push_cast
    linarith
  return_le_deadline n := by
    rw [(hsteady n).2]
  start_le_tick n := by
    rw [(hsteady (n + 1)).1]
    push_cast
    linarith

theorem stale_slowest {answers : Nat → CheckAnswers} {k : Nat} (hsteady : c.Steady answers)
    (hinterval : 0 ≤ c.proxyCheckInterval) (htimeout : 0 < c.proxyTimeout)
    (hsucceeds : c.Succeeds answers k) (hfailed : ¬ c.Succeeds answers (k + 1))
    : Stale answers c (slowest hsteady hinterval htimeout.le) k (k + 2)
        ((slowest hsteady hinterval htimeout.le).return_ (k + 1) + c.proxyTimeout / 2) := by
  have hpos : (0 : ℚ) < c.proxyTimeout := by exact_mod_cast htimeout
  have hnonneg : (0 : ℚ) ≤ c.proxyCheckInterval := by exact_mod_cast hinterval
  refine ⟨?_, by omega, hsucceeds, ?_, ?_⟩
  . intro j
    simp only [slowest]
    push_cast
    constructor
    . intro hj
      have hj : (j : ℚ) ≤ k + 1 := by exact_mod_cast Nat.lt_succ_iff.mp hj
      nlinarith
    . intro hj
      by_contra hle
      have hle : (k + 2 : ℚ) ≤ j := by exact_mod_cast not_lt.mp hle
      nlinarith
  . intro j hkj hj
    obtain rfl : j = k + 1 := by omega
    exact hfailed
  . simp only [slowest]
    push_cast
    linarith

/--
Under every schedule a proxy has no destination whenever the last check that succeeded is too long
ago, exactly if no check fails in the middle right after one that succeeded and left a destination.
-/
theorem closes_when_stale_iff (answers : Nat → CheckAnswers) (c : ClusterChecker)
    (hsteady : c.Steady answers) (hinterval : 0 ≤ c.proxyCheckInterval)
    (hless : c.proxyCheckInterval < c.proxyTimeout)
    : (∀ (schedule : Schedule answers c) (k n : Nat) (time : ℚ),
        Stale answers c schedule k n time → (c.after answers n).destination = none)
        ↔
      ∀ (k : Nat), c.Succeeds answers k → (c.after answers (k + 1)).destination ≠ none
        → ¬ FailsOpen (answers (k + 1)) (c.after answers (k + 1)) := by
  constructor
  . intro h k hsucceeds hdestination hopen
    have hround := hopen.round (running_of_succeeds hsucceeds)
    have htimeout : 0 < c.proxyTimeout := hinterval.trans_lt hless
    have hstale := stale_slowest hsteady hinterval htimeout hsucceeds hround.1
    have hnone := h _ k (k + 2) _ hstale
    have hsame : c.after answers (k + 2) = c.after answers (k + 1) := hround.2
    rw [hsame] at hnone
    exact hdestination hnone
  . intro h schedule k n time hstale
    -- The check after the last one that succeeded has returned, since its deadline has passed.
    have hlt : k + 1 < n := by
      rw [hstale.returned]
      have hdeadline := schedule.return_le_deadline (k + 1)
      have htick := schedule.start_le_tick k
      have hold := hstale.old
      rw [(hsteady (k + 1)).2] at hdeadline
      rw [(hsteady (k + 1)).1] at htick
      linarith
    have hfailed := hstale.last (k + 1) (by omega) hlt
    apply destination_after_failed (k := k + 2) hlt
    . intro j hkj hjn
      exact hstale.last j (by omega) hjn
    . rw [after]
      by_cases hdestination : (c.after answers (k + 1)).destination = none
      . obtain hnone | hsame := destination_of_failed hfailed
        . exact hnone
        . exact hsame.trans hdestination
      . apply destination_of_not_failsOpen (running_of_succeeds hstale.succeeds) hfailed
        exact h k hstale.succeeds hdestination

def sampleRouted : ClusterData where
  formatVersion := currentCDFormatVersion
  cluster := newCluster "cluster" { initMode := some .new }
  keepers := ∅
  dbs := Std.ExtTreeMap.empty.insert "db" {
    uid := "db"
    generation := initialGeneration
    spec := { keeperUID := "keeper", initMode := .new, role := .master }
    status := { listenAddress := "10.0.0.1", port := "5432" }
  }
  proxy := { spec := { masterDBUID := "db", enabledProxies := some ["proxy"] } }

def sampleReads : Nat → CheckAnswers
  | 0 => { getClusterData := .value (some sampleRouted), resolve := fun host _ => some host }
  | _ + 1 => { getClusterData := .failed (.context .deadlineExceeded), resolve := fun _ _ => none }

def sampleChecker (backend : Backend) : ClusterChecker := { uid := "proxy", backend }

theorem config_round_of_unread {err : GoError} (hctx : a.ctxErr = none)
    (hread : c.backend.getClusterData a.getClusterData = .error err)
    : (c.round a).proxyCheckInterval = c.proxyCheckInterval
        ∧
      (c.round a).proxyTimeout = c.proxyTimeout := by
  unfold round
  rw [check_of_unread hctx hread]
  dsimp only [checkFailed]
  split
  . split <;> exact ⟨rfl, rfl⟩
  . exact ⟨rfl, rfl⟩

theorem sample_unread (backend : Backend) (n : Nat)
    : ∃ (err : GoError),
        backend.getClusterData (sampleReads (n + 1)).getClusterData = .error err := by
  obtain _ | (_ | _) := backend <;> exact ⟨_, rfl⟩

theorem sample_failed (backend : Backend) (n : Nat)
    : ¬ (sampleChecker backend).Succeeds sampleReads (n + 1) := by
  obtain ⟨err, hread⟩ :=
    sample_unread ((sampleChecker backend).after sampleReads (n + 1)).backend n
  unfold Succeeds
  rw [check_of_unread rfl hread]
  nofun

theorem sample_steady (backend : Backend) : (sampleChecker backend).Steady sampleReads := by
  intro n
  induction n with
  | zero => exact ⟨rfl, rfl⟩
  | succ n ih =>
    cases n with
    | zero => obtain _ | (_ | _) := backend <;> decide +kernel
    | succ n =>
      obtain ⟨err, hread⟩ :=
        sample_unread ((sampleChecker backend).after sampleReads (n + 1)).backend n
      have hconfig := config_round_of_unread rfl hread
      exact ⟨hconfig.1.trans ih.1, hconfig.2.trans ih.2⟩

theorem closes_when_stale_sample
    : ((sampleChecker .kvBacked).after sampleReads 1).destination
        = some { dbuid := "db", addr := "10.0.0.1" }
        ∧
      ∀ (schedule : Schedule sampleReads (sampleChecker .kvBacked)) (k n : Nat) (time : ℚ),
        Stale sampleReads (sampleChecker .kvBacked) schedule k n time
          → ((sampleChecker .kvBacked).after sampleReads n).destination = none := by
  refine ⟨by decide +kernel, ?_⟩
  refine (closes_when_stale_iff sampleReads (sampleChecker .kvBacked) (sample_steady .kvBacked)
    (by decide) (by decide)).mpr ?_
  intro k hsucceeds _ hopen
  cases k with
  | succ k => exact sample_failed .kvBacked k hsucceeds
  | zero =>
    have hbackend : ((sampleChecker .kvBacked).after sampleReads 1).backend = .kvBacked := by
      decide +kernel
    obtain ⟨-, ⟨err, hread, herr⟩ | ⟨cd, addr, err, hread, -⟩⟩ := hopen
    . rw [hbackend] at hread
      cases hread
      contradiction
    . rw [hbackend] at hread
      contradiction

/--
The Kubernetes store formats the timeout into a text, and the proxy goes on routing without it.
-/
theorem routes_without_store
    : ∃ (schedule : Schedule sampleReads (sampleChecker (.kubernetes .configMap))) (time : ℚ),
        (sampleChecker (.kubernetes .configMap)).Steady sampleReads
          ∧
        Stale sampleReads (sampleChecker (.kubernetes .configMap)) schedule 0 2 time
          ∧
        ((sampleChecker (.kubernetes .configMap)).after sampleReads 2).destination
          = some { dbuid := "db", addr := "10.0.0.1" } := by
  have hsucceeds : (sampleChecker (.kubernetes .configMap)).Succeeds sampleReads 0 := by
    unfold Succeeds
    decide +kernel
  have hsteady := sample_steady (.kubernetes .configMap)
  have hstale := stale_slowest hsteady (by decide) (by decide) hsucceeds (sample_failed _ 0)
  exact ⟨_, _, hsteady, hstale, by decide +kernel⟩

end ClusterChecker
end Hysteron
