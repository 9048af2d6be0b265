import Hysteron.Operations.Calls
import Hysteron.Util.Except

/-!
The calls on one store. The calls that swap never lose an update: each of them writes its mutation of
the document that it replaces, at most once, and never under a pause. The calls that put a whole
document do not have this guarantee, and the second part says what they need.
-/

namespace Hysteron
namespace Operations

open Register (Attempt Client Chained writesOf)

variable {now : Time} {cd next : ClusterData} {stored : Option ClusterData}

def Call.Swaps : Call → Prop
  | .initializeCluster _ _ _ _ => False
  | .writeClusterData _ _ => False
  | _ => True

def Call.pauseGated : Call → Bool
  | .command (.pauseCluster _ _) => false
  | .command .resumeCluster => false
  | .command _ => true
  | .updateClusterSpecification _ => true
  | .patchClusterData _ => true
  | .forceFailover => true
  | .sentinelCheck _ _ _ _ => false
  | .initializeCluster _ _ _ _ => true
  | .writeClusterData _ _ => true

theorem mutateStored_eq_swap {mutate : ClusterData → Except String ClusterData}
    (h : mutateStored mutate stored = .swap next)
    : ∃ (cd cd' : ClusterData), stored = some cd ∧ mutate cd = .ok cd' ∧ next = cd'.roundTrip := by
  cases stored with
  | none => cases h
  | some cd =>
    cases hmutate : mutate cd with
    | error e => simp [mutateStored, hmutate, swapResult] at h
    | ok cd' =>
      simp only [mutateStored, hmutate, swapResult, Attempt.swap.injEq] at h
      exact ⟨cd, cd', rfl, hmutate, h.symm⟩

theorem mutateStored_ne_put (mutate : ClusterData → Except String ClusterData)
    : mutateStored mutate stored ≠ .put next := by
  cases stored with
  | none => simp [mutateStored]
  | some cd => cases hmutate : mutate cd <;> simp [mutateStored, hmutate, swapResult]

theorem promoteStored_eq_swap (h : promoteStored now stored = .swap next)
    : ∃ (cd cd' : ClusterData), stored = some cd ∧ promoteCluster now cd = .ok cd' := by
  cases stored with
  | none => cases h
  | some cd =>
    cases hpromote : promoteCluster now cd with
    | error e => simp [promoteStored, hpromote] at h
    | ok cd' => exact ⟨cd, cd', rfl, hpromote⟩

theorem promoteStored_ne_put : promoteStored now stored ≠ .put next := by
  unfold promoteStored
  repeat' split
  all_goals simp

theorem Call.attempt_ne_put {call : Call} (hswaps : call.Swaps)
    : call.attempt now stored ≠ .put next := by
  unfold Call.attempt
  split
  . apply promoteStored_ne_put
  . split
    . simp
    . apply mutateStored_ne_put
  . simp
  . apply mutateStored_ne_put
  . simp
  . apply mutateStored_ne_put
  . apply mutateStored_ne_put
  . repeat' split
    all_goals simp
  . cases hswaps
  . cases hswaps

theorem validatedClusterData_not_paused (h : validatedClusterData now cd = .ok ())
    : cd.cluster.status.pauseActive now = false := by
  unfold validatedClusterData at h
  split at h
  . cases h
  . split at h
    . cases h
    . split at h
      . cases h
      . next hpause => simpa using hpause

theorem mutateClusterData_not_paused {mutate : ClusterData → Except String ClusterData}
    (h : mutateClusterData now true mutate cd = .ok next)
    : cd.cluster.status.pauseActive now = false := by
  unfold mutateClusterData at h
  split at h
  . cases h
  . next hpause => simpa using hpause

theorem not_paused_of_validated {rest : Unit → Except String ClusterData}
    (h : (validatedClusterData now cd >>= rest) = .ok next)
    : cd.cluster.status.pauseActive now = false := by
  rw [Except.bind_eq_ok_iff] at h
  obtain ⟨_, hvalid, -⟩ := h
  exact validatedClusterData_not_paused hvalid

theorem Command.run_not_paused {c : Command} (hgated : (Call.command c).pauseGated = true)
    (h : c.run now cd = .ok next) : cd.cluster.status.pauseActive now = false := by
  cases c with
  | pauseCluster reason ttl => cases hgated
  | resumeCluster => cases hgated
  | requestManualSwitch targetKeeperUID mode =>
    simp only [Command.run, Operations.requestManualSwitch] at h
    split at h
    . cases h
    . exact mutateClusterData_not_paused h
  | reinitializeReplica order targetKeeperUID =>
    simp only [Command.run, Operations.reinitializeReplica] at h
    split at h
    . cases h
    . exact mutateClusterData_not_paused h
  | promoteCluster => exact not_paused_of_validated h
  | removeKeeper order keeperUID =>
    simp only [Command.run, Operations.removeKeeper] at h
    split at h
    . cases h
    . exact not_paused_of_validated h
  | failKeeper keeperUID =>
    simp only [Command.run, Operations.failKeeper] at h
    split at h
    . cases h
    . exact not_paused_of_validated h
  | updateClusterSpecification nextSpec => exact not_paused_of_validated h

theorem Call.attempt_not_paused {call : Call} (hgated : call.pauseGated = true)
    (h : call.attempt now (some cd) = .swap next) : cd.cluster.status.pauseActive now = false := by
  have hmutate {mutate : ClusterData → Except String ClusterData}
      (hpause : ∀ cd', mutate cd = .ok cd' → cd.cluster.status.pauseActive now = false)
      (h : mutateStored mutate (some cd) = .swap next)
      : cd.cluster.status.pauseActive now = false := by
    obtain ⟨_, cd', heq, hrun, -⟩ := mutateStored_eq_swap h
    cases heq
    exact hpause cd' hrun
  unfold Call.attempt at h
  split at h
  . obtain ⟨_, cd', heq, hrun⟩ := promoteStored_eq_swap h
    cases heq
    exact not_paused_of_validated hrun
  . split at h
    . cases h
    . apply hmutate _ h
      intro cd' hrun
      exact Command.run_not_paused hgated hrun
  . cases h
  . exact hmutate (fun _ => not_paused_of_validated) h
  . cases h
  . exact hmutate (fun _ => not_paused_of_validated) h
  . exact hmutate (fun _ => not_paused_of_validated) h
  . cases hgated
  . unfold guardOverwrite putResult at h
    repeat' split at h
    all_goals cases h
  . unfold guardOverwrite putResult at h
    repeat' split at h
    all_goals cases h

section Swaps

variable {κ : Type} [DecidableEq κ]

/--
Any interleaving of calls that swap. The stored documents follow each other without a gap, and each
one is the mutation of its writer applied to the document that it replaces. A call that failed has
written nothing, except when it does not know; one that succeeded has written at most once; and a
pause-gated one has replaced no document whose pause was active when it looked.
-/
theorem calls_lose_no_update (call : κ → Call) (hswaps : ∀ (k : κ), (call k).Swaps)
    (s : Register.State κ Time ClusterData String)
    (h : (Register.system (fun k => (call k).program)).Reachable s)
    : (∃ (first : Option ClusterData), Chained first s.value s.writes)
        ∧
      (∀ w ∈ s.writes, (call w.writer).attempt w.env w.replaced = .swap w.next)
        ∧
      (∀ (k : κ),
        (∃ e, s.client k = .returned (.failed e))
          ∨
        s.client k = .returned .readFailed
          ∨
        s.client k = .returned .conflict
          →
        ∀ w ∈ s.writes, w.writer ≠ k)
        ∧
      (∀ (k : κ), s.client k = .returned .success → (writesOf k s.writes).length ≤ 1)
        ∧
      (∀ w ∈ s.writes, (call w.writer).pauseGated = true →
        ∀ (cd : ClusterData), w.replaced = some cd →
          cd.cluster.status.pauseActive w.env = false) := by
  have haccounted := Register.accounted_inductive.of_reachable h
  have hexact : ∀ w ∈ s.writes, (call w.writer).attempt w.env w.replaced = .swap w.next := by
    intro w hw
    cases haccounted.exact w hw with
    | inl hswap =>
      rw [hswap.2]
      exact hswap.1
    | inr hput => exact absurd hput (Call.attempt_ne_put (hswaps w.writer))
  have hnone (k : κ) (hzero : (s.client k).maxWrites = 0) : ∀ w ∈ s.writes, w.writer ≠ k := by
    have hcounted := haccounted.counted k
    rw [hzero, Nat.le_zero, List.length_eq_zero_iff] at hcounted
    simpa [writesOf, List.filter_eq_nil_iff] using hcounted
  refine ⟨haccounted.chained, hexact, ?_, ?_, ?_⟩
  . rintro k (⟨e, hreturned⟩ | hreturned | hreturned)
    . apply hnone k
      rw [hreturned]
      rfl
    . apply hnone k
      rw [hreturned]
      rfl
    . apply hnone k
      rw [hreturned]
      rfl
  . intro k hreturned
    have hcounted := haccounted.counted k
    rw [hreturned] at hcounted
    exact hcounted
  . intro w hw hgated cd hcd
    have hattempt := hexact w hw
    rw [hcd] at hattempt
    exact Call.attempt_not_paused hgated hattempt

def sampleStore : Register.State Bool Time ClusterData String where
  value := some (newClusterData (newCluster "cluster" { initMode := some .new }))
  client := fun _ => .ready 3
  writes := []

theorem calls_lose_no_update_sample
    : ∃ (s : Register.State Bool Time ClusterData String),
        (Register.system (fun (_ : Bool) => (Call.command .resumeCluster).program)).Reachable s
          ∧
        s.writes.length = 2
          ∧
        (∀ w ∈ s.writes,
          (Call.command .resumeCluster).attempt w.env w.replaced = .swap w.next) := by
  have hread := TransitionSystem.Reachable.step
    (M := Register.system (fun (_ : Bool) => (Call.command .resumeCluster).program))
    (.init (x := sampleStore) ⟨rfl, rfl⟩) (.attempted true 1 2 rfl)
  have hwritten := hread.step (.written true 1 _ _ _ true rfl (.inr rfl))
  have hread' := hwritten.step (.attempted false 2 2 rfl)
  have hwritten' := hread'.step (.written false 2 _ _ _ true rfl (.inr rfl))
  refine ⟨_, hwritten', rfl, ?_⟩
  exact (calls_lose_no_update (fun _ => .command .resumeCluster) (fun _ => trivial) _ hwritten').2.1

end Swaps

section Puts

variable {κ : Type} [DecidableEq κ]

inductive StoreClient where
  | call (c : Call)
  | other (p : Register.Program Time ClusterData String)

def StoreClient.program : StoreClient → Register.Program Time ClusterData String
  | .call c => c.program
  | .other p => p

def StoreClient.Unforced : StoreClient → Prop
  | .call (.initializeCluster _ _ false _) => True
  | .call (.writeClusterData _ false) => True
  | _ => False

def Undisturbed (client : κ → StoreClient) (s s' : Register.State κ Time ClusterData String)
    : Prop :=
  ∀ (k : κ) (env : Time) (read : Option ClusterData) (next : ClusterData) (mode : Register.Mode),
    (client k).Unforced
      →
    s.client k = .writing env read next mode
      →
    s'.writes ≠ s.writes
      →
    ∃ w, s'.writes = w :: s.writes ∧ w.writer = k

theorem guardOverwrite_unforced {skipIfPresent : Bool}
    (h : guardOverwrite now false skipIfPresent stored = none) : stored = none := by
  cases stored with
  | none => rfl
  | some existing =>
    simp only [guardOverwrite] at h
    split at h
    . cases h
    . split at h
      . cases h
      . cases h

theorem StoreClient.read_eq_none {client : StoreClient} {mode : Register.Mode}
    (hunforced : client.Unforced) (h : client.program.attempt now stored = mode.attempt next)
    : stored = none := by
  have hguard {skipIfPresent : Bool} {document : Except String ClusterData}
      (h : (guardOverwrite now false skipIfPresent stored).getD (putResult document)
        = mode.attempt next) : stored = none := by
    cases hg : guardOverwrite now false skipIfPresent stored with
    | none => exact guardOverwrite_unforced hg
    | some attempt =>
      rw [hg] at h
      cases stored with
      | none => rfl
      | some existing =>
        simp only [guardOverwrite] at hg
        cases mode <;> (repeat' split at hg) <;> cases hg <;> cases h
  unfold StoreClient.Unforced at hunforced
  split at hunforced
  . exact hguard h
  . exact hguard h
  . cases hunforced

structure Untouched (client : κ → StoreClient) (s : Register.State κ Time ClusterData String)
    : Prop where
  pending : ∀ (k : κ) (env : Time) (read : Option ClusterData) (next : ClusterData)
    (mode : Register.Mode), (client k).Unforced → s.client k = .writing env read next mode →
      s.value = none
  present : s.writes ≠ [] → s.value ≠ none
  fresh : ∀ w ∈ s.writes, (client w.writer).Unforced → w.replaced = none
  single : ∀ w ∈ s.writes, ∀ w' ∈ s.writes, (client w.writer).Unforced →
    (client w'.writer).Unforced → w.writer = w'.writer

variable {client : κ → StoreClient} {s : Register.State κ Time ClusterData String} {k : κ}

theorem Untouched.setClient {c : Client Time ClusterData String} (h : Untouched client s)
    (hpending : ∀ (env : Time) (read : Option ClusterData) (next : ClusterData)
      (mode : Register.Mode), (client k).Unforced → c = .writing env read next mode →
        s.value = none)
    : Untouched client (s.setClient k c) where
  pending := by
    intro k' env read next mode hunforced hwriting
    rw [Register.setClient_client] at hwriting
    split at hwriting
    . next heq =>
      subst heq
      exact hpending env read next mode hunforced hwriting
    . exact h.pending k' env read next mode hunforced hwriting
  present := h.present
  fresh := h.fresh
  single := h.single

theorem Untouched.written {env : Time} {read : Option ClusterData} {next : ClusterData}
    {mode : Register.Mode} {o : Register.Outcome String} (h : Untouched client s)
    (hwriting : s.client k = .writing env read next mode)
    (hundisturbed : Undisturbed client s ((s.write k env read next).setClient k (.returned o)))
    : Untouched client ((s.write k env read next).setClient k (.returned o)) where
  pending := by
    intro k' env' read' next' mode' hunforced hwriting'
    rw [Register.setClient_client] at hwriting'
    split at hwriting'
    . cases hwriting'
    . next hne =>
      obtain ⟨w, hw, hwriter⟩ := hundisturbed k' env' read' next' mode' hunforced hwriting'
        (by simp [Register.State.write])
      cases hw
      exact absurd hwriter.symm hne
  present := by simp [Register.State.write]
  fresh := by
    intro w hw hunforced
    cases List.mem_cons.mp hw with
    | inl hnew =>
      subst hnew
      exact h.pending k env read next mode hunforced hwriting
    | inr hold => exact h.fresh w hold hunforced
  single := by
    -- An unforced write is the first one of all, since it finds no document.
    have hfirst (hunforced : (client k).Unforced) : s.writes = [] := by
      apply Classical.byContradiction
      intro hne
      exact h.present hne (h.pending k env read next mode hunforced hwriting)
    intro w hw w' hw' hunforced hunforced'
    cases List.mem_cons.mp hw with
    | inl hnew =>
      subst hnew
      rw [Register.setClient_writes, Register.State.write, hfirst hunforced] at hw'
      rw [List.mem_singleton.mp hw']
    | inr hold =>
      cases List.mem_cons.mp hw' with
      | inl hnew =>
        subst hnew
        rw [hfirst hunforced'] at hold
        cases hold
      | inr hold' => exact h.single w hold w' hold' hunforced hunforced'

theorem untouched_inductive (client : κ → StoreClient)
    : ((Register.system (fun k => (client k).program)).restrict (Undisturbed client)).Inductive
        (Untouched client) where
  init := by
    rintro s ⟨hclient, hwrites⟩
    constructor
    . intro k env read next mode _ hwriting
      rw [hclient] at hwriting
      cases hwriting
    . intro hne
      exact absurd hwrites hne
    . simp [hwrites]
    . simp [hwrites]
  step := by
    rintro s s' h ⟨hstep, hundisturbed⟩
    cases hstep with
    | attempted k env left hready =>
      apply h.setClient
      intro env' read' next mode hunforced hwriting
      obtain ⟨rfl, rfl, hattempt⟩ := Attempt.client_eq_writing hwriting
      exact StoreClient.read_eq_none hunforced hattempt
    | readFailed k left hready =>
      apply h.setClient
      intros
      contradiction
    | exhausted k hready =>
      apply h.setClient
      intros
      contradiction
    | written k env read next mode answered hwriting hallowed =>
      exact h.written hwriting hundisturbed
    | rejected k env read next left hwriting hmodified =>
      apply h.setClient
      intros
      contradiction
    | lost k env read next mode hwriting =>
      apply h.setClient
      intros
      contradiction

/--
As long as nobody else writes while an unforced call is between its read and its write, an unforced
call replaces no document, and two of them do not both write.
-/
theorem unforced_overwrites_nothing (client : κ → StoreClient)
    (s : Register.State κ Time ClusterData String)
    (h : ((Register.system (fun k => (client k).program)).restrict
      (Undisturbed client)).Reachable s)
    : (∀ w ∈ s.writes, (client w.writer).Unforced → w.replaced = none)
        ∧
      (∀ w ∈ s.writes, ∀ w' ∈ s.writes, (client w.writer).Unforced → (client w'.writer).Unforced →
        w.writer = w'.writer) := by
  have huntouched := (untouched_inductive client).of_reachable h
  exact ⟨huntouched.fresh, huntouched.single⟩

def sampleInitialize (uid : String) : StoreClient :=
  .call (.initializeCluster uid (.ok { initMode := some .new }) false false)

def sampleEmpty : Register.State Bool Time ClusterData String where
  value := none
  client := fun _ => .ready 1
  writes := []

def sampleDocument : ClusterData :=
  (newClusterData (newCluster "cluster" { initMode := some .new })).roundTrip

theorem unforced_overwrites_nothing_sample
    : ∃ (s : Register.State Bool Time ClusterData String),
        ((Register.system (fun (_ : Bool) => (sampleInitialize "cluster").program)).restrict
          (Undisturbed (fun _ => sampleInitialize "cluster"))).Reachable s
          ∧
        s.writes.length = 1
          ∧
        ∀ w ∈ s.writes, (sampleInitialize "cluster").Unforced → w.replaced = none := by
  have hread := TransitionSystem.Reachable.step
    (M := (Register.system (fun (_ : Bool) => (sampleInitialize "cluster").program)).restrict
      (Undisturbed (fun _ => sampleInitialize "cluster")))
    (.init (x := sampleEmpty) ⟨rfl, rfl⟩)
    ⟨.attempted true 1 0 rfl, fun _ _ _ _ _ _ _ hne => absurd rfl hne⟩
  have hwritten := hread.step ⟨.written true 1 none sampleDocument .put true rfl (.inl rfl), by
    intro k env read next mode _ hwriting _
    cases k with
    | true => exact ⟨_, rfl, rfl⟩
    | false => cases hwriting⟩
  refine ⟨_, hwritten, rfl, ?_⟩
  exact (unforced_overwrites_nothing (fun _ => sampleInitialize "cluster") _ hwritten).1

/--
Two initializations without force that both find no document: the second one replaces the document of
the first one, and both succeed.
-/
theorem unforced_overwrites
    : ∃ (client : Bool → StoreClient) (s : Register.State Bool Time ClusterData String),
        (∀ (k : Bool), (client k).Unforced)
          ∧
        (Register.system (fun k => (client k).program)).Reachable s
          ∧
        (∃ w ∈ s.writes, w.replaced ≠ none)
          ∧
        (∀ (k : Bool), s.client k = .returned .success ∧ ∃ w ∈ s.writes, w.writer = k) := by
  have hread := TransitionSystem.Reachable.step
    (M := Register.system (fun (_ : Bool) => (sampleInitialize "cluster").program))
    (.init (x := sampleEmpty) ⟨rfl, rfl⟩) (.attempted true 1 0 rfl)
  have hread' := hread.step (.attempted false 1 0 rfl)
  have hwritten := hread'.step (.written true 1 none sampleDocument .put true rfl (.inl rfl))
  have hwritten' := hwritten.step (.written false 1 none sampleDocument .put true rfl (.inl rfl))
  refine ⟨fun _ => sampleInitialize "cluster", _, fun _ => trivial, hwritten', ?_, ?_⟩
  . exact ⟨_, List.mem_cons_self, by simp [Register.State.write]⟩
  . intro k
    cases k with
    | true => exact ⟨rfl, _, List.mem_cons_of_mem _ List.mem_cons_self, rfl⟩
    | false => exact ⟨rfl, _, List.mem_cons_self, rfl⟩

end Puts

end Operations
end Hysteron
