import Hysteron.Keeper.SlotAdvance
import Hysteron.Operations.Lemmas
import Hysteron.Util.TransitionSystem

/-!
A logical slot of a standby must not get ahead of the slot of the master, or a failover loses changes.
The positions come from the cluster data of a tick, and the request is made later by another
goroutine.
-/

namespace Hysteron
namespace Keeper

/-! ## What one step leaves to be requested -/

section Plan

variable {current : List LogicalReplicationSlot} {masterLSN : FinMap String Nat} {replayLSN : Nat}
  {matchers : List ReplicationSlotMatcher} {desired : List ManagedLogicalReplicationSlot}
  {op : LogicalSlotAdvanceOperation}

theorem computeLogicalSlotAdvanceTarget_eq_some {desiredLSN confirmed target : Nat}
    (h : computeLogicalSlotAdvanceTarget desiredLSN replayLSN confirmed = some target)
    : target ≤ desiredLSN ∧ target ≤ replayLSN ∧ confirmed < target := by
  unfold computeLogicalSlotAdvanceTarget at h
  split at h
  . cases h
  . dsimp only at h
    split at h
    . cases h
    . next hlt =>
      cases h
      exact ⟨min_le_right _ _, min_le_left _ _, not_le.mp hlt⟩

theorem mem_of_currentByName {name : String} {slot : LogicalReplicationSlot}
    (h : (currentByName current)[name]? = some slot) : slot ∈ current ∧ slot.name = name := by
  rw [currentByName, Std.ExtTreeMap.ofList_eq_insertMany_empty,
    Std.ExtTreeMap.getElem?_insertMany_list, Std.ExtTreeMap.getElem?_empty, Option.or_none,
    List.findSomeRev?_eq_findSome?_reverse] at h
  obtain ⟨entry, hentry, hslot⟩ := List.exists_of_findSome?_eq_some h
  obtain ⟨slot', hslot', rfl⟩ := List.mem_map.mp (List.mem_reverse.mp hentry)
  simp only [compare_eq_iff_eq, Option.ite_none_right_eq_some, Option.some.injEq] at hslot
  obtain ⟨hname, rfl⟩ := hslot
  exact ⟨hslot', hname⟩

structure Planned (current : List LogicalReplicationSlot) (masterLSN : FinMap String Nat)
    (replayLSN : Nat) (name database : String) (targetLSN : Nat) : Prop where
  behind : ∃ slot ∈ current,
    slot.name = name ∧ slot.database = database ∧ slot.confirmedFlushLSN < targetLSN
  master : ∃ (desiredLSN : Nat), masterLSN[name]? = some desiredLSN ∧ targetLSN ≤ desiredLSN
  replay : targetLSN ≤ replayLSN

theorem planned_of_mem
    (h : op ∈ evaluateManagedLogicalSlotAdvanceOperations desired current masterLSN replayLSN matchers)
    : Planned current masterLSN replayLSN op.name op.database op.targetLSN := by
  unfold evaluateManagedLogicalSlotAdvanceOperations at h
  split at h
  . cases h
  obtain ⟨desiredSlot, -, hplan⟩ := List.mem_filterMap.mp h
  simp only [planLogicalSlotAdvance, Option.bind_eq_bind, Option.bind_eq_some_iff,
    Option.pure_def, Option.some.injEq] at hplan
  obtain ⟨_, -, desiredLSN, hdesired, currentSlot, hcurrent, _, -, _, hsame, target, htarget, rfl⟩ :=
    hplan
  obtain ⟨hslot, hname⟩ := mem_of_currentByName hcurrent
  obtain ⟨hle, hreplay, hlt⟩ := computeLogicalSlotAdvanceTarget_eq_some htarget
  have hdatabase : currentSlot.database = desiredSlot.database := by
    have hsame := (Option.guard_eq_some' _).mp hsame
    simp only [differs, Bool.not_or, Bool.and_eq_true, Bool.not_eq_true', decide_eq_false_iff_not,
      not_not] at hsame
    exact hsame.1
  exact ⟨⟨currentSlot, hslot, hname, hdatabase, hlt⟩, ⟨desiredLSN, hdesired, hle⟩, hreplay⟩

end Plan

section Steps

variable {s s' : AdvanceState} {op : QueuedLogicalSlotAdvanceOperation} {tick : SlotTick}

def Awaiting (s : AdvanceState) (op : QueuedLogicalSlotAdvanceOperation) : Prop :=
  (∃ (key : String), s.pending[key]? = some op)
    ∨
  ∃ (key : String) (now : Time), s.worker = .selected key op now

theorem pending_enqueue {retryAfter : FinMap String Time} {now : Time}
    {masterLSN : FinMap String Nat} {replayLSN : Nat}
    {queue : FinMap String QueuedLogicalSlotAdvanceOperation × Bool}
    {planned : LogicalSlotAdvanceOperation} {key : String}
    (h : (enqueueLogicalSlotAdvanceOperation retryAfter now masterLSN replayLSN queue planned).1[key]?
      = some op)
    : queue.1[key]? = some op
        ∨
      op.name = planned.name ∧ op.database = planned.database ∧ op.targetLSN = planned.targetLSN := by
  unfold enqueueLogicalSlotAdvanceOperation at h
  dsimp only at h
  split at h
  . split at h
    . exact .inl h
    . rw [Std.ExtTreeMap.getElem?_insert] at h
      split at h
      . cases h
        exact .inr ⟨rfl, rfl, rfl⟩
      . exact .inl h
  . exact .inl h

theorem pending_foldl_enqueue {retryAfter : FinMap String Time} {now : Time}
    {masterLSN : FinMap String Nat} {replayLSN : Nat} {ops : List LogicalSlotAdvanceOperation}
    {queue : FinMap String QueuedLogicalSlotAdvanceOperation × Bool} {key : String}
    (h : (ops.foldl (enqueueLogicalSlotAdvanceOperation retryAfter now masterLSN replayLSN)
      queue).1[key]? = some op)
    : queue.1[key]? = some op
        ∨
      ∃ planned ∈ ops, op.name = planned.name ∧ op.database = planned.database
        ∧ op.targetLSN = planned.targetLSN := by
  induction ops generalizing queue with
  | nil => exact .inl h
  | cons first ops ih =>
    obtain h | ⟨planned, hplanned, heq⟩ := ih h
    . obtain h | heq := pending_enqueue h
      . exact .inl h
      . exact .inr ⟨first, List.mem_cons_self, heq⟩
    . exact .inr ⟨planned, List.mem_cons_of_mem _ hplanned, heq⟩

theorem awaiting_of_enqueue {now : Time} {ops : List LogicalSlotAdvanceOperation}
    {masterLSN : FinMap String Nat} {replayLSN : Nat}
    (h : Awaiting (enqueueLogicalSlotAdvanceOperations now ops masterLSN replayLSN s) op)
    : Awaiting s op
        ∨
      ∃ planned ∈ ops, op.name = planned.name ∧ op.database = planned.database
        ∧ op.targetLSN = planned.targetLSN := by
  unfold enqueueLogicalSlotAdvanceOperations at h
  split at h
  . exact .inl h
  . obtain ⟨key, hpending⟩ | hselected := h
    . obtain hpending | hplanned := pending_foldl_enqueue hpending
      . exact .inl (.inl ⟨key, hpending⟩)
      . exact .inr hplanned
    . exact .inl (.inr hselected)

@[simp]
theorem worker_refresh : (tick.refresh s).worker = s.worker := by
  unfold SlotTick.refresh
  split
  . rfl
  . split
    . rfl
    . rfl
    . unfold enqueueLogicalSlotAdvanceOperations
      split <;> rfl

theorem awaiting_of_run {step : WorkerStep} (hrun : step.run s = some s') (h : Awaiting s' op)
    : Awaiting s op := by
  cases step with
  | wake =>
    simp only [WorkerStep.run, Option.ite_none_right_eq_some, Option.some.injEq] at hrun
    obtain ⟨-, rfl⟩ := hrun
    obtain hpending | ⟨key, now, hselected⟩ := h
    . exact .inl hpending
    . cases hselected
  | select order now =>
    simp only [WorkerStep.run, Option.ite_none_right_eq_some, Option.some.injEq] at hrun
    obtain ⟨-, rfl⟩ := hrun
    unfold selectLogicalSlotAdvance at h
    split at h
    . obtain hpending | ⟨key, now, hselected⟩ := h
      . exact .inl hpending
      . cases hselected
    dsimp only at h
    split at h
    . obtain hpending | ⟨key, now, hselected⟩ := h
      . exact .inl hpending
      . cases hselected
    . next key op' hfound =>
      obtain ⟨key', -, hop⟩ := Option.bind_eq_some_iff.mp hfound
      obtain ⟨op'', hop, heq⟩ := Option.map_eq_some_iff.mp hop
      cases heq
      obtain ⟨key', hpending⟩ | ⟨key', now', hselected⟩ := h
      . rw [Std.ExtTreeMap.getElem?_erase] at hpending
        split at hpending
        . cases hpending
        . exact .inl ⟨key', hpending⟩
      . cases hselected
        exact .inl ⟨key, hop⟩
  | request =>
    cases hworker : s.worker with
    | selected key op' now =>
      simp only [WorkerStep.run, hworker, Option.some.injEq] at hrun
      subst hrun
      obtain hpending | ⟨key, now, hselected⟩ := h
      . exact .inl hpending
      . cases hselected
    | waiting | looking | requested _ _ _ => simp [WorkerStep.run, hworker] at hrun
  | answer ok =>
    cases hworker : s.worker with
    | requested key op' now =>
      simp only [WorkerStep.run, hworker, Option.some.injEq] at hrun
      subst hrun
      obtain hpending | ⟨key, now, hselected⟩ := h
      . exact .inl hpending
      . cases hselected
    | waiting | looking | selected _ _ _ => simp [WorkerStep.run, hworker] at hrun

theorem awaiting_of_refresh (h : Awaiting (tick.refresh s) op)
    : Awaiting s op
        ∨
      ∃ (db : DB) (current : List LogicalReplicationSlot),
        tick.db = some db
          ∧
        tick.refreshPath db = .plan current
          ∧
        Planned current tick.masterLSN db.status.xLogPos op.name op.database op.targetLSN := by
  unfold SlotTick.refresh at h
  split at h
  . exact .inl h
  . next db hdb =>
    split at h
    . exact .inl h
    . obtain ⟨key, hpending⟩ | hselected := h
      . simp [resetLogicalSlotAdvanceState] at hpending
      . exact .inl (.inr hselected)
    . next current hpath =>
      obtain h | ⟨planned, hplanned, hname, hdatabase, htarget⟩ := awaiting_of_enqueue h
      . exact .inl h
      . refine .inr ⟨db, current, hdb, hpath, ?_⟩
        rw [hname, hdatabase, htarget]
        exact planned_of_mem hplanned

end Steps

/-! ## Runs -/

structure AdvanceRun where
  state : AdvanceState
  ticks : List SlotTick

def advanceSystem (keeperUID : String) : TransitionSystem AdvanceRun where
  init x := x = { state := {}, ticks := [] }
  step x y :=
    (∃ (tick : SlotTick), tick.keeperUID = keeperUID
      ∧ y = { state := tick.refresh x.state, ticks := tick :: x.ticks })
      ∨
    ∃ (step : WorkerStep), step.run x.state = some y.state ∧ y.ticks = x.ticks

namespace SlotTick

variable (tick : SlotTick)

def sawMaster : Bool := tick.db.any (fun db => db.spec.role = .master)

def plans : Bool :=
  match tick.db with
  | none => false
  | some db =>
    match tick.refreshPath db with
    | .plan _ => true
    | .keep | .reset => false

def resets : Bool :=
  match tick.db with
  | none => false
  | some db =>
    match tick.refreshPath db with
    | .reset => true
    | .keep | .plan _ => false

def masterPosition (slot : String) : Nat :=
  ((tick.cd.dbs[tick.cd.cluster.status.master]?.bind
    (fun db => db.status.managedLogicalSlots)).bind (fun slots => slots[slot]?)).getD 0

def standbyPosition : Nat := tick.db.elim 0 (fun db => db.status.xLogPos)

end SlotTick

/--
What makes a request a safe one: when it was planned the slot was behind it, the keeper has not been a
master since, and it does not go beyond the positions that were planned from last.
-/
structure SoundRequest (ticks : List SlotTick) (op : QueuedLogicalSlotAdvanceOperation) : Prop where
  planned : ∃ (later : List SlotTick) (tick : SlotTick) (earlier : List SlotTick),
    ticks = later ++ tick :: earlier
      ∧
    (∃ current ∈ tick.logicalSlots, ∃ slot ∈ current,
      slot.name = op.name ∧ slot.database = op.database ∧ slot.confirmedFlushLSN < op.targetLSN)
      ∧
    tick.plans = true
      ∧
    ∀ tick' ∈ later, tick'.sawMaster = false
  bounded : ∃ (latest : SlotTick),
    ticks.find? SlotTick.plans = some latest
      ∧
    op.targetLSN ≤ latest.masterPosition op.name
      ∧
    op.targetLSN ≤ latest.standbyPosition

structure SafeTick (s : AdvanceState) (tick : SlotTick) : Prop where
  oneMaster : tick.plans = true → ∀ (uid : String) (db : DB),
    tick.cd.dbs[uid]? = some db → db.spec.role = .master → uid = tick.cd.cluster.status.master
  ahead : tick.plans = true → ∀ (op : QueuedLogicalSlotAdvanceOperation), Awaiting s op →
    op.targetLSN ≤ tick.masterPosition op.name ∧ op.targetLSN ≤ tick.standbyPosition
  emptied : tick.sawMaster = true →
    (s.pending = ∅ ∨ tick.resets = true)
      ∧
    ∀ (key : String) (op : QueuedLogicalSlotAdvanceOperation) (now : Time),
      s.worker ≠ .selected key op now

section Runs

variable {tick : SlotTick} {s : AdvanceState} {op : QueuedLogicalSlotAdvanceOperation}
  {ticks : List SlotTick}

theorem masterPosition_of_masterLSN
    (honeMaster : ∀ (uid : String) (db : DB), tick.cd.dbs[uid]? = some db →
      db.spec.role = .master → uid = tick.cd.cluster.status.master)
    {name : String} {desiredLSN : Nat} (h : tick.masterLSN[name]? = some desiredLSN)
    : tick.masterPosition name = desiredLSN := by
  unfold SlotTick.masterLSN masterManagedLogicalSlotLSN at h
  split at h
  . next db hfind =>
    have hrole := List.find?_some hfind
    obtain ⟨uid, hdb⟩ := (FinMap.mem_valuesIn _ _ _).mp (List.mem_of_find?_eq_some hfind)
    have huid := honeMaster uid db hdb (by simpa using hrole)
    subst huid
    cases hslots : db.status.managedLogicalSlots with
    | none => simp [hslots] at h
    | some slots =>
      rw [hslots, Option.getD_some] at h
      simp [SlotTick.masterPosition, hdb, hslots, h]
  . simp at h

theorem plans_of_refreshPath {db : DB} {current : List LogicalReplicationSlot}
    (hdb : tick.db = some db) (hpath : tick.refreshPath db = .plan current) : tick.plans = true := by
  simp [SlotTick.plans, hdb, hpath]

theorem logicalSlots_of_refreshPath {db : DB} {current : List LogicalReplicationSlot}
    (hpath : tick.refreshPath db = .plan current)
    : tick.logicalSlots = some current ∧ db.spec.role ≠ .master := by
  unfold SlotTick.refreshPath at hpath
  split at hpath
  . cases hpath
  split at hpath
  . cases hpath
  split at hpath
  . cases hpath
  . next current' hslots =>
    split at hpath
    . cases hpath
    split at hpath
    . next hrole =>
      split at hpath
      . split at hpath
        . cases hpath
        . split at hpath
          . cases hpath
          . split at hpath
            . cases hpath
              exact ⟨hslots, hrole⟩
            . cases hpath
      . cases hpath
    . cases hpath

theorem SoundRequest.cons (hsafe : SafeTick s tick) (hmaster : tick.sawMaster = false)
    (hawaiting : Awaiting s op) (h : SoundRequest ticks op) : SoundRequest (tick :: ticks) op := by
  obtain ⟨later, tick', earlier, rfl, hslot, hplans, hlater⟩ := h.planned
  refine ⟨⟨tick :: later, tick', earlier, rfl, hslot, hplans, ?_⟩, ?_⟩
  . exact List.forall_mem_cons.mpr ⟨hmaster, hlater⟩
  . cases hplans : tick.plans with
    | true =>
      obtain ⟨hposition, hstandby⟩ := hsafe.ahead hplans op hawaiting
      exact ⟨tick, by rw [List.find?_cons_of_pos hplans], hposition, hstandby⟩
    | false =>
      obtain ⟨latest, hlatest, hbounds⟩ := h.bounded
      exact ⟨latest, by rw [List.find?_cons_of_neg (by simp [hplans]), hlatest], hbounds⟩

theorem soundRequest_of_planned (hsafe : SafeTick s tick) {db : DB}
    {current : List LogicalReplicationSlot} (hdb : tick.db = some db)
    (hpath : tick.refreshPath db = .plan current)
    (hplanned : Planned current tick.masterLSN db.status.xLogPos op.name op.database op.targetLSN)
    : SoundRequest (tick :: ticks) op := by
  have hplans := plans_of_refreshPath hdb hpath
  obtain ⟨desiredLSN, hdesired, hle⟩ := hplanned.master
  have hcurrent := (logicalSlots_of_refreshPath hpath).1
  refine ⟨⟨[], tick, ticks, rfl, ⟨current, hcurrent, hplanned.behind⟩, hplans, by simp⟩,
    tick, List.find?_cons_of_pos hplans, ?_, ?_⟩
  . rwa [masterPosition_of_masterLSN (hsafe.oneMaster hplans) hdesired]
  . rw [SlotTick.standbyPosition, hdb]
    exact hplanned.replay

theorem not_awaiting_of_sawMaster (hsafe : SafeTick s tick) (hmaster : tick.sawMaster = true)
    : ¬ Awaiting (tick.refresh s) op := by
  obtain ⟨hemptied, hworker⟩ := hsafe.emptied hmaster
  obtain ⟨db, hdb, hrole⟩ := (Option.any_eq_true _ _).mp hmaster
  have hrole : db.spec.role = .master := by simpa using hrole
  rintro (⟨key, hpending⟩ | ⟨key, now, hselected⟩)
  . cases hpath : tick.refreshPath db with
    | keep =>
      obtain hempty | hresets := hemptied
      . simp [SlotTick.refresh, hdb, hpath, hempty] at hpending
      . simp [SlotTick.resets, hdb, hpath] at hresets
    | reset => simp [SlotTick.refresh, hdb, hpath, resetLogicalSlotAdvanceState] at hpending
    | plan current => exact (logicalSlots_of_refreshPath hpath).2 hrole
  . rw [worker_refresh] at hselected
    exact hworker key op now hselected

theorem sound_refresh (hsafe : SafeTick s tick)
    (hsound : ∀ (op : QueuedLogicalSlotAdvanceOperation), Awaiting s op → SoundRequest ticks op)
    (h : Awaiting (tick.refresh s) op) : SoundRequest (tick :: ticks) op := by
  have hmaster : tick.sawMaster = false := by
    by_contra hmaster
    exact not_awaiting_of_sawMaster hsafe (by simpa using hmaster) h
  obtain hawaiting | ⟨db, current, hdb, hpath, hplanned⟩ := awaiting_of_refresh h
  . exact (hsound op hawaiting).cons hsafe hmaster hawaiting
  . exact soundRequest_of_planned hsafe hdb hpath hplanned

def safeAdvanceSystem (keeperUID : String) : TransitionSystem AdvanceRun :=
  (advanceSystem keeperUID).restrict fun x y =>
    ∀ (tick : SlotTick), y.ticks = tick :: x.ticks → SafeTick x.state tick

theorem inductive_sound (keeperUID : String)
    : (safeAdvanceSystem keeperUID).Inductive fun x =>
        ∀ (op : QueuedLogicalSlotAdvanceOperation), Awaiting x.state op → SoundRequest x.ticks op where
  init := by
    rintro x rfl op (⟨key, hpending⟩ | ⟨key, now, hselected⟩)
    . simp at hpending
    . cases hselected
  step := by
    rintro x y hsound ⟨⟨tick, -, rfl⟩ | ⟨step, hrun, hticks⟩, hsafe⟩ op h
    . exact sound_refresh (hsafe tick rfl) hsound h
    . rw [hticks]
      exact hsound op (awaiting_of_run hrun h)

/--
The operation that the worker requests next is a safe one in all runs whose ticks are safe: a tick that
plans sees no other database than the master with that role, and positions that what is left from
earlier ticks does not exceed, and a tick that sees the keeper as a master empties the queue while
the worker holds no operation. Otherwise the positions come from whatever master the loop meets first,
an older and larger target stays in the queue, and an operation outlives the promotion.
-/
theorem selected_sound (keeperUID : String) (x : AdvanceRun)
    (hx : (safeAdvanceSystem keeperUID).Reachable x) (key : String)
    (op : QueuedLogicalSlotAdvanceOperation) (now : Time)
    (hselected : x.state.worker = .selected key op now)
    : SoundRequest x.ticks op :=
  (inductive_sound keeperUID).of_reachable hx op (.inr ⟨key, now, hselected⟩)

end Runs

section Sample

def reportingMaster (uid : String) (position : Nat) : DB where
  uid
  generation := 1
  spec := { keeperUID := "k_" ++ uid, role := .master, initMode := .none }
  status := { managedLogicalSlots := some ((∅ : FinMap String Nat).insert "orders" position) }

def followingStandby : DB where
  uid := "dd"
  generation := 1
  spec := {
    keeperUID := "k2"
    role := .standby
    initMode := .none
    enableLogicalSlotFailover := true
    managedLogicalReplicationSlots := some [
      { name := "orders", database := "shop", plugin := "pgoutput" }
    ]
  }
  status := {
    pgParameters := some ((∅ : PGParameters).insert "wal_level" "logical")
    xLogPos := 200
  }

def planningTick (master : String) (masters : List (String × Nat)) : SlotTick where
  cd := {
    formatVersion := 1
    cluster := {
      uid := "cluster"
      generation := 1
      spec := {}
      status := { phase := .normal, master := master }
    }
    keepers := ∅
    dbs := (masters.foldl (fun dbs (uid, position) => dbs.insert uid (reportingMaster uid position))
      (∅ : FinMap String DB)).insert "dd" followingStandby
    proxy := {}
  }
  keeperUID := "k2"
  dbOrder := .stored
  masterOrder := .stored
  refreshes := true
  now := 0
  slotOrder := .stored
  createOK _ := true
  physicalSlots := some []
  logicalSlots := some [
    { name := "orders", database := "shop", plugin := "pgoutput", confirmedFlushLSN := 10 }
  ]
  binaryVersion := some 16
  enqueuedAt := 0

def selectedAfter (tick : SlotTick) : Option AdvanceState :=
  (WorkerStep.wake.run (tick.refresh {})).bind (fun s => (WorkerStep.select .stored 1).run s)

def plannedOperation (targetLSN : Nat) : QueuedLogicalSlotAdvanceOperation where
  name := "orders"
  database := "shop"
  desiredLSN := targetLSN
  replayLSN := 200
  targetLSN

theorem selectedAfter_eq_some {tick : SlotTick} {s : AdvanceState} (h : selectedAfter tick = some s)
    : ∃ (s' : AdvanceState), WorkerStep.wake.run (tick.refresh {}) = some s'
        ∧ (WorkerStep.select .stored 1).run s' = some s :=
  Option.bind_eq_some_iff.mp h

theorem safeTick_planningTick : SafeTick {} (planningTick "d" [("d", 100)]) where
  oneMaster := by
    rintro - uid db hdb hrole
    simp only [planningTick, List.foldl_cons, List.foldl_nil, Std.ExtTreeMap.getElem?_insert,
      compare_eq_iff_eq, Std.ExtTreeMap.getElem?_empty] at hdb
    split at hdb
    . cases hdb
      cases hrole
    split at hdb
    . next huid => exact huid.symm
    . cases hdb
  ahead := by
    rintro - op (⟨key, hpending⟩ | ⟨key, now, hselected⟩)
    . simp at hpending
    . cases hselected
  emptied := by
    intro hmaster
    exact absurd hmaster (by decide +kernel)

theorem selected_sound_sample
    : ∃ (x : AdvanceRun),
        (safeAdvanceSystem "k2").Reachable x
          ∧
        x.state.worker = .selected "orders@shop" (plannedOperation 100) 1
          ∧
        SoundRequest x.ticks (plannedOperation 100) := by
  have hworker : (selectedAfter (planningTick "d" [("d", 100)])).map AdvanceState.worker
      = some (.selected "orders@shop" (plannedOperation 100) 1) := by
    decide +kernel
  obtain ⟨s, hs, hworker⟩ := Option.map_eq_some_iff.mp hworker
  obtain ⟨s', hwake, hselect⟩ := selectedAfter_eq_some hs
  have hsame (ticks : List SlotTick) (tick : SlotTick) : ticks ≠ tick :: ticks :=
    fun h => by simpa using congrArg List.length h
  let x : AdvanceRun := { state := s, ticks := [planningTick "d" [("d", 100)]] }
  have hx : (safeAdvanceSystem "k2").Reachable x := by
    refine .step (x := { state := s', ticks := x.ticks }) (.step
      (x := { state := (planningTick "d" [("d", 100)]).refresh {}, ticks := x.ticks })
      (.step (.init rfl) ⟨.inl ⟨_, rfl, rfl⟩, ?_⟩)
      ⟨.inr ⟨.wake, hwake, rfl⟩, fun tick h => absurd h (hsame _ _)⟩)
      ⟨.inr ⟨.select .stored 1, hselect, rfl⟩, fun tick h => absurd h (hsame _ _)⟩
    intro tick htick
    cases htick
    exact safeTick_planningTick
  exact ⟨x, hx, hworker, selected_sound "k2" x hx _ _ _ hworker⟩

/--
During a failover two databases have the role of a master. The loop meets the old one first, whose slot
is at 100, while the one of the new master is at 50.
-/
theorem selected_beyond_master
    : ∃ (x : AdvanceRun) (latest : SlotTick),
        (advanceSystem "k2").Reachable x
          ∧
        x.state.worker = .selected "orders@shop" (plannedOperation 100) 1
          ∧
        x.ticks.find? SlotTick.plans = some latest
          ∧
        latest.masterPosition "orders" = 50 := by
  have hfacts : (selectedAfter (planningTick "e" [("d", 100), ("e", 50)])).map AdvanceState.worker
        = some (.selected "orders@shop" (plannedOperation 100) 1)
      ∧ (planningTick "e" [("d", 100), ("e", 50)]).plans = true
      ∧ (planningTick "e" [("d", 100), ("e", 50)]).masterPosition "orders" = 50 := by
    decide +kernel
  obtain ⟨hworker, hplans, hposition⟩ := hfacts
  obtain ⟨s, hs, hworker⟩ := Option.map_eq_some_iff.mp hworker
  obtain ⟨s', hwake, hselect⟩ := selectedAfter_eq_some hs
  refine ⟨{ state := s, ticks := [planningTick "e" [("d", 100), ("e", 50)]] }, _, ?_, hworker,
    List.find?_cons_of_pos hplans, hposition⟩
  refine .step (x := { state := s', ticks := [planningTick "e" [("d", 100), ("e", 50)]] }) (.step
    (x := { state := (planningTick "e" [("d", 100), ("e", 50)]).refresh {}, ticks := _ })
    (.step (.init rfl) (.inl ⟨_, rfl, rfl⟩)) (.inr ⟨.wake, hwake, rfl⟩))
    (.inr ⟨.select .stored 1, hselect, rfl⟩)

end Sample

end Keeper
end Hysteron
