import Hysteron.Keeper.LogicalSlots

/-!
How a standby moves its logical slots. A tick plans from the cluster data how far they may go and
queues that. A worker of its own takes the operations from the queue, requests them, and waits for a
while after a failure. The two share a mutex and a channel of size one.
-/

namespace Hysteron
namespace Keeper

structure LogicalSlotAdvanceOperation where
  name : String
  database : String
  targetLSN : Nat
  deriving DecidableEq

structure QueuedLogicalSlotAdvanceOperation where
  name : String
  database : String
  desiredLSN : Nat
  replayLSN : Nat
  targetLSN : Nat
  deriving DecidableEq

inductive Worker where
  | waiting
  | looking
  | selected (key : String) (op : QueuedLogicalSlotAdvanceOperation) (now : Time)
  | requested (key : String) (op : QueuedLogicalSlotAdvanceOperation) (now : Time)
  deriving DecidableEq

structure AdvanceState where
  pending : FinMap String QueuedLogicalSlotAdvanceOperation := ∅
  retryAfter : FinMap String Time := ∅
  notified : Bool := false
  worker : Worker := .waiting

/-! ## Retries -/

def retryDelay : Duration := 10 * second

def logicalSlotAdvanceRetryKey (slotName database : String) : String := slotName ++ "@" ++ database

def shouldAttemptLogicalSlotAdvance (retryAfter : FinMap String Time) (key : String) (now : Time)
    : Bool :=
  match retryAfter[key]? with
  | none => true
  | some next => next ≤ now

def pruneLogicalSlotAdvanceRetryAfter (retryAfter : FinMap String Time) (now : Time)
    : FinMap String Time :=
  retryAfter.filter (fun _ next => now < next)

/-! ## Planning -/

def shouldReconcileManagedLogicalSlots (desired : List ManagedLogicalReplicationSlot)
    (currentPGParameters : PGParameters) : Bool :=
  desired ≠ [] && ClusterSpec.toLower (ClusterSpec.trimSpace
    (currentPGParameters["wal_level"]?.getD "")) = "logical"

def shouldUseStandbyLogicalSlotAdvance (enableLogicalSlotFailover : Bool) (pgMajor : Nat)
    (noStream : Bool) : Bool :=
  enableLogicalSlotFailover && pgMajor ≥ 16 && !noStream

def computeLogicalSlotAdvanceTarget (desiredLSN replayLSN currentConfirmedFlushLSN : Nat)
    : Option Nat :=
  if desiredLSN = 0 ∨ replayLSN = 0 then
    none
  else
    let target := min replayLSN desiredLSN
    if target ≤ currentConfirmedFlushLSN then none else some target

/--
The positions of the slots on the first database with the role of a master that the loop meets.
-/
def masterManagedLogicalSlotLSN (order : VisitOrder String) (dbs : FinMap String DB)
    : FinMap String Nat :=
  match (FinMap.valuesIn order dbs).find? (fun db => db.spec.role = .master) with
  | some db => db.status.managedLogicalSlots.getD ∅
  | none => ∅

def planLogicalSlotAdvance (current : List LogicalReplicationSlot) (masterLSN : FinMap String Nat)
    (replayLSN : Nat) (ignoredSlotMatchers : List ReplicationSlotMatcher)
    (desiredSlot : ManagedLogicalReplicationSlot) : Option LogicalSlotAdvanceOperation := do
  guard (!isIgnoredDesiredSlot desiredSlot ignoredSlotMatchers)
  let desiredLSN ← masterLSN[desiredSlot.name]?
  let currentSlot ← (currentByName current)[desiredSlot.name]?
  guard (!isIgnoredLogicalSlotByMatcher currentSlot ignoredSlotMatchers)
  guard (!differs currentSlot desiredSlot)
  let target ← computeLogicalSlotAdvanceTarget desiredLSN replayLSN currentSlot.confirmedFlushLSN
  return { name := desiredSlot.name, database := desiredSlot.database, targetLSN := target }

def evaluateManagedLogicalSlotAdvanceOperations (desired : List ManagedLogicalReplicationSlot)
    (current : List LogicalReplicationSlot) (masterLSN : FinMap String Nat) (replayLSN : Nat)
    (ignoredSlotMatchers : List ReplicationSlotMatcher) : List LogicalSlotAdvanceOperation :=
  if desired = [] ∨ current = [] ∨ masterLSN = ∅ ∨ replayLSN = 0 then
    []
  else
    desired.filterMap (planLogicalSlotAdvance current masterLSN replayLSN ignoredSlotMatchers)

/--
Queue an operation, unless its slot is waiting after a failure or is to go at least as far already.
The flag tells whether something has been queued.
-/
def enqueueLogicalSlotAdvanceOperation (retryAfter : FinMap String Time) (now : Time)
    (masterLSN : FinMap String Nat) (replayLSN : Nat)
    (queue : FinMap String QueuedLogicalSlotAdvanceOperation × Bool)
    (op : LogicalSlotAdvanceOperation) : FinMap String QueuedLogicalSlotAdvanceOperation × Bool :=
  let key := logicalSlotAdvanceRetryKey op.name op.database
  if shouldAttemptLogicalSlotAdvance retryAfter key now then
    if (queue.1[key]?).any (fun current => op.targetLSN ≤ current.targetLSN) then
      queue
    else
      (queue.1.insert key {
        name := op.name
        database := op.database
        desiredLSN := masterLSN[op.name]?.getD 0
        replayLSN
        targetLSN := op.targetLSN
      }, true)
  else
    queue

def enqueueLogicalSlotAdvanceOperations (now : Time) (ops : List LogicalSlotAdvanceOperation)
    (masterLSN : FinMap String Nat) (replayLSN : Nat) (s : AdvanceState) : AdvanceState :=
  if ops = [] then
    s
  else
    let retryAfter := pruneLogicalSlotAdvanceRetryAfter s.retryAfter now
    let (pending, queued) := ops.foldl
      (enqueueLogicalSlotAdvanceOperation retryAfter now masterLSN replayLSN) (s.pending, false)
    { s with pending, retryAfter, notified := s.notified || queued }

def resetLogicalSlotAdvanceState (s : AdvanceState) : AdvanceState :=
  { s with pending := ∅, retryAfter := ∅ }

/-! ## Ticks -/

structure SlotTick where
  cd : ClusterData
  keeperUID : String
  dbOrder : VisitOrder String
  masterOrder : VisitOrder String
  refreshes : Bool
  now : Time
  slotOrder : VisitOrder String
  createOK : String → Bool
  physicalSlots : Option (List PhysicalReplicationSlot)
  logicalSlots : Option (List LogicalReplicationSlot)
  binaryVersion : Option Nat
  enqueuedAt : Time

inductive SlotPath where
  | keep
  | reset
  | plan (current : List LogicalReplicationSlot)

namespace SlotTick

variable (tick : SlotTick)

def db : Option DB := tick.cd.findDB tick.dbOrder tick.keeperUID

def refreshPath (db : DB) : SlotPath :=
  if !tick.refreshes then
    .keep
  else if !(refreshReplicationSlots tick.now tick.slotOrder tick.createOK tick.physicalSlots
      tick.cd.cluster.defSpec db tick.cd.dbs).ok then
    .keep
  else
    match tick.logicalSlots with
    | none => .keep
    | some current =>
      if !shouldReconcileManagedLogicalSlots db.spec.managedLogicalReplicationSlots.elems
          (db.status.pgParameters.getD ∅) then
        .keep
      else if db.spec.role ≠ .master then
        if db.spec.enableLogicalSlotFailover then
          if db.spec.noStream then
            .reset
          else
            match tick.binaryVersion with
            | none => .keep
            | some pgMajor =>
              if shouldUseStandbyLogicalSlotAdvance db.spec.enableLogicalSlotFailover pgMajor
                  db.spec.noStream then
                .plan current
              else
                .keep
        else
          .reset
      else
        .reset

def masterLSN : FinMap String Nat := masterManagedLogicalSlotLSN tick.masterOrder tick.cd.dbs

def operations (db : DB) (current : List LogicalReplicationSlot) : List LogicalSlotAdvanceOperation :=
  evaluateManagedLogicalSlotAdvanceOperations db.spec.managedLogicalReplicationSlots.elems current
    tick.masterLSN db.status.xLogPos db.spec.ignoreReplicationSlotMatchers.elems

def refresh (s : AdvanceState) : AdvanceState :=
  match tick.db with
  | none => s
  | some db =>
    match tick.refreshPath db with
    | .keep => s
    | .reset => resetLogicalSlotAdvanceState s
    | .plan current =>
      enqueueLogicalSlotAdvanceOperations tick.enqueuedAt (tick.operations db current) tick.masterLSN
        db.status.xLogPos s

end SlotTick

/-! ## The worker -/

/--
The steps of the worker, between which it does not hold the mutex.
-/
inductive WorkerStep where
  | wake
  | select (order : VisitOrder String) (now : Time)
  | request
  | answer (ok : Bool)

def selectLogicalSlotAdvance (order : VisitOrder String) (now : Time) (s : AdvanceState)
    : AdvanceState :=
  if s.pending = ∅ then
    { s with worker := .waiting }
  else
    let retryAfter := pruneLogicalSlotAdvanceRetryAfter s.retryAfter now
    let selectedKey := (order.visit s.pending.keys).find? (fun key =>
      shouldAttemptLogicalSlotAdvance retryAfter key now)
    match selectedKey.bind (fun key => s.pending[key]?.map (fun op => (key, op))) with
    | none => { s with retryAfter, worker := .waiting }
    | some (key, op) =>
      { s with pending := s.pending.erase key, retryAfter, worker := .selected key op now }

def WorkerStep.run (s : AdvanceState) : WorkerStep → Option AdvanceState
  | .wake =>
    if s.worker = .waiting ∧ s.notified then
      some { s with notified := false, worker := .looking }
    else
      none
  | .select order now =>
    if s.worker = .looking then some (selectLogicalSlotAdvance order now s) else none
  | .request =>
    match s.worker with
    | .selected key op now => some { s with worker := .requested key op now }
    | _ => none
  | .answer ok =>
    match s.worker with
    | .requested key _ now =>
      some { s with
        retryAfter := if ok then s.retryAfter.erase key else s.retryAfter.insert key (now + retryDelay)
        worker := .looking
      }
    | _ => none

end Keeper
end Hysteron
