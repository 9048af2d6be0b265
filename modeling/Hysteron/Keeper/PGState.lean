import Hysteron.Keeper.LogicalSlots

/-!
The PostgreSQL state that a keeper observes and publishes.
-/

namespace Hysteron
namespace Keeper

def maxPostgresTimelinesHistory : Nat := 2

def getTimeLinesHistory (timelineID : Nat) (entries : Except String PostgresTimelinesHistory)
    (maxPostgresTimelinesHistory : Nat) : Except String PostgresTimelinesHistory := do
  -- If timeline <= 1 then no timeline history file exists.
  if timelineID > 1 then
    let timelineEntries ← entries
    if timelineEntries.length > maxPostgresTimelinesHistory then
      return timelineEntries.drop (timelineEntries.length - maxPostgresTimelinesHistory)
    else
      return timelineEntries
  else
    return []

def logicalSlotLSNMap (current : List LogicalReplicationSlot) : Option (FinMap String Nat) :=
  if current.isEmpty then
    none
  else
    some (.ofList (current.map (fun slot => (slot.name, slot.confirmedFlushLSN))) compare)

structure SystemData where
  systemID : String
  timelineID : Nat
  xLogPos : Nat

/--
What the instance and its data directory answer to the keeper. An answer that is missing is an
error.
-/
structure InstanceAnswers where
  initialized : Option Bool
  configFilePGParameters : Option PGParameters := none
  inSyncStandbys : Option (List String) := none
  systemData : Option SystemData := none
  timelinesHistory : Except String PostgresTimelinesHistory := .ok []
  olderWalFile : Option String := none
  role : Option Role := none
  logicalReplicationSlots : Option (List LogicalReplicationSlot) := none

structure LocalDB where
  uid : String := ""
  generation : Int := noGeneration
  pgAdvertiseAddress : String := ""
  pgAdvertisePort : String := ""

def managedLogicalSlots (answers : InstanceAnswers) : Option (FinMap String Nat) :=
  if answers.role = some .master then
    answers.logicalReplicationSlots.bind logicalSlotLSNMap
  else
    none

def getPGState (dbLocalState : LocalDB) (answers : InstanceAnswers) : PostgresState :=
  let pgState : PostgresState := {
    uid := dbLocalState.uid
    generation := dbLocalState.generation
    listenAddress := dbLocalState.pgAdvertiseAddress
    port := dbLocalState.pgAdvertisePort
  }
  match answers.initialized with
  | none | some false => pgState
  | some true =>
    match answers.configFilePGParameters with
    | none => pgState
    | some pgParameters =>
      let pgState := { pgState with pgParameters := some (filteredPGParameters pgParameters) }
      match answers.inSyncStandbys with
      | none => pgState
      | some inSyncStandbysFullName =>
        let pgState := { pgState with
          synchronousStandbys := some (getInSyncStandbys inSyncStandbysFullName)
        }
        match answers.systemData with
        | none => pgState
        | some systemData =>
          let pgState := { pgState with
            systemID := systemData.systemID
            timelineID := systemData.timelineID
            xLogPos := systemData.xLogPos
          }
          match getTimeLinesHistory systemData.timelineID answers.timelinesHistory
              maxPostgresTimelinesHistory with
          | .error _ => pgState
          | .ok timelinesHistory => { pgState with
              timelinesHistory
              olderWalFile := answers.olderWalFile.getD ""
              healthy := true
              managedLogicalSlots := managedLogicalSlots answers
            }

def InstanceAnswers.reported (answers : InstanceAnswers) : Option PGParameters :=
  if answers.initialized = some true then answers.configFilePGParameters else none

theorem getPGState_pgParameters (dbLocalState : LocalDB) (answers : InstanceAnswers)
    : (getPGState dbLocalState answers).pgParameters
        =
      answers.reported.map filteredPGParameters := by
  unfold getPGState InstanceAnswers.reported
  repeat' split
  all_goals simp_all

end Keeper
end Hysteron
