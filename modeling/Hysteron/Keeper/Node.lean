import Hysteron.Keeper.Settings
import Hysteron.Util.Program

/-!
A keeper and its PostgreSQL instance: the memory of the process, the files that outlive it, and the
operations of the PostgreSQL manager. What an operation meets outside of the keeper is its argument.
-/

namespace Hysteron
namespace Keeper

structure LocalState where
  uid : String
  clusterUID : String := ""
  deriving DecidableEq

structure DBLocalState where
  initPGParameters : Option PGParameters := none
  uid : String := ""
  generation : Int := noGeneration
  initializing : Bool := false
  deriving DecidableEq

structure Settings where
  parameters : PGParameters := ∅
  recoveryOptions : RecoveryOptions := {}
  hba : Slice String := none
  ident : Slice String := none
  deriving DecidableEq

def Settings.snapshot (s : Settings) : Settings :=
  { s with hba := s.hba.omitEmpty, ident := s.ident.omitEmpty }

structure Manager where
  desired : Settings := {}
  cur : Settings := {}
  deriving DecidableEq

structure PostgresKeeper where
  bootUUID : String
  keeperLocalState : LocalState
  dbLocalState : DBLocalState := {}
  waitSyncStandbysSynced : Bool := false
  pgm : Manager := {}
  deriving DecidableEq

structure Instance where
  running : Bool := false
  loaded : Settings := {}
  /-- Whether it was started and the standbys have not been seen in sync since. -/
  unsynced : Bool := false
  pendingRestart : Bool := false
  confWritten : Bool := false
  /-- Whether it runs on the `postgresql.conf` that the keeper has found. -/
  foundConf : Bool := true
  /-- The parameters that were read from it while it did, the last ones first. -/
  foundParameters : List PGParameters := []
  deriving DecidableEq

structure DataDir where
  /-- How often it was removed or rewritten in place. -/
  wiped : Nat := 0
  /-- The database whose initialization, restore or resync has completed since. -/
  complete : Option String := none
  resyncs : List String := []
  deriving DecidableEq

structure Node where
  keeper : PostgresKeeper
  savedKeeper : LocalState
  savedDB : Option DBLocalState := none
  data : DataDir := {}
  pg : Instance := {}
  deriving DecidableEq

def Node.setDBLocalState (s : Node) (dbLocalState : DBLocalState) : Node :=
  { s with savedDB := some dbLocalState, keeper := { s.keeper with dbLocalState } }

def Node.survive (s : Node) (alive : Bool) : Node :=
  { s with pg := { s.pg with running := s.pg.running && alive } }

abbrev NodeM := Program Node Exit

def orReturn (m : NodeM Bool) : NodeM Unit := do
  if ← m then pure () else Program.exit .returned

def runIf (condition : Bool) (m : NodeM Unit) : NodeM Unit :=
  if condition then m else pure ()

def logged (m : NodeM Bool) : NodeM Unit := do
  let _ ← m
  return

def liftExcept (x : Except Exit α) : NodeM α :=
  match x with
  | .ok a => pure a
  | .error e => Program.exit e

def modifyManager (f : Manager → Manager) : NodeM Unit :=
  Program.modify fun s => { s with keeper := { s.keeper with pgm := f s.keeper.pgm } }

def modifyDesired (f : Settings → Settings) : NodeM Unit :=
  modifyManager fun pgm => { pgm with desired := f pgm.desired }

def setParameters (parameters : PGParameters) : NodeM Unit :=
  modifyDesired fun desired => { desired with parameters }

def setRecoveryOptions (recoveryOptions : RecoveryOptions) : NodeM Unit :=
  modifyDesired fun desired => { desired with recoveryOptions }

def setHba (hba : List String) : NodeM Unit :=
  modifyDesired fun desired => { desired with hba := some hba }

def setIdent (ident : Slice String) : NodeM Unit :=
  modifyDesired fun desired => { desired with ident }

def setWaitSyncStandbysSynced (waitSyncStandbysSynced : Bool) : NodeM Unit :=
  Program.modify fun s => { s with keeper := { s.keeper with waitSyncStandbysSynced } }

/--
The in-memory copy changes only after a successful write, which is atomic. Both are one step here,
since an interruption between them ends as one after them, see `Node.restart_of_written`.
-/
def saveDBLocalState (nextDBLocalState : DBLocalState) (ok : Bool) : NodeM Bool := do
  runIf ok (Program.modify fun s => s.setDBLocalState nextDBLocalState)
  return ok

/--
`none` stands for an error. An instance may have died unnoticed.
-/
def isStarted (answer : Option Bool) : NodeM (Option Bool) := do
  match answer with
  | none => return none
  | some alive =>
    Program.modify fun s => s.survive alive
    return some (← Program.get).pg.running

inductive StopAnswer where
  | stopped
  | failed (alive : Bool)

def stopIfStarted : StopAnswer → NodeM Bool
  | .stopped => do
    Program.modify fun s => s.survive false
    return true
  | .failed alive => do
    Program.modify fun s => s.survive alive
    return false

def writeConf : NodeM Unit :=
  Program.modify fun s => { s with pg := { s.pg with confWritten := true } }

def launch (loaded : Settings) : NodeM Unit :=
  Program.modify fun s => { s with
    pg := { s.pg with
      running := true
      loaded
      unsynced := true
      pendingRestart := false
      foundConf := !s.pg.confWritten
    }
  }

def updateCur : NodeM Unit :=
  modifyManager fun pgm => { pgm with cur := pgm.desired.snapshot }

/--
A start can fail with an instance that is active all the same.
-/
inductive StartAnswer where
  | started
  | active
  | failed
  deriving DecidableEq

def startWith (loaded : Settings) : StartAnswer → NodeM Bool
  | .started => do
    launch loaded
    updateCur
    return true
  | .active => do
    launch loaded
    return false
  | .failed => return false

def start (answer : StartAnswer) : NodeM Bool := do
  writeConf
  startWith (← Program.get).keeper.pgm.desired answer

def startTmpMerged (postgresConf : PGParameters) (answer : StartAnswer) : NodeM Bool := do
  let desired := (← Program.get).keeper.pgm.desired
  startWith { desired with parameters := copyParameters postgresConf desired.parameters } answer

/--
A reload fails before the instance has loaded anything.
-/
def reload (ok : Bool) : NodeM Bool := do
  writeConf
  runIf ok do
    Program.modify fun s => { s with
      pg := { s.pg with loaded := s.keeper.pgm.desired, foundConf := false }
    }
    updateCur
  return ok

def getConfigFilePGParameters (answer : Option PGParameters) : NodeM (Option PGParameters) := do
  match answer with
  | none => return none
  | some pgParameters =>
    Program.modify fun s => { s with
      pg := { s.pg with
        foundParameters :=
          if s.pg.foundConf then pgParameters :: s.pg.foundParameters else s.pg.foundParameters
      }
    }
    return some pgParameters

structure RestartAnswer where
  stop : StopAnswer
  start : StartAnswer

def restart (answer : RestartAnswer) : NodeM Bool := do
  if ← stopIfStarted answer.stop then start answer.start else return false

def wipe : NodeM Unit :=
  Program.modify fun s => { s with
    data := { s.data with wiped := s.data.wiped + 1, complete := none }
  }

structure RemoveAnswer where
  isInitialized : Option Bool
  isStarted : Option Bool
  removed : Option Bool

/--
Remove the data directory unless the instance is active. A removal that fails has removed a part.
-/
def removeAll (answer : RemoveAnswer) : NodeM Bool := do
  match answer.isInitialized with
  | none => return false
  | some initialized =>
    let started ← (if initialized then isStarted answer.isStarted else pure (some false))
    if started = some false then
      match answer.removed with
      | none => return false
      | some removed =>
        wipe
        return removed
    else
      return false

/--
`initdb` and the restore command remove the data directory when they fail.
-/
def create (ok : Bool) : NodeM Bool := do
  runIf (!ok) wipe
  return ok

def completed (uid : String) (resync : Bool) : NodeM Unit :=
  Program.modify fun s => { s with
    data := { s.data with
      complete := some uid
      resyncs := if resync then uid :: s.data.resyncs else s.data.resyncs
    }
  }

def Node.restart (s : Node) (bootUUID : String) (alive : Bool) : Node :=
  { s.survive alive with
    keeper := {
      bootUUID
      keeperLocalState := s.savedKeeper
      dbLocalState := s.savedDB.getD {}
    }
  }

theorem Node.restart_of_written (s : Node) (next : DBLocalState) (bootUUID : String) (alive : Bool)
    : ({ s with savedDB := some next }).restart bootUUID alive
        =
      (s.setDBLocalState next).restart bootUUID alive := rfl

end Keeper
end Hysteron
