import Hysteron.Sentinel.Types

/-!
Error timers, WAL progress counters and convergence of databases.
-/

namespace Hysteron

inductive ConvergenceState where
  | converging
  | converged
  | convergenceFailed
  deriving DecidableEq, Repr

namespace Sentinel

def setKeeperError (s : Sentinel) (now : Time) (uid : String) : Sentinel :=
  { s with keeperErrorTimers := s.keeperErrorTimers.insertIfNew uid now }

def cleanKeeperError (s : Sentinel) (uid : String) : Sentinel :=
  { s with keeperErrorTimers := s.keeperErrorTimers.erase uid }

def setDBError (s : Sentinel) (now : Time) (uid : String) : Sentinel :=
  { s with dbErrorTimers := s.dbErrorTimers.insertIfNew uid now }

def cleanDBError (s : Sentinel) (uid : String) : Sentinel :=
  { s with dbErrorTimers := s.dbErrorTimers.erase uid }

def setDBNotIncreasingXLogPos (s : Sentinel) (uid : String) : Sentinel :=
  let times := (s.dbNotIncreasingXLogPos[uid]?).getD 0 + 1
  { s with dbNotIncreasingXLogPos := s.dbNotIncreasingXLogPos.insert uid times }

def cleanDBNotIncreasingXLogPos (s : Sentinel) (uid : String) : Sentinel :=
  { s with dbNotIncreasingXLogPos := s.dbNotIncreasingXLogPos.erase uid }

def timerExpired (timers : FinMap String Time) (now : Time) (failInterval : Duration) (uid : String)
    : Bool :=
  match timers[uid]? with
  | none => false
  | some t => decide (now - t > failInterval)

def isKeeperHealthy (s : Sentinel) (now : Time) (cd : ClusterData) (keeper : Keeper) : Bool :=
  !timerExpired s.keeperErrorTimers now cd.cluster.defSpec.failInterval keeper.uid

def isDBHealthy (s : Sentinel) (now : Time) (cd : ClusterData) (db : DB) : Bool :=
  !timerExpired s.dbErrorTimers now cd.cluster.defSpec.failInterval db.uid

def isDBIncreasingXLogPos (s : Sentinel) (db : DB) : Bool :=
  match s.dbNotIncreasingXLogPos[db.uid]? with
  | none => true
  | some t => decide (t ≤ defaultDBNotIncreasingXLogPosTimes)

def updateDBConvergenceInfo (s : Sentinel) (now : Time) (db : DB) : Sentinel :=
  if db.status.currentGeneration = db.generation then
    { s with dbConvergenceInfos := s.dbConvergenceInfos.erase db.uid }
  else
    let nd : DBConvergenceInfo := { generation := db.generation, timer := now }
    match s.dbConvergenceInfos[db.uid]? with
    | none => { s with dbConvergenceInfos := s.dbConvergenceInfos.insert db.uid nd }
    | some d =>
      if d.generation ≠ db.generation then
        { s with dbConvergenceInfos := s.dbConvergenceInfos.insert db.uid nd }
      else
        s

def updateDBConvergenceInfos (s : Sentinel) (now : Time) (cd : ClusterData) : Sentinel :=
  cd.dbs.foldl (fun s _ db => s.updateDBConvergenceInfo now db) s

def convergenceTimer (s : Sentinel) (now : Time) (db : DB) : Time :=
  match s.dbConvergenceInfos[db.uid]? with
  | some d => d.timer
  | none => now

/--
The convergence of a database. One that is not tracked yet is tracked from now on, which
`trackDBConvergence` records: its timer starts now.
-/
def dbConvergenceState (s : Sentinel) (now : Time) (db : DB) (timeout : Duration)
    : ConvergenceState :=
  if db.status.currentGeneration = db.generation then
    .converged
  else if timeout = 0 then
    .converging
  else
    if now - s.convergenceTimer now db > timeout then
      .convergenceFailed
    else
      .converging

def trackDBConvergence (s : Sentinel) (now : Time) (db : DB) (timeout : Duration) : Sentinel :=
  if db.status.currentGeneration = db.generation ∨ timeout = 0 then
    s
  else
    let d : DBConvergenceInfo := { generation := db.generation, timer := now }
    { s with dbConvergenceInfos := s.dbConvergenceInfos.insertIfNew db.uid d }

end Sentinel
end Hysteron
