import Hysteron.Cluster.Types

/-!
Timelines and WAL segments: whether two instances are on different branches and whether a source
still holds the segment that a standby needs.
-/

namespace Hysteron

abbrev PostgresTimelinesHistory := List PostgresTimelineHistory

def PostgresTimelinesHistory.getTimelineHistory (history : PostgresTimelinesHistory) (id : Nat)
    : Option PostgresTimelineHistory :=
  history.find? (fun h => h.timelineID = id)

inductive TimelineDivergenceReason where
  | none
  | followedTimelineOlder
  | sameTimelineDifferentSwitchPoint
  | followedForkedBeforeCurrentPosition
  deriving DecidableEq, Repr

structure TimelineBranchDivergence where
  reason : TimelineDivergenceReason
  followedSwitchPoint : Nat := 0
  currentSwitchPoint : Nat := 0
  different : Bool := false
  deriving DecidableEq

def detectTimelineBranchDivergence (followedTimelineID : Nat)
    (followedTimelineHistory : PostgresTimelinesHistory) (currentTimelineID : Nat)
    (currentTimelineHistory : PostgresTimelinesHistory) (currentXLogPos : Nat)
    : TimelineBranchDivergence :=
  if followedTimelineID < currentTimelineID then
    { different := true, reason := .followedTimelineOlder }
  else if followedTimelineID = currentTimelineID then
    if currentTimelineID ≤ 1 then
      { reason := .none }
    else
      -- The parent switch points are compared. A history without the parent decides nothing.
      match followedTimelineHistory.getTimelineHistory (currentTimelineID - 1),
        currentTimelineHistory.getTimelineHistory (currentTimelineID - 1) with
      | some followedHistory, some currentHistory =>
        if followedHistory.switchPoint ≠ currentHistory.switchPoint then
          {
            different := true
            reason := .sameTimelineDifferentSwitchPoint
            followedSwitchPoint := followedHistory.switchPoint
            currentSwitchPoint := currentHistory.switchPoint
          }
        else
          { reason := .none }
      | _, _ => { reason := .none }
  else
    match followedTimelineHistory.getTimelineHistory currentTimelineID with
    | some followedHistory =>
      if followedHistory.switchPoint < currentXLogPos then
        {
          different := true
          reason := .followedForkedBeforeCurrentPosition
          followedSwitchPoint := followedHistory.switchPoint
          currentSwitchPoint := currentXLogPos
        }
      else
        { reason := .none }
    | none => { reason := .none }

def walSegSize : Nat := 16 * 1024 * 1024

def isWalFileName (name : String) : Bool :=
  name.utf8ByteSize = 24 && name.toList.all (fun c => "0123456789ABCDEF".toList.contains c)

def hex8 (n : Nat) : String :=
  let digits := (Nat.toDigits 16 n).map Char.toUpper
  String.ofList (List.replicate (8 - digits.length) '0' ++ digits)

def xlogPosToWalFileNameNoTimeline (xLogPos : Nat) (walSegSize : Nat) : String :=
  let id := xLogPos / 2 ^ 32 % 2 ^ 32
  let offset := xLogPos % 2 ^ 32
  hex8 id ++ hex8 (offset / walSegSize)

def walFileNameNoTimeLine (name : String) : Except String String :=
  if isWalFileName name then
    .ok (String.ofList ((name.toList.take 24).drop 8))
  else
    .error "bad wal file name"

def isRequiredWalAvailable (requiredXLogPos : Nat) (oldestWalFile : String) (walSegSize : Nat)
    : Except String Bool := do
  if oldestWalFile = "" then
    return true
  let older ← walFileNameNoTimeLine oldestWalFile
  return decide (older ≤ xlogPosToWalFileNameNoTimeline requiredXLogPos walSegSize)

end Hysteron
