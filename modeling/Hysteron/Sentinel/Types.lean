import Hysteron.Cluster.Validate

/-!
The memory of a sentinel and everything that one check takes from its surroundings.
-/

namespace Hysteron

/--
How a function ends when it does not return a value: with an error, or because it dereferences a nil
pointer.
-/
inductive Fault where
  | error (message : String)
  | nilDeref
  deriving DecidableEq, Repr

structure KeeperInfoHistory where
  timer : Time := 0
  keeperInfo : KeeperInfo
  seen : Bool

structure ProxyInfoHistory where
  proxyInfo : ProxyInfo
  timer : Time

structure DBConvergenceInfo where
  generation : Int
  timer : Time

structure Sentinel where
  keeperErrorTimers : FinMap String Time := ∅
  dbErrorTimers : FinMap String Time := ∅
  dbNotIncreasingXLogPos : FinMap String Int := ∅
  dbIncreasingXLogPosObservedAt : FinMap String Time := ∅
  keeperHealthySince : FinMap String Time := ∅
  autoFailbackLastSwitchAt : Time := 0
  dbConvergenceInfos : FinMap String DBConvergenceInfo := ∅
  leaderRaceBackoffTimers : FinMap String Time := ∅
  forceFailedKeeperUIDs : FinSet String := ∅
  keeperInfoHistories : FinMap String KeeperInfoHistory := ∅
  proxyInfoHistories : FinMap String ProxyInfoHistory := ∅
  lastLeadershipCount : Nat := 0
  sleepInterval : Duration := 5 * second

inductive CandidateSearch where
  | manualSwitch
  | failover
  | autoFailback
  | syncStandbys
  deriving DecidableEq, Repr

/--
The loops over maps whose result can depend on the order in which the entries are visited.
-/
inductive RangeSite where
  | manualSwitchTarget
  | goodStandbys (search : CandidateSearch)
  | validMasters (search : CandidateSearch)
  | excessSyncStandbys
  | previousSyncStandbys
  | freeKeepers
  | excessStandbys
  deriving DecidableEq, Repr

/--
What one check takes from its surroundings: the clock, which stands still during a check, the
generated UIDs, the random choices and the visiting orders.
-/
structure Env where
  now : Time
  uidFn : Nat → String
  randFn : Nat → Nat
  randFn_lt : ∀ (n : Nat), 0 < n → randFn n < n
  order : RangeSite → VisitOrder String

def Env.simplest (now : Time) (used : Nat := 0) : Env where
  now
  uidFn := fun n => String.ofList (List.replicate (used + n + 1) 'd')
  randFn := fun _ => 0
  randFn_lt := fun _ h => h
  order := fun _ => .stored

end Hysteron
