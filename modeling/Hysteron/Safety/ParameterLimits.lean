import Hysteron.Keeper.PGState
import Hysteron.Util.TransitionSystem

/-!
The limits of replication slots and WAL senders that the keeper writes. It means to keep a higher
limit of the running instance, but it looks for the limit in the state that it publishes, from which
the parameters that it manages have been removed.
-/

namespace Hysteron
namespace Keeper

def parameterInt (parameters : PGParameters) (name : String) : Option Int :=
  parameters[name]?.bind atoi

theorem decimal_toDigits (n : Nat) : decimal (Nat.toDigits 10 n) = some n := by
  have hdigits : (Nat.toDigits 10 n).all Char.isDigit = true :=
    List.all_eq_true.mpr fun c hc => Nat.isDigit_of_mem_toDigits (by decide) (by decide) hc
  have hvalue := Nat.ofDigitChars_ten_toDigits (n := n)
  rw [Nat.ofDigitChars_eq_foldl] at hvalue
  rw [decimal, hdigits]
  simpa [Nat.toDigits_ne_nil] using hvalue

theorem atoi_toString (n : Nat) (hn : n < 2 ^ 16) : atoi (toString (n : Int)) = some (n : Int) := by
  have hchars : (toString (n : Int)).toList = Nat.toDigits 10 n := by
    simp [toString, Int.repr_eq_if]
  have hsigned : (n : Int) = int64 n := by
    rw [int64, Int.bmod_eq_of_le (by omega) (by omega)]
  unfold atoi
  rw [hchars]
  have hdigit : ∀ c ∈ Nat.toDigits 10 n, c.isDigit = true :=
    fun c hc => Nat.isDigit_of_mem_toDigits (by decide) (by decide) hc
  split
  . next heq => exact absurd (hdigit '-' (by simp [heq])) (by decide)
  . next heq => exact absurd (hdigit '+' (by simp [heq])) (by decide)
  . rw [decimal_toDigits, Option.bind_some]
    exact if_pos hsigned

structure LimitState where
  file : PGParameters
  lastPGState : Option PostgresState := none
  refreshed : Bool := false

namespace LimitState

def readings (s : LimitState) (binaryVersion : Option Int) : Readings where
  binaryVersion
  lastPGParameters := s.lastPGState.bind PostgresState.pgParameters

def updatePGState (dbLocalState : LocalDB) (answers : InstanceAnswers) (s : LimitState)
    : LimitState :=
  { s with
    lastPGState := some (getPGState dbLocalState answers)
    refreshed := answers.reported.isSome
  }

end LimitState

inductive LimitStep : LimitState → LimitState → Prop where
  | refresh (s : LimitState) (dbLocalState : LocalDB) (answers : InstanceAnswers)
      (hfile : ∀ (parameters : PGParameters), answers.reported = some parameters →
        parameters = s.file)
      : LimitStep s (s.updatePGState dbLocalState answers)
  | write (s : LimitState) (cfg : Config) (binaryVersion : Option Int)
      (initPGParameters : Option PGParameters) (db : DB)
      : LimitStep s { s with
          file := createPGParameters cfg (s.readings binaryVersion) initPGParameters db }
  | edit (s : LimitState) (file : PGParameters) : LimitStep s { s with file }

def limitSystem : TransitionSystem LimitState where
  init s := s.lastPGState = none ∧ s.refreshed = false
  step := LimitStep

theorem managed_not_published
    : limitSystem.Inductive (fun s => ∀ name ∈ managedPGParameters,
        currentPGParameterInt (s.readings none) name = none) where
  init := by
    rintro s ⟨hlast, -⟩ name -
    simp [currentPGParameterInt, LimitState.readings, hlast]
  step := by
    intro s s' ih hstep
    cases hstep with
    | refresh dbLocalState answers =>
      intro name hname
      have hfiltered (parameters : PGParameters)
          : (filteredPGParameters parameters)[name]? = none := by
        rw [← Option.not_isSome_iff_eq_none, ← Std.ExtTreeMap.mem_iff_isSome_getElem?,
          filteredPGParameters]
        simp [Std.ExtTreeMap.mem_filter, hname]
      simp only [currentPGParameterInt, LimitState.readings, LimitState.updatePGState,
        Option.bind_some, getPGState_pgParameters]
      cases answers.reported with
      | none => rfl
      | some parameters => simp [hfiltered parameters]
    | write => exact ih
    | edit => exact ih

theorem atLeastCurrent_of_managed {s : LimitState} (hs : limitSystem.Reachable s) {name : String}
    (hname : name ∈ managedPGParameters) (binaryVersion : Option Int) (desired : Int)
    : atLeastCurrent (s.readings binaryVersion) name desired = toString desired := by
  have hnone : currentPGParameterInt (s.readings binaryVersion) name = none :=
    managed_not_published.of_reachable hs name hname
  rw [atLeastCurrent, hnone]

section Created

variable {s : LimitState} {cfg : Config} {binaryVersion : Option Int}
  {initPGParameters : Option PGParameters} {db : DB}

theorem created_maxReplicationSlots (hs : limitSystem.Reachable s)
    : parameterInt (createPGParameters cfg (s.readings binaryVersion) initPGParameters db)
        "max_replication_slots"
        =
      some db.spec.maxStandbys.toNat := by
  have hvalue : (createPGParameters cfg (s.readings binaryVersion) initPGParameters db)[
      "max_replication_slots"]? = some (toString (db.spec.maxStandbys.toNat : Int)) := by
    rw [← atLeastCurrent_of_managed hs (by decide : "max_replication_slots" ∈ managedPGParameters)
      binaryVersion]
    unfold createPGParameters
    dsimp only
    split
    all_goals
      simp only [Std.ExtTreeMap.getElem?_insert, compare_eq_iff_eq, String.reduceEq, ↓reduceIte]
  rw [parameterInt, hvalue]
  exact atoi_toString _ db.spec.maxStandbys.toNat_lt

theorem created_maxWalSenders (hs : limitSystem.Reachable s)
    : parameterInt (createPGParameters cfg (s.readings binaryVersion) initPGParameters db)
        "max_wal_senders"
        =
      some ((2 * db.spec.maxStandbys.toNat + 2 + db.spec.additionalWalSenders.toNat) % 2 ^ 16
        : Nat) := by
  have hvalue : (createPGParameters cfg (s.readings binaryVersion) initPGParameters db)[
      "max_wal_senders"]? = some (toString
        ((db.spec.maxStandbys * 2 + 2 + db.spec.additionalWalSenders).toNat : Int)) := by
    rw [← atLeastCurrent_of_managed hs (by decide : "max_wal_senders" ∈ managedPGParameters)
      binaryVersion]
    unfold createPGParameters
    dsimp only
    split
    all_goals
      simp only [Std.ExtTreeMap.getElem?_insert, compare_eq_iff_eq, String.reduceEq, ↓reduceIte]
  have hwrap : (db.spec.maxStandbys * 2 + 2 + db.spec.additionalWalSenders).toNat
      = (2 * db.spec.maxStandbys.toNat + 2 + db.spec.additionalWalSenders.toNat) % 2 ^ 16 := by
    simp only [UInt16.toNat_add, UInt16.toNat_mul, UInt16.reduceToNat]
    omega
  rw [parameterInt, hvalue, ← hwrap]
  exact atoi_toString _ (UInt16.toNat_lt _)

end Created

def LimitsKept (file : PGParameters) (db : DB) (parameters : PGParameters) : Prop :=
  ∃ (slots senders : Int),
    parameterInt parameters "max_replication_slots" = some slots
      ∧
    parameterInt parameters "max_wal_senders" = some senders
      ∧
    (∀ a ∈ parameterInt file "max_replication_slots", a ≤ slots)
      ∧
    (∀ b ∈ parameterInt file "max_wal_senders", b ≤ senders)
      ∧
    (db.spec.maxStandbys.toNat : Int) ≤ slots
      ∧
    (2 * db.spec.maxStandbys.toNat + 2 + db.spec.additionalWalSenders.toNat : Int) ≤ senders

/--
After any run, the next parameters keep the limits of the file exactly if the spec itself asks for
them and the number of WAL senders does not wrap around.
-/
theorem limitsKept_iff (s : LimitState) (cfg : Config) (binaryVersion : Option Int)
    (initPGParameters : Option PGParameters) (db : DB) (hs : limitSystem.Reachable s)
    : LimitsKept s.file db (createPGParameters cfg (s.readings binaryVersion) initPGParameters db)
        ↔
      (∀ a ∈ parameterInt s.file "max_replication_slots", a ≤ db.spec.maxStandbys.toNat)
        ∧
      (∀ b ∈ parameterInt s.file "max_wal_senders",
        b ≤ (2 * db.spec.maxStandbys.toNat + 2 + db.spec.additionalWalSenders.toNat : Int))
        ∧
      2 * db.spec.maxStandbys.toNat + 2 + db.spec.additionalWalSenders.toNat < 2 ^ 16 := by
  simp only [LimitsKept, created_maxReplicationSlots hs, created_maxWalSenders hs]
  constructor
  . rintro ⟨slots, senders, hslots, hsenders, ha, hb, -, hexact⟩
    cases hslots
    cases hsenders
    have hwrap : 2 * db.spec.maxStandbys.toNat + 2 + db.spec.additionalWalSenders.toNat
        < 2 ^ 16 := by
      omega
    refine ⟨ha, fun b hmem => ?_, hwrap⟩
    have hle := hb b hmem
    omega
  . rintro ⟨ha, hb, hwrap⟩
    refine ⟨_, _, rfl, rfl, ha, fun b hmem => ?_, le_rfl, ?_⟩
    . have hle := hb b hmem
      omega
    . omega

def limitConfig : Config where
  pgListenAddress := "10.0.0.1"
  pgPort := "5432"
  pgReplAuthMethod := "md5"
  pgReplUsername := "repl"
  pgSUAuthMethod := "md5"
  pgSUUsername := "postgres"

def limitedDB (maxStandbys additionalWalSenders : UInt16) : DB where
  uid := "db"
  generation := 1
  spec := {
    keeperUID := "keeper"
    initMode := .new
    role := .master
    maxStandbys
    additionalWalSenders
  }

def limitFile : PGParameters :=
  createPGParameters limitConfig { binaryVersion := some 16, lastPGParameters := none } none
    (limitedDB 20 5)

def limitAnswers : InstanceAnswers where
  initialized := some true
  configFilePGParameters := some limitFile

def refreshedLimits : LimitState := LimitState.updatePGState {} limitAnswers { file := limitFile }

theorem reachable_refreshedLimits : limitSystem.Reachable refreshedLimits := by
  have hinit : limitSystem.Reachable { file := limitFile } := .init ⟨rfl, rfl⟩
  refine hinit.step (LimitStep.refresh _ _ _ fun parameters h => ?_)
  cases h
  rfl

theorem limitsKept_iff_sample
    : limitSystem.Reachable refreshedLimits
        ∧
      LimitsKept refreshedLimits.file (limitedDB 30 5)
        (createPGParameters limitConfig (refreshedLimits.readings (some 16)) none
          (limitedDB 30 5)) := by
  refine ⟨reachable_refreshedLimits, (limitsKept_iff _ _ _ _ _ reachable_refreshedLimits).mpr ?_⟩
  have hslots : parameterInt refreshedLimits.file "max_replication_slots" = some 20 := by
    decide +kernel
  have hsenders : parameterInt refreshedLimits.file "max_wal_senders" = some 47 := by
    decide +kernel
  rw [hslots, hsenders]
  refine ⟨?_, ?_, by decide⟩
  . rintro a ⟨⟩
    decide
  . rintro b ⟨⟩
    decide

/--
After a refresh that succeeded, fewer standbys in the spec lower both limits, and a large number of
them wraps around.
-/
theorem limits_shrink_and_wrap
    : limitSystem.Reachable refreshedLimits
        ∧
      refreshedLimits.refreshed = true
        ∧
      parameterInt refreshedLimits.file "max_replication_slots" = some 20
        ∧
      parameterInt refreshedLimits.file "max_wal_senders" = some 47
        ∧
      parameterInt (createPGParameters limitConfig (refreshedLimits.readings (some 16)) none
        (limitedDB 5 5)) "max_replication_slots" = some 5
        ∧
      parameterInt (createPGParameters limitConfig (refreshedLimits.readings (some 16)) none
        (limitedDB 5 5)) "max_wal_senders" = some 17
        ∧
      parameterInt (createPGParameters limitConfig (refreshedLimits.readings (some 16)) none
        (limitedDB 32767 5)) "max_wal_senders" = some 5 := by
  refine ⟨reachable_refreshedLimits, ?_⟩
  decide +kernel

end Keeper
end Hysteron
