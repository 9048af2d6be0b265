import Hysteron.Keeper.Lemmas

/-!
The state in which a tick compares the settings of the instance, in terms of what the tick starts with
and of what it meets. The instance is the one that was up before, one that has been resynced, or one
that the tick has started.
-/

namespace Hysteron
namespace Keeper

open Program

variable {cfg : Config} {cd : ClusterData} {db : DB}

/-! ## The inputs of a tick -/

section Inputs

def Node.cleaned (s : Node) : DBLocalState :=
  if s.keeper.dbLocalState.initializing then {} else s.keeper.dbLocalState

def Node.initializes (s : Node) (db : DB) : Bool := s.cleaned.uid ≠ db.uid

def followedDB (cd : ClusterData) (db : DB) : Option DB := do
  let followConfig ← db.spec.followConfig
  cd.dbs[followConfig.dbuid]?

def rewindOptions (cfg : Config) (db followedDB : DB) : RecoveryOptions :=
  createRecoveryOptions .standby (some (followSettings cfg db followedDB)) none none

namespace InitAnswers

variable (a : InitAnswers)

def foundParameters (db : DB) : Option PGParameters :=
  if db.spec.includeConfig && db.spec.initMode ≠ .resync then a.configFilePGParameters else none

def triesPgrewind (cd : ClusterData) (db : DB) : Bool :=
  let initialized := a.isInitialized.getD false
  let systemID := if initialized then a.systemID.getD "" else ""
  (followedDB cd db).any fun followedDB =>
    (Keeper.pgrewindDecision cd db followedDB initialized systemID).attempt

def discards (followedDB : DB) : Bool :=
  !a.waitReady || a.pgState.any (isDifferentTimelineBranch followedDB)

def startsOver (cd : ClusterData) (db : DB) : Bool :=
  a.triesPgrewind cd db && (followedDB cd db).any a.discards

def recoveryOptions (cfg : Config) (cd : ClusterData) (db : DB) : RecoveryOptions :=
  match followedDB cd db with
  | none => {}
  | some followedDB =>
    if a.triesPgrewind cd db && usePgrewind cfg db && a.resync.rewind then
      rewindOptions cfg db followedDB
    else
      {}

end InitAnswers

/--
An instance that is up when its role is applied stays up. `recorded` are the recovery options that the
manager takes for loaded.
-/
def RoleAnswers.staysUp (cfg : Config) (cd : ClusterData) (db : DB) (recorded : RecoveryOptions)
    (a : RoleAnswers) : Bool :=
  a.isStarted = some true
    && (db.spec.role ≠ .standby || (db.spec.followConfig.bind (standbyOptions cfg cd db)).any
      fun options => recorded.recoveryParameters = options.2.recoveryParameters)

inductive Source where
  | kept
  | resynced
  | started
  deriving DecidableEq

variable (cfg : Config) (cd : ClusterData) (db : DB) (a : Answers) (s : Node)

def source : Source :=
  if s.initializes db then
    if db.spec.initMode = .resync && !a.init.startsOver cd db
        && a.role.staysUp cfg cd db (a.init.recoveryOptions cfg cd db) then
      .resynced
    else
      .started
  else if s.pg.running && !s.keeper.dbLocalState.initializing
      && a.role.staysUp cfg cd db s.keeper.pgm.cur.recoveryOptions then
    .kept
  else
    .started

def initParameters : Option PGParameters :=
  if s.initializes db then a.init.foundParameters db else s.cleaned.initPGParameters

def fences : Bool :=
  source cfg cd db a s = .started && db.spec.role = .master && db.spec.synchronousReplication

def waits : Bool :=
  fences cfg cd db a s || !s.initializes db && s.keeper.waitSyncStandbysSynced

def hbaWaits : Bool := fences cfg cd db a s || s.keeper.waitSyncStandbysSynced

def loadedBefore (hbaSet : List String) : Settings :=
  let started (readings : Readings) : Settings := {
    parameters := createPGParameters cfg readings (initParameters db a s) db
    hba := some hbaSet
    ident := db.spec.pgIdent
  }
  match source cfg cd db a s with
  | .kept => s.pg.loaded
  | .resynced => started a.init.readings
  | .started => started a.role.readings

def recordedBefore (hbaSet : List String) : Settings :=
  match source cfg cd db a s with
  | .kept => s.keeper.pgm.cur
  | _ => (loadedBefore cfg cd db a s hbaSet).snapshot

end Inputs

/-! ## The state at the comparison -/

section Prepare

structure Known where
  wait : Bool
  dbLocalState : DBLocalState
  hba : Slice String
  ident : Slice String

def Node.known (s : Node) : Known where
  wait := s.keeper.waitSyncStandbysSynced
  dbLocalState := s.keeper.dbLocalState
  hba := s.keeper.pgm.desired.hba
  ident := s.keeper.pgm.desired.ident

instance : SettingsBlind Node.known where
  pg _ _ := rfl
  pgm s pgm hhba hident := by
    simp only [Node.known, hhba, hident]

instance : BlindToRemoval Node.known where
  pg _ _ := rfl
  removal _ _ _ := rfl

def Node.planned (s : Node) : Known × PGParameters × RecoveryOptions :=
  (s.known, s.keeper.pgm.desired.parameters, s.keeper.pgm.desired.recoveryOptions)

instance : BlindToRemoval Node.planned where
  pg _ _ := rfl
  removal _ _ _ := rfl

section Operations

variable {γ : Type} {view : Node → γ} {c : γ}

theorem triple_of_keeps {α : Type} {m : NodeM α} (h : m.Keeps view)
    : Triple (fun _ => True) (fun s => view s = c) m (fun _ s => view s = c) := by
  apply h.triple (fun _ _ _ h => h)
  intro s s' heq hs
  rw [heq]
  exact hs

theorem down_stopIfStarted [InstanceBlind view] (answer : StopAnswer)
    : Triple (fun _ => True) (fun s => view s = c) (orReturn (stopIfStarted answer))
        (fun _ s => view s = c ∧ s.pg.running = false) := by
  apply triple_orReturn
  cases answer with
  | stopped =>
    apply Triple.bind (Q := fun _ s => view s = c ∧ s.pg.running = false)
    . apply Triple.modify
      intro s _ hs
      refine ⟨trivial, ?_, by simp [Node.survive]⟩
      rw [← hs]
      exact InstanceBlind.pg s _
    . intro _
      exact .pure fun s _ hs _ => hs
  | failed alive =>
    apply (triple_of_keeps (keeps_survive alive)).bind
    intro _
    apply Triple.pure
    intro s _ _ hok
    cases hok

theorem down_removeAll [BlindToRemoval view] (answer : RemoveAnswer)
    : Triple (fun _ => True) (fun s => view s = c ∧ s.pg.running = false) (removeAll answer)
        (fun _ s => view s = c ∧ s.pg.running = false) := by
  apply (triple_of_keeps (keeps_removeAll answer)).and
  unfold removeAll
  split
  . exact .pure fun _ _ hs => hs
  . apply Triple.bind (Q := fun _ s => s.pg.running = false)
    . split
      . unfold isStarted
        split
        . exact .pure fun _ _ hs => hs
        . apply Triple.bind (Q := fun _ s => s.pg.running = false)
          . exact .modify fun s _ hs => ⟨trivial, by simp [Node.survive, hs]⟩
          . intro _
            apply Triple.read
            intro s₀ _ hs₀
            apply Triple.pure
            rintro s - rfl
            exact hs₀
      . exact .pure fun _ _ hs => hs
    . intro _
      split
      . split
        . exact .pure fun _ _ hs => hs
        . apply Triple.bind (Q := fun _ s => s.pg.running = false)
          . exact .modify fun s _ hs => ⟨trivial, hs⟩
          . intro _
            exact .pure fun _ _ hs => hs
      . exact .pure fun _ _ hs => hs

theorem triple_getConfigFilePGParameters [InstanceBlind view] (answer : Option PGParameters)
    : Triple (fun _ => True) (fun s => view s = c) (getConfigFilePGParameters answer)
        (fun pgParameters s => pgParameters = answer ∧ view s = c) := by
  cases answer with
  | none => exact .pure fun s _ hs => ⟨rfl, hs⟩
  | some pgParameters =>
    apply (triple_of_keeps (keeps_modifyInstance _)).bind
    intro _
    exact .pure fun s _ hs => ⟨rfl, hs⟩

end Operations

structure Launched (s : Node) : Prop where
  running : s.pg.running = true
  loaded : s.pg.loaded = s.keeper.pgm.desired
  cur : s.keeper.pgm.cur = s.keeper.pgm.desired.snapshot

section Launch

variable {γ : Type} {view : Node → γ} {c : γ}
variable (hview : ∀ (s : Node) (cur : Settings) (pg : Instance), view { s with
  keeper := { s.keeper with pgm := { s.keeper.pgm with cur } }
  pg
} = view s)

include hview

theorem launched_start (answer : StartAnswer)
    : Triple (fun _ => True) (fun s => view s = c) (orReturn (start answer))
        (fun _ s => Launched s ∧ view s = c) := by
  apply triple_orReturn
  intro s _ hs
  refine ⟨fun _ _ => trivial, trivial, ?_⟩
  intro ok hok htrue
  rw [htrue] at hok
  cases answer with
  | started => exact ⟨⟨rfl, rfl, rfl⟩, (hview s _ _).trans hs⟩
  | active => cases hok
  | failed => cases hok

theorem launched_restart (answer : RestartAnswer)
    : Triple (fun _ => True) (fun s => view s = c) (orReturn (restart answer))
        (fun _ s => Launched s ∧ view s = c) := by
  apply triple_orReturn
  intro s _ hs
  refine ⟨fun _ _ => trivial, trivial, ?_⟩
  intro ok hok htrue
  rw [htrue] at hok
  obtain ⟨stop, start⟩ := answer
  cases stop with
  | failed alive => cases hok
  | stopped =>
    cases start with
    | started => exact ⟨⟨rfl, rfl, rfl⟩, (hview s _ _).trans hs⟩
    | active => cases hok
    | failed => cases hok

end Launch

/-! ### Initialization -/

section Initialize

variable {k : Known} {next : DBLocalState}

theorem known_save (ok : Bool)
    : Triple (fun _ => True) (fun s => s.known = k) (orReturn (saveDBLocalState next ok))
        (fun _ s => s.known = { k with dbLocalState := next }) := by
  apply triple_orReturn
  apply triple_saveDBLocalState
  . rintro s - rfl
    exact ⟨trivial, fun _ => rfl⟩
  . intro s _ _ hok
    cases hok

theorem known_keepInitParameters (a : InitAnswers) (hnone : next.initPGParameters = none)
    (hmode : db.spec.initMode ≠ .resync)
    : Triple (fun _ => True) (fun s => s.known = { k with dbLocalState := next })
        (keepInitParameters db next a)
        (fun _ s => s.known = { k with
          dbLocalState := { next with initPGParameters := a.foundParameters db }
        }) := by
  apply triple_runIf
  . intro hinclude
    apply (triple_getConfigFilePGParameters _).bind
    intro answer
    apply Triple.assume
    rintro rfl
    split
    . exact .exit
    . next pgParameters hfound =>
      have hparameters : a.foundParameters db = some pgParameters := by
        simp [InitAnswers.foundParameters, hinclude, hmode, hfound]
      rw [hparameters]
      exact known_save _
  . intro hinclude s _ hs
    have hparameters : a.foundParameters db = none := by
      simp [InitAnswers.foundParameters, hinclude]
    rw [hs, hparameters, ← hnone]

theorem known_initNew (a : InitAnswers) (hmode : db.spec.initMode ≠ .resync)
    : Triple (fun _ => True) (fun s => s.known = k) (initNew cfg db a)
        (fun _ s =>
          s.known = { k with
            dbLocalState := { initialState db true with initPGParameters := a.foundParameters db }
          }
            ∧
          s.pg.running = false) := by
  apply (known_save _).bind
  intro _
  apply (triple_of_keeps (keeps_updateParameters _)).bind
  intro _
  apply (triple_of_keeps (keeps_orReturn (keeps_stopIfStarted _))).bind
  intro _
  apply (triple_of_keeps (keeps_orReturn (keeps_removeAll _))).bind
  intro _
  apply (triple_of_keeps (keeps_orReturn (keeps_create _))).bind
  intro _
  apply (triple_of_keeps (keeps_orReturn (keeps_startTmpMerged _ _))).bind
  intro _
  apply (triple_of_keeps keeps_guardReturn).bind
  intro _
  apply (known_keepInitParameters a rfl hmode).bind
  intro _
  apply (triple_of_keeps keeps_guardReturn).bind
  intro _
  apply (down_stopIfStarted _).bind
  intro _
  exact .modify fun s _ hs => ⟨trivial, hs⟩

theorem known_initPITR (a : InitAnswers) (hmode : db.spec.initMode ≠ .resync)
    : Triple (fun _ => True) (fun s => s.known = k) (initPITR cfg db a)
        (fun _ s =>
          s.known = { k with
            dbLocalState := { initialState db true with initPGParameters := a.foundParameters db }
          }
            ∧
          s.pg.running = false) := by
  apply (known_save _).bind
  intro _
  apply (triple_of_keeps (keeps_updateParameters _)).bind
  intro _
  apply (triple_of_keeps (keeps_orReturn (keeps_stopIfStarted _))).bind
  intro _
  apply (triple_of_keeps (keeps_orReturn (keeps_removeAll _))).bind
  intro _
  split
  . exact .exit
  . apply (triple_of_keeps (keeps_orReturn (keeps_create _))).bind
    intro _
    apply (triple_of_keeps (keeps_setRecoveryOptions _)).bind
    intro _
    apply (triple_of_keeps (keeps_orReturn (keeps_startTmpMerged _ _))).bind
    intro _
    apply (triple_of_keeps keeps_guardReturn).bind
    intro _
    apply (triple_of_keeps keeps_guardReturn).bind
    intro _
    apply (known_keepInitParameters a rfl hmode).bind
    intro _
    apply (down_stopIfStarted _).bind
    intro _
    exact .modify fun s _ hs => ⟨trivial, hs⟩

theorem known_initExisting (a : InitAnswers) (hmode : db.spec.initMode ≠ .resync)
    : Triple (fun _ => True) (fun s => s.known = k) (initExisting cfg db a)
        (fun _ s =>
          s.known = { k with
            dbLocalState := { initialState db false with initPGParameters := a.foundParameters db }
          }
            ∧
          s.pg.running = false) := by
  apply (known_save _).bind
  intro _
  apply (triple_of_keeps (keeps_updateParameters _)).bind
  intro _
  apply (triple_of_keeps (keeps_orReturn (keeps_stopIfStarted _))).bind
  intro _
  apply (triple_of_keeps (keeps_orReturn (keeps_startTmpMerged _ _))).bind
  intro _
  apply (triple_of_keeps keeps_guardReturn).bind
  intro _
  apply (known_keepInitParameters a rfl hmode).bind
  intro _
  exact down_stopIfStarted _

section Resync

variable {parameters : PGParameters} {options : RecoveryOptions}

theorem planned_resync (followedDB : DB) (tryPgrewind : Bool) (a : ResyncAnswers)
    : Triple (fun _ => True) (fun s => s.planned = (k, parameters, options))
        (orReturn (resync cfg db followedDB tryPgrewind a))
        (fun _ s => s.planned = (k, parameters,
          if tryPgrewind && usePgrewind cfg db && a.rewind then
            rewindOptions cfg db followedDB
          else
            options)) := by
  apply triple_orReturn
  apply Triple.bind (Q := fun done s =>
    done = (tryPgrewind && usePgrewind cfg db && a.rewind)
      ∧
    s.planned = (k, parameters, if done then rewindOptions cfg db followedDB else options))
  . split
    . next htry =>
      rw [htry, Bool.true_and]
      apply (triple_of_keeps keeps_wipe).bind
      intro _
      apply Triple.bind (Q := fun _ s =>
        s.planned = (k, parameters, if a.rewind then rewindOptions cfg db followedDB else options))
      . apply triple_runIf
        . intro hrewind
          rw [hrewind]
          apply Triple.modify
          intro s _ hs
          refine ⟨trivial, ?_⟩
          rw [Node.planned, Prod.mk.injEq, Prod.mk.injEq] at hs
          exact Prod.ext hs.1 (Prod.ext hs.2.1 rfl)
        . intro hrewind s _ hs
          rw [hs, hrewind]
          rfl
      . intro _
        exact .pure fun s _ hs => ⟨rfl, hs⟩
    . next htry =>
      rw [Bool.eq_false_iff.mpr htry, Bool.false_and]
      exact .pure fun s _ hs => ⟨rfl, hs⟩
  . intro done
    apply Triple.assume
    intro hdone
    rw [← hdone]
    split
    . exact .pure fun s _ hs _ => hs
    . apply (triple_of_keeps (keeps_removeAll _)).bind
      intro removed
      split
      . exact .pure fun s _ hs _ => hs
      . exact .pure fun s _ hs _ => hs

theorem planned_verifyRewind (followedDB : DB) (a : InitAnswers)
    : Triple (fun _ => True) (fun s => Launched s ∧ s.planned = (k, parameters, options))
        (verifyRewind cfg db followedDB a)
        (fun _ s =>
          s.planned = (k, parameters, options)
            ∧
          if a.discards followedDB then s.pg.running = false else Launched s) := by
  apply Triple.bind (Q := fun fullResync s =>
    fullResync = a.discards followedDB
      ∧
    Launched s
      ∧
    s.planned = (k, parameters, options))
  . unfold InitAnswers.discards
    split
    . next hdue =>
      split
      . exact .exit
      . next pgState hstate => exact .pure fun s _ hs => ⟨by simp [hdue, hstate], hs⟩
    . next hdue => exact .pure fun s _ hs => ⟨by simp [hdue], hs⟩
  . intro fullResync
    apply Triple.assume
    intro hfull
    rw [← hfull]
    apply triple_runIf
    . rintro rfl
      apply ((down_stopIfStarted _).weaken (fun s _ hs => hs.2) fun _ _ _ hs => hs).bind
      intro _
      apply triple_orReturn_of_keep
      -- Without a rewind, the directory is removed and copied.
      apply (down_removeAll _).bind
      intro removed
      cases removed with
      | true => exact .pure fun _ _ hs => hs
      | false => exact .pure fun _ _ hs => hs
    . rintro rfl s - hs
      exact ⟨hs.2, hs.1⟩

theorem planned_runVerify (tryPgrewind : Bool) (followedDB : DB) (a : InitAnswers)
    : Triple (fun _ => True) (fun s => Launched s ∧ s.planned = (k, parameters, options))
        (runIf tryPgrewind (verifyRewind cfg db followedDB a))
        (fun _ s =>
          s.planned = (k, parameters, options)
            ∧
          if tryPgrewind && a.discards followedDB then s.pg.running = false else Launched s) := by
  apply triple_runIf
  . rintro rfl
    exact planned_verifyRewind followedDB a
  . rintro rfl s - hs
    exact ⟨hs.2, hs.1⟩

theorem planned_updateParameters (readings : Readings)
    : Triple (fun _ => True) (fun s => s.planned = (k, parameters, options))
        (updateParameters cfg readings db)
        (fun _ s => s.planned
          = (k, createPGParameters cfg readings k.dbLocalState.initPGParameters db, options)) := by
  apply Triple.read
  intro s₀ _ hs₀
  obtain ⟨rfl, -, rfl⟩ := hs₀
  apply Triple.modify
  rintro s - rfl
  exact ⟨trivial, rfl⟩

theorem planned_initResync {initialized : Bool} (a : InitAnswers)
    (hinitialized : a.isInitialized = some initialized)
    : Triple (fun _ => True) (fun s => s.planned = (k, parameters, {}))
        (initResync cfg cd db initialized a)
        (fun _ s =>
          s.planned = (
            { k with dbLocalState := initialState db true },
            createPGParameters cfg a.readings none db,
            a.recoveryOptions cfg cd db)
            ∧
          if a.startsOver cd db then s.pg.running = false else Launched s) := by
  apply Triple.bind (Q := fun _ s =>
    s.planned = ({ k with dbLocalState := initialState db true }, parameters, {}))
  . apply triple_orReturn
    apply triple_saveDBLocalState
    . intro s _ hs
      refine ⟨trivial, fun _ => ?_⟩
      exact congrArg (fun planned : Known × PGParameters × RecoveryOptions =>
        ({ planned.1 with dbLocalState := initialState db true }, planned.2)) hs
    . intro s _ _ hok
      cases hok
  intro _
  apply (triple_of_keeps (keeps_orReturn (keeps_stopIfStarted _))).bind
  intro _
  apply (planned_updateParameters _).bind
  intro _
  apply (triple_of_keeps keeps_guardReturn).bind
  intro _
  split
  . exact .exit
  . next followConfig hfollow =>
    split
    . exact .exit
    . next followedDB hfollowed =>
      have hdb : Keeper.followedDB cd db = some followedDB := by
        simp [Keeper.followedDB, hfollow, hfollowed]
      have htries : (pgrewindDecision cd db followedDB initialized
          (if initialized then a.systemID.getD "" else "")).attempt = a.triesPgrewind cd db := by
        simp [InitAnswers.triesPgrewind, hdb, hinitialized]
      have hoptions : a.recoveryOptions cfg cd db
          = if a.triesPgrewind cd db && usePgrewind cfg db && a.resync.rewind then
              rewindOptions cfg db followedDB
            else
              {} := by
        simp only [InitAnswers.recoveryOptions, hdb]
      have hover : a.startsOver cd db = (a.triesPgrewind cd db && a.discards followedDB) := by
        simp [InitAnswers.startsOver, hdb]
      dsimp only
      rw [htries, hoptions, hover]
      apply (planned_resync _ _ _).bind
      intro _
      apply (launched_start (fun _ _ _ => rfl) _).bind
      intro _
      apply (planned_runVerify _ _ _).bind
      intro _
      apply Triple.modify
      rintro s - ⟨hplanned, hs⟩
      refine ⟨trivial, hplanned, ?_⟩
      split at hs
      . next hover =>
        rw [if_pos hover]
        exact hs
      . next hover =>
        rw [if_neg hover]
        exact ⟨hs.running, hs.loaded, hs.cur⟩

end Resync

structure Initialized (cfg : Config) (cd : ClusterData) (db : DB) (a : InitAnswers) (k : Known)
    (s : Node) : Prop where
  known : s.known = { k with wait := false, dbLocalState := s.keeper.dbLocalState }
  init : s.keeper.dbLocalState.initPGParameters = a.foundParameters db
  started :
    if db.spec.initMode = .resync && !a.startsOver cd db then
      Launched s
        ∧
      s.keeper.pgm.desired.parameters = createPGParameters cfg a.readings none db
        ∧
      s.keeper.pgm.desired.recoveryOptions = a.recoveryOptions cfg cd db
    else
      s.pg.running = false

theorem initialized_of_stopped {a : InitAnswers} {m : NodeM Unit} (hmode : db.spec.initMode ≠ .resync)
    (hnext : next.initPGParameters = a.foundParameters db)
    (h : Triple (fun _ => True) (fun s => s.known = { k with wait := false }) m
      (fun _ s => s.known = { k with wait := false, dbLocalState := next } ∧ s.pg.running = false))
    : Triple (fun _ => True)
        (fun s => s.known = { k with wait := false } ∧ s.keeper.pgm.desired.recoveryOptions = {}) m
        (fun _ => Initialized cfg cd db a k) := by
  apply h.weaken (fun s _ hs => hs.1)
  rintro _ s - ⟨hknown, hrunning⟩
  have hlocal : s.keeper.dbLocalState = next := congrArg Known.dbLocalState hknown
  rw [← hlocal] at hknown hnext
  refine ⟨hknown, hnext, ?_⟩
  rw [if_neg (by simp [hmode])]
  exact hrunning

theorem initialized_initializeDB (a : InitAnswers)
    : Triple (fun _ => True) (fun s => s.known = k) (initializeDB cfg cd db a)
        (fun _ => Initialized cfg cd db a k) := by
  unfold initializeDB
  split
  . exact .exit
  . next initialized hinitialized =>
    apply Triple.bind (Q := fun _ s => s.known = k ∧ s.keeper.pgm.desired.recoveryOptions = {})
    . exact .modify fun s _ hs => ⟨trivial, hs, rfl⟩
    intro _
    apply Triple.bind (Q := fun _ s =>
      s.known = { k with wait := false } ∧ s.keeper.pgm.desired.recoveryOptions = {})
    . apply Triple.modify
      rintro s - ⟨rfl, hoptions⟩
      exact ⟨trivial, rfl, hoptions⟩
    intro _
    split
    . next hmode =>
      have hother : db.spec.initMode ≠ .resync := by simp [hmode]
      exact initialized_of_stopped hother rfl (known_initNew a hother)
    . next hmode =>
      have hother : db.spec.initMode ≠ .resync := by simp [hmode]
      exact initialized_of_stopped hother rfl (known_initPITR a hother)
    . next hmode =>
      have hfound : a.foundParameters db = none := by simp [InitAnswers.foundParameters, hmode]
      apply Triple.weaken (P := fun s => ∃ parameters : PGParameters,
        s.planned = ({ k with wait := false }, parameters, {}))
      . exact Triple.exists_pre fun _ => planned_initResync a hinitialized
      . rintro s - ⟨hknown, hoptions⟩
        exact ⟨_, Prod.ext hknown (Prod.ext rfl hoptions)⟩
      . rintro _ s - ⟨hplanned, hs⟩
        simp only [Node.planned, Prod.mk.injEq] at hplanned
        obtain ⟨hknown, hparameters, hoptions⟩ := hplanned
        have hlocal : s.keeper.dbLocalState = initialState db true :=
          congrArg Known.dbLocalState hknown
        refine ⟨by rw [hlocal, hknown], by rw [hlocal, hfound]; rfl, ?_⟩
        simp only [hmode, decide_true, Bool.true_and]
        cases hover : a.startsOver cd db with
        | true =>
          rw [hover] at hs
          exact hs
        | false =>
          rw [hover] at hs
          exact ⟨hs, hparameters, hoptions⟩
    . next hmode =>
      have hother : db.spec.initMode ≠ .resync := by simp [hmode]
      exact initialized_of_stopped hother rfl (known_initExisting a hother)
    . exact .exit

end Initialize

/-! ### The role -/

section Role

def Node.plan (s : Node) : Known × PGParameters := (s.known, s.keeper.pgm.desired.parameters)

instance : InstanceBlind Node.plan where
  pg _ _ := rfl

variable {plan : Known × PGParameters} {s₀ : Node}

structure Kept (s₀ : Node) (plan : Known × PGParameters) (s : Node) : Prop where
  loaded : s.pg.loaded = s₀.pg.loaded
  cur : s.keeper.pgm.cur = s₀.keeper.pgm.cur
  plan : s.plan = plan

def MasterStarted (cfg : Config) (cd : ClusterData) (db : DB) (plan : Known × PGParameters)
    (s : Node) : Prop :=
  if db.spec.synchronousReplication then
    ∃ hba : List String,
      generateHBA cfg cd db true = .ok hba
        ∧
      s.plan = ({ plan.1 with wait := true, hba := some hba }, plan.2)
  else
    s.plan = plan

theorem masterStarted_startMaster (a : RoleAnswers)
    : Triple (fun _ => True) (fun s => s.plan = plan) (startMaster cfg cd db a)
        (fun _ s => Launched s ∧ MasterStarted cfg cd db plan s) := by
  unfold startMaster MasterStarted
  cases db.spec.synchronousReplication with
  | false =>
    apply Triple.bind (Q := fun _ s => s.plan = plan)
    . exact .pure fun _ _ hs => hs
    intro _
    apply (launched_start (fun _ _ _ => rfl) _).bind
    intro _
    exact triple_guardReturn_of_keep
  | true =>
    apply Triple.bind (Q := fun _ s => ∃ hba : List String,
      generateHBA cfg cd db true = .ok hba
        ∧
      s.plan = ({ plan.1 with wait := true, hba := some hba }, plan.2))
    . apply Triple.bind (Q := fun _ s => s.plan = ({ plan.1 with wait := true }, plan.2))
      . apply Triple.modify
        rintro s - rfl
        exact ⟨trivial, rfl⟩
      intro _
      apply triple_liftExcept_ok.bind
      intro hba
      apply Triple.assume
      intro hhba
      apply Triple.modify
      intro s _ hs
      refine ⟨trivial, hba, hhba, ?_⟩
      exact congrArg (fun plan : Known × PGParameters =>
        ({ plan.1 with hba := some hba }, plan.2)) hs
    intro _
    apply Triple.exists_pre
    intro hba
    apply Triple.assume
    intro hhba
    apply (launched_start (fun _ _ _ => rfl) _).bind
    intro _
    exact triple_guardReturn fun s _ hs _ => ⟨hs.1, hba, hhba, hs.2⟩

theorem kept_isStarted (answer : Option Bool)
    : Triple (fun _ => True) (fun s => Kept s₀ plan s ∧ s.pg.running = s₀.pg.running)
        (isStarted answer)
        (fun started s => ∀ (b : Bool), started = some b →
          b = (s₀.pg.running && answer = some true) ∧ Kept s₀ plan s) := by
  cases answer with
  | none => exact .pure fun s _ _ b hb => by cases hb
  | some alive =>
    apply Triple.bind (Q := fun _ s => s.pg.running = (s₀.pg.running && alive) ∧ Kept s₀ plan s)
    . apply Triple.modify
      rintro s - ⟨hkept, hrunning⟩
      exact ⟨trivial, by simp [Node.survive, hrunning], hkept.loaded, hkept.cur, hkept.plan⟩
    intro _
    apply Triple.read
    rintro s₁ - ⟨hrunning, hkept⟩
    apply Triple.pure
    rintro s - rfl b ⟨⟩
    exact ⟨by simp [hrunning], hkept⟩

theorem kept_of_isStarted {answer : Option Bool} {started : Bool} {m : NodeM Unit}
    {Q : Unit → Node → Prop}
    (h : started = (s₀.pg.running && answer = some true)
      → Triple (fun _ => True) (Kept s₀ plan) m Q)
    : Triple (fun _ => True)
        (fun s => ∀ (b : Bool), some started = some b →
          b = (s₀.pg.running && answer = some true) ∧ Kept s₀ plan s) m Q :=
  (Triple.assume h).weaken (fun _ _ hs => hs started rfl) fun _ _ _ hs => hs

def RoleApplied (cfg : Config) (cd : ClusterData) (db : DB) (a : RoleAnswers) (s₀ : Node)
    (plan : Known × PGParameters) (s : Node) : Prop :=
  if s₀.pg.running && a.staysUp cfg cd db s₀.keeper.pgm.cur.recoveryOptions then
    Kept s₀ plan s
  else
    Launched s ∧ if db.spec.role = .master then MasterStarted cfg cd db plan s else s.plan = plan

theorem roleApplied_applyMaster (localRole : Role) (a : RoleAnswers) (hrole : db.spec.role = .master)
    : Triple (fun _ => True) (fun s => Kept s₀ plan s ∧ s.pg.running = s₀.pg.running)
        (applyMaster cfg cd db localRole a) (fun _ => RoleApplied cfg cd db a s₀ plan) := by
  have hstays : (s₀.pg.running && a.staysUp cfg cd db s₀.keeper.pgm.cur.recoveryOptions)
      = (s₀.pg.running && a.isStarted = some true) := by
    simp [RoleAnswers.staysUp, hrole]
  unfold RoleApplied
  rw [hstays]
  apply triple_guardReturn_of_keep.bind
  intro _
  apply Triple.bind (Q := fun _ s => Kept s₀ plan s ∧ s.pg.running = s₀.pg.running)
  . exact .modify fun s _ hs => ⟨trivial, ⟨hs.1.loaded, hs.1.cur, hs.1.plan⟩, hs.2⟩
  intro _
  apply (kept_isStarted _).bind
  intro started
  split
  . exact .exit
  . next started =>
    have hend {P : Node → Prop} : Triple (fun _ => True) P
        (do
          runIf (localRole = .standby) do
            guardReturn a.prePromoteHook
            guardReturn a.promote
          guardReturn a.refreshReplicationSlots) (fun _ => P) := by
      apply Triple.bind (Q := fun _ => P)
      . apply triple_runIf
        . intro _
          exact triple_guardReturn_of_keep.bind fun _ => triple_guardReturn_of_keep
        . exact fun _ _ _ hs => hs
      . intro _
        exact triple_guardReturn_of_keep
    apply kept_of_isStarted
    intro hstarted
    rw [← hstarted]
    refine Triple.bind ?_ fun _ => hend
    apply triple_runIf
    . intro hdown
      have hdown : started = false := by simpa using hdown
      rw [hdown, hrole]
      exact (masterStarted_startMaster a).weaken (fun s _ hs => hs.plan) fun _ _ _ hs => hs
    . intro hup s _ hs
      have hup : started = true := by simpa using hup
      rw [hup]
      exact hs

theorem roleApplied_runStandby (startOptions options : RecoveryOptions) (a : RoleAnswers)
    (hrole : db.spec.role = .standby)
    (hoptions : db.spec.followConfig.bind (standbyOptions cfg cd db) = some (startOptions, options))
    : Triple (fun _ => True) (fun s => Kept s₀ plan s ∧ s.pg.running = s₀.pg.running)
        (runStandby startOptions options a) (fun _ => RoleApplied cfg cd db a s₀ plan) := by
  unfold RoleApplied RoleAnswers.staysUp
  simp only [hrole, hoptions, Option.any_some, ne_eq, not_true_eq_false, decide_false, Bool.false_or,
    ← Bool.and_assoc]
  apply (kept_isStarted _).bind
  intro started
  split
  . exact .exit
  . next started =>
    apply kept_of_isStarted
    intro hstarted
    rw [← hstarted]
    apply Triple.bind (Q := fun _ s => if started then Kept s₀ plan s else Launched s ∧ s.plan = plan)
    . apply triple_runIf
      . intro hdown
        have hdown : started = false := by simpa using hdown
        rw [hdown]
        apply Triple.bind (Q := fun _ s => s.plan = plan)
        . exact .modify fun s _ hs => ⟨trivial, hs.plan⟩
        intro _
        exact launched_start (fun _ _ _ => rfl) _
      . intro hup s _ hs
        have hup : started = true := by simpa using hup
        rw [hup]
        exact hs
    intro _
    apply Triple.read
    intro s₁ _ hs₁
    apply triple_runIf
    . intro hdiffers
      have hplan : s₁.plan = plan := by
        split at hs₁
        . exact hs₁.plan
        . exact hs₁.2
      have hrestarts : (started
          && s₀.keeper.pgm.cur.recoveryOptions.recoveryParameters = options.recoveryParameters)
            = false := by
        cases started with
        | false => rfl
        | true =>
          rw [hs₁.cur] at hdiffers
          simpa using hdiffers
      rw [hrestarts]
      apply Triple.bind (Q := fun _ s => s.plan = plan)
      . apply Triple.modify
        rintro s - rfl
        exact ⟨trivial, hplan⟩
      intro _
      exact launched_restart (fun _ _ _ => rfl) _
    . rintro hsame s - rfl
      have hsame : s.keeper.pgm.cur.recoveryOptions.recoveryParameters = options.recoveryParameters := by
        simpa using hsame
      cases started with
      | false => exact hs₁
      | true =>
        rw [hs₁.cur] at hsame
        simp only [hsame, decide_true, Bool.and_self, if_true]
        exact hs₁

theorem roleApplied_applyRole (a : RoleAnswers) (s₀ : Node)
    : Triple (fun _ => True) (fun s => s = s₀) (applyRole cfg cd db a)
        (fun _ => RoleApplied cfg cd db a s₀ (s₀.known,
          createPGParameters cfg a.readings s₀.keeper.dbLocalState.initPGParameters db)) := by
  apply triple_guardReturn_of_keep.bind
  intro _
  apply Triple.bind (Q := fun _ s =>
    Kept s₀ (s₀.known,
      createPGParameters cfg a.readings s₀.keeper.dbLocalState.initPGParameters db) s
      ∧
    s.pg.running = s₀.pg.running)
  . apply Triple.read
    rintro s₁ - rfl
    apply Triple.modify
    rintro s - rfl
    exact ⟨trivial, ⟨rfl, rfl, rfl⟩, rfl⟩
  intro _
  apply triple_guardReturn_of_keep.bind
  intro _
  dsimp only
  split
  . next hrole => exact roleApplied_applyMaster _ a hrole
  . next hrole =>
    unfold applyStandby
    split
    . exact .exit
    . next followConfig hfollow =>
      split
      . exact .exit
      . next startOptions options hoptions =>
        apply triple_guardReturn_of_keep.bind
        intro _
        exact roleApplied_runStandby startOptions options a hrole (by simp [hfollow, hoptions])
  . exact .exit

end Role

/-! ### The whole part -/

def Settings.compared (settings : Settings) : PGParameters × Slice String × Slice String :=
  (settings.parameters, settings.hba, settings.ident)

theorem Launched.recorded {a : Answers} {s₀ s : Node} {hba : List String} (h : Launched s)
    (hsource : source cfg cd db a s₀ ≠ .kept)
    (hloaded : s.pg.loaded.compared = (loadedBefore cfg cd db a s₀ hba).compared)
    : s.keeper.pgm.cur.compared = (recordedBefore cfg cd db a s₀ hba).compared := by
  have hsnapshot : recordedBefore cfg cd db a s₀ hba = (loadedBefore cfg cd db a s₀ hba).snapshot := by
    unfold recordedBefore
    split
    . next hkept => exact absurd hkept hsource
    . rfl
  rw [h.cur, ← h.loaded, hsnapshot]
  exact congrArg (fun settings : PGParameters × Slice String × Slice String =>
    (settings.1, settings.2.1.omitEmpty, settings.2.2.omitEmpty)) hloaded

theorem cleaned_cleanUp (a : Answers) (s₀ : Node)
    : Triple (fun _ => True) (fun s => s = s₀) (cleanUp a)
        (fun _ s =>
          s.known = { s₀.known with dbLocalState := s₀.cleaned }
            ∧
          if s₀.keeper.dbLocalState.initializing then s.pg.running = false else s = s₀) := by
  apply Triple.read
  rintro s - rfl
  unfold Node.cleaned
  apply triple_runIf
  . intro hinitializing
    simp only [hinitializing, if_true]
    apply Triple.bind (Q := fun _ s' => s'.known = s.known ∧ s'.pg.running = false)
    . apply (down_stopIfStarted _).weaken _ fun _ _ _ hs => hs
      rintro s' - rfl
      rfl
    intro _
    apply (triple_orReturn_of_keep (down_removeAll _)).bind
    intro _
    apply triple_orReturn
    apply triple_saveDBLocalState
    . rintro s' - ⟨hknown, hrunning⟩
      refine ⟨trivial, fun _ => ⟨?_, hrunning⟩⟩
      exact congrArg (fun k : Known => { k with dbLocalState := {} }) hknown
    . intro _ _ _ hok
      cases hok
  . rintro hinitializing s' - rfl
    rw [hinitializing]
    exact ⟨rfl, rfl⟩

structure RoleDue (cfg : Config) (cd : ClusterData) (db : DB) (a : Answers) (s₀ : Node)
    (hba : List String) (s : Node) : Prop where
  known : s.known = {
    wait := !s₀.initializes db && s₀.keeper.waitSyncStandbysSynced
    dbLocalState := s.keeper.dbLocalState
    hba := some hba
    ident := db.spec.pgIdent
  }
  init : s.keeper.dbLocalState.initPGParameters = initParameters db a s₀
  up :
    if s.pg.running && a.role.staysUp cfg cd db s.keeper.pgm.cur.recoveryOptions then
      source cfg cd db a s₀ ≠ .started
        ∧
      s.pg.loaded.compared = (loadedBefore cfg cd db a s₀ hba).compared
        ∧
      s.keeper.pgm.cur.compared = (recordedBefore cfg cd db a s₀ hba).compared
    else
      source cfg cd db a s₀ = .started

theorem roleDue_of_cleaned {a : Answers} {s₀ s : Node} {hba : List String}
    (hknown : s.known = {
      wait := s₀.keeper.waitSyncStandbysSynced
      dbLocalState := s₀.cleaned
      hba := some hba
      ident := db.spec.pgIdent
    })
    (hinstance : if s₀.keeper.dbLocalState.initializing then
        s.pg.running = false
      else
        s.pg = s₀.pg ∧ s.keeper.pgm.cur = s₀.keeper.pgm.cur)
    (hkeeps : s₀.initializes db = false) : RoleDue cfg cd db a s₀ hba s := by
  have hlocal : s.keeper.dbLocalState = s₀.cleaned := congrArg Known.dbLocalState hknown
  refine ⟨?_, ?_, ?_⟩
  . rw [hlocal, hknown, hkeeps]
    rfl
  . rw [hlocal, initParameters, hkeeps]
    rfl
  . have hsource : source cfg cd db a s₀
        = if s.pg.running && a.role.staysUp cfg cd db s.keeper.pgm.cur.recoveryOptions then
            .kept
          else
            .started := by
      unfold source
      rw [hkeeps, if_neg Bool.false_ne_true]
      cases hinitializing : s₀.keeper.dbLocalState.initializing with
      | true =>
        rw [hinitializing] at hinstance
        rw [show s.pg.running = false from hinstance]
        simp
      | false =>
        rw [hinitializing] at hinstance
        rw [hinstance.1, hinstance.2, Bool.not_false, Bool.and_true]
    split
    . next hup =>
      rw [if_pos hup] at hsource
      have hinitializing : s₀.keeper.dbLocalState.initializing = false := by
        by_contra hother
        rw [if_pos (Bool.of_not_eq_false hother)] at hinstance
        simp [hinstance] at hup
      rw [hinitializing] at hinstance
      simp [hsource, loadedBefore, recordedBefore, hinstance.1, hinstance.2]
    . next hdown => rw [hsource, if_neg hdown]

theorem roleDue_of_initialized {a : Answers} {s₀ s : Node} {hba : List String} {k : Known}
    (h : Initialized cfg cd db a.init k s) (hhba : k.hba = some hba)
    (hident : k.ident = db.spec.pgIdent) (hinitializes : s₀.initializes db = true)
    : RoleDue cfg cd db a s₀ hba s := by
  have hinit : s.keeper.dbLocalState.initPGParameters = initParameters db a s₀ := by
    rw [h.init, initParameters, if_pos hinitializes]
  refine ⟨?_, hinit, ?_⟩
  . rw [h.known, hhba, hident, hinitializes]
    rfl
  . have hstarted := h.started
    split at hstarted
    . next hresync =>
      obtain ⟨hlaunched, hparameters, hoptions⟩ := hstarted
      have hrecorded : s.keeper.pgm.cur.recoveryOptions = a.init.recoveryOptions cfg cd db := by
        rw [hlaunched.cur, ← hoptions]
        rfl
      have hsource : source cfg cd db a s₀
          = if a.role.staysUp cfg cd db (a.init.recoveryOptions cfg cd db) then
              .resynced
            else
              .started := by
        rw [source, if_pos hinitializes, hresync, Bool.true_and]
      rw [hlaunched.running, Bool.true_and, hrecorded]
      split
      . next hup =>
        rw [if_pos hup] at hsource
        have hnone : initParameters db a s₀ = none := by
          simp only [Bool.and_eq_true, decide_eq_true_eq] at hresync
          simp [initParameters, hinitializes, InitAnswers.foundParameters, hresync.1]
        have hloaded : s.pg.loaded.compared = (loadedBefore cfg cd db a s₀ hba).compared := by
          have hchosen := h.known
          simp only [Node.known, Known.mk.injEq] at hchosen
          simp [Settings.compared, loadedBefore, hsource, hlaunched.loaded, hparameters, hnone,
            hchosen, hhba, hident]
        exact ⟨by simp [hsource], hloaded, hlaunched.recorded (by simp [hsource]) hloaded⟩
      . next hdown => rw [hsource, if_neg hdown]
    . next hother =>
      rw [hstarted, Bool.false_and, if_neg Bool.false_ne_true, source, if_pos hinitializes]
      rw [if_neg]
      intro hresynced
      simp only [Bool.and_eq_true] at hresynced hother
      exact hother hresynced.1

/--
The state in which the settings are compared, in terms of the state `s₀` at the start of the tick.
-/
structure Prepared (cfg : Config) (cd : ClusterData) (db : DB) (a : Answers) (s₀ : Node)
    (hba : List String) (s : Node) : Prop where
  generated : generateHBA cfg cd db (hbaWaits cfg cd db a s₀) = .ok hba
  wait : s.keeper.waitSyncStandbysSynced = waits cfg cd db a s₀
  init : s.keeper.dbLocalState.initPGParameters = initParameters db a s₀
  desired : s.keeper.pgm.desired.compared
    = (createPGParameters cfg a.role.readings (initParameters db a s₀) db, some hba, db.spec.pgIdent)
  loaded : s.pg.loaded.compared = (loadedBefore cfg cd db a s₀ hba).compared
  recorded : s.keeper.pgm.cur.compared = (recordedBefore cfg cd db a s₀ hba).compared

theorem prepared_of_launched {a : Answers} {s₀ s : Node} {hba : List String} {k : Known}
    (hlaunched : Launched s) (hsource : source cfg cd db a s₀ = .started)
    (hgenerated : generateHBA cfg cd db (hbaWaits cfg cd db a s₀) = .ok hba)
    (hplan : s.plan = (k, createPGParameters cfg a.role.readings (initParameters db a s₀) db))
    (hwait : k.wait = waits cfg cd db a s₀)
    (hinit : k.dbLocalState.initPGParameters = initParameters db a s₀) (hhba : k.hba = some hba)
    (hident : k.ident = db.spec.pgIdent) : Prepared cfg cd db a s₀ hba s := by
  simp only [Node.plan, Prod.mk.injEq] at hplan
  obtain ⟨rfl, hparameters⟩ := hplan
  have hdesired : s.keeper.pgm.desired.compared
      = (createPGParameters cfg a.role.readings (initParameters db a s₀) db, some hba,
          db.spec.pgIdent) :=
    Prod.ext hparameters (Prod.ext hhba hident)
  have hloaded : s.pg.loaded.compared = (loadedBefore cfg cd db a s₀ hba).compared := by
    rw [hlaunched.loaded, hdesired, loadedBefore, hsource]
    rfl
  exact ⟨hgenerated, hwait, hinit, hdesired, hloaded, hlaunched.recorded (by simp [hsource]) hloaded⟩

theorem RoleDue.prepared {a : Answers} {s₀ s s₁ : Node} {hba : List String}
    (h : RoleDue cfg cd db a s₀ hba s)
    (hgenerated : generateHBA cfg cd db s₀.keeper.waitSyncStandbysSynced = .ok hba)
    (hrole : RoleApplied cfg cd db a.role s (s.known,
      createPGParameters cfg a.role.readings s.keeper.dbLocalState.initPGParameters db) s₁)
    : ∃ hbaSet : List String, Prepared cfg cd db a s₀ hbaSet s₁ := by
  have hup := h.up
  have hknown := h.known
  rw [h.init] at hrole
  unfold RoleApplied at hrole
  split at hrole
  . next hstays =>
    rw [if_pos hstays] at hup
    obtain ⟨hsource, hloaded, hrecorded⟩ := hup
    have hfences : fences cfg cd db a s₀ = false := by simp [fences, hsource]
    have hplan := hrole.plan
    simp only [Node.plan, Prod.mk.injEq] at hplan
    obtain ⟨hsame, hparameters⟩ := hplan
    rw [hknown] at hsame
    refine ⟨hba, ?_, ?_, ?_, ?_, ?_, ?_⟩
    . rw [hbaWaits, hfences, Bool.false_or, hgenerated]
    . rw [waits, hfences, Bool.false_or]
      exact congrArg Known.wait hsame
    . rw [← h.init]
      exact congrArg (fun k => k.dbLocalState.initPGParameters) hsame
    . exact Prod.ext hparameters (Prod.ext (congrArg Known.hba hsame) (congrArg Known.ident hsame))
    . rw [hrole.loaded, hloaded]
    . rw [hrole.cur, hrecorded]
  . next hstays =>
    rw [if_neg hstays] at hup
    obtain ⟨hlaunched, hrole⟩ := hrole
    by_cases hfenced : db.spec.role = .master ∧ db.spec.synchronousReplication = true
    . have hfences : fences cfg cd db a s₀ = true := by simp [fences, hup, hfenced]
      rw [if_pos hfenced.1, MasterStarted, if_pos hfenced.2] at hrole
      obtain ⟨hbaSet, hgenerated, hplan⟩ := hrole
      refine ⟨hbaSet, prepared_of_launched hlaunched hup ?_ hplan ?_ h.init rfl ?_⟩
      . rw [hbaWaits, hfences, Bool.true_or, hgenerated]
      . rw [waits, hfences, Bool.true_or]
      . rw [hknown]
    . have hfences : fences cfg cd db a s₀ = false := by
        simp only [fences, hup, decide_true, Bool.true_and, Bool.and_eq_false_iff,
          decide_eq_false_iff_not]
        by_cases hmaster : db.spec.role = .master
        . right
          by_contra hsync
          exact hfenced ⟨hmaster, Bool.of_not_eq_false hsync⟩
        . exact .inl hmaster
      have hplan : s₁.plan
          = (s.known, createPGParameters cfg a.role.readings (initParameters db a s₀) db) := by
        split at hrole
        . next hmaster =>
          rw [MasterStarted, if_neg fun hsync => hfenced ⟨hmaster, hsync⟩] at hrole
          exact hrole
        . exact hrole
      refine ⟨hba, prepared_of_launched hlaunched hup ?_ hplan ?_ h.init ?_ ?_⟩
      . rw [hbaWaits, hfences, Bool.false_or, hgenerated]
      . rw [waits, hfences, Bool.false_or, hknown]
      . rw [hknown]
      . rw [hknown]

theorem prepared_prepare (a : Answers) (s₀ : Node)
    : Triple (fun _ => True) (fun s => s = s₀) (prepare cfg cd db a)
        (fun _ s => ∃ hba : List String, Prepared cfg cd db a s₀ hba s) := by
  apply Triple.read
  rintro s - rfl
  apply triple_liftExcept_ok.bind
  intro hba
  apply Triple.assume
  intro hgenerated
  apply Triple.bind (Q := fun _ s' => s' = { s with
    keeper := { s.keeper with
      pgm := { s.keeper.pgm with desired := { s.keeper.pgm.desired with hba := some hba } }
    }
  })
  . apply Triple.modify
    rintro s' - rfl
    exact ⟨trivial, rfl⟩
  intro _
  apply Triple.bind (Q := fun _ s' => s' = { s with
    keeper := { s.keeper with
      pgm := { s.keeper.pgm with
        desired := { s.keeper.pgm.desired with hba := some hba, ident := db.spec.pgIdent }
      }
    }
  })
  . apply Triple.modify
    rintro s' - rfl
    exact ⟨trivial, rfl⟩
  intro _
  apply (cleaned_cleanUp a _).bind
  intro _
  apply Triple.read
  rintro s₁ - ⟨hknown, hinstance⟩
  have hlocal : s₁.keeper.dbLocalState = s.cleaned := congrArg Known.dbLocalState hknown
  apply Triple.bind (Q := fun _ => RoleDue cfg cd db a s hba)
  . apply triple_runIf
    . intro hinitializes
      rw [hlocal] at hinitializes
      apply (initialized_initializeDB a.init).weaken
      . rintro s' - rfl
        exact hknown
      . exact fun _ s' _ hs' => roleDue_of_initialized hs' rfl rfl hinitializes
    . rintro hkeeps s' - rfl
      rw [hlocal] at hkeeps
      apply roleDue_of_cleaned hknown _ hkeeps
      dsimp only at hinstance
      split at hinstance
      . next hinitializing =>
        rw [if_pos hinitializing]
        exact hinstance
      . next hinitializing =>
        rw [if_neg hinitializing, hinstance]
        exact ⟨rfl, rfl⟩
  intro _ s₂ _ hdue
  refine ⟨fun _ _ => trivial, trivial, fun _ hresult => ?_⟩
  exact hdue.prepared hgenerated ((roleApplied_applyRole a.role s₂ s₂ trivial rfl).2.2 _ hresult)

end Prepare

end Keeper
end Hysteron
