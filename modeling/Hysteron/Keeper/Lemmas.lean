import Hysteron.Keeper.StateMachine
import Hysteron.Util.TransitionSystem

/-!
What the parts of a tick leave alone, and the runs of a node: ticks, crashes at any point of a tick
with a restart of the process, and the death of the instance.
-/

namespace Hysteron
namespace Keeper

open Program

section Rules

variable {α : Type} {I P : Node → Prop} {Q : Unit → Node → Prop}

theorem triple_orReturn {m : NodeM Bool} (h : Triple I P m (fun ok s => ok = true → Q () s))
    : Triple I P (orReturn m) Q := by
  apply h.bind
  intro ok
  cases ok with
  | true => exact .pure fun s _ hs => hs rfl
  | false => exact .exit

theorem triple_orReturn_of_keep {m : NodeM Bool} {R : Node → Prop} (h : Triple I P m (fun _ => R))
    : Triple I P (orReturn m) (fun _ => R) :=
  triple_orReturn (h.weaken (fun _ _ hs => hs) fun _ _ _ hs _ => hs)

theorem triple_guardReturn {ok : Bool} (h : ∀ (s : Node), I s → P s → ok = true → Q () s)
    : Triple I P (guardReturn ok) Q :=
  triple_orReturn (.pure h)

theorem triple_guardReturn_of_keep {ok : Bool} : Triple I P (guardReturn ok) (fun _ => P) :=
  triple_guardReturn fun _ _ hs _ => hs

theorem triple_runIf {condition : Bool} {m : NodeM Unit}
    (htrue : condition = true → Triple I P m Q)
    (hfalse : condition = false → ∀ (s : Node), I s → P s → Q () s)
    : Triple I P (runIf condition m) Q := by
  unfold runIf
  split
  . next h => exact htrue h
  . next h => exact .pure (hfalse (by simpa using h))

theorem triple_logged {m : NodeM Bool} (h : Triple I P m (fun _ => Q ())) : Triple I P (logged m) Q :=
  h.bind fun _ => .pure fun _ _ hs => hs

theorem triple_liftExcept {x : Except Exit α} {Q : α → Node → Prop}
    (h : ∀ (a : α), x = .ok a → ∀ (s : Node), I s → P s → Q a s) : Triple I P (liftExcept x) Q := by
  unfold liftExcept
  split
  . next a => exact .pure (h a rfl)
  . exact .exit

theorem triple_liftExcept_ok {x : Except Exit α}
    : Triple I P (liftExcept x) (fun a s => x = .ok a ∧ P s) :=
  triple_liftExcept fun _ ha _ _ hs => ⟨ha, hs⟩

theorem triple_saveDBLocalState {next : DBLocalState} {ok : Bool} {Q : Bool → Node → Prop}
    (hsaved : ∀ (s : Node), I s → P s → I (s.setDBLocalState next) ∧ Q true (s.setDBLocalState next))
    (hfailed : ∀ (s : Node), I s → P s → Q false s)
    : Triple I P (saveDBLocalState next ok) Q := by
  unfold saveDBLocalState
  apply Triple.bind (Q := fun _ => Q ok)
  . apply triple_runIf
    . rintro rfl
      exact .modify hsaved
    . rintro rfl
      exact hfailed
  . intro _
    exact .pure fun s _ hs => hs

end Rules

section Keeps

variable {γ : Type} {view : Node → γ} {α : Type}

theorem keeps_orReturn {m : NodeM Bool} (h : m.Keeps view) : (orReturn m).Keeps view := by
  apply h.bind
  intro ok
  cases ok with
  | true => exact .pure
  | false => exact .exit

theorem keeps_guardReturn {ok : Bool} : (guardReturn ok).Keeps view := keeps_orReturn .pure

theorem keeps_runIf {condition : Bool} {m : NodeM Unit} (h : m.Keeps view)
    : (runIf condition m).Keeps view := by
  unfold runIf
  split
  . exact h
  . exact .pure

theorem keeps_logged {m : NodeM Bool} (h : m.Keeps view) : (logged m).Keeps view :=
  h.bind fun _ => .pure

theorem keeps_liftExcept {x : Except Exit α} : (liftExcept x).Keeps view := by
  unfold liftExcept
  split
  . exact .pure
  . exact .exit

end Keeps

class InstanceBlind (view : Node → γ) : Prop where
  pg (s : Node) (pg : Instance) : view { s with pg } = view s

section InstanceBlind

variable {γ : Type} {view : Node → γ} [InstanceBlind view]

theorem keeps_modifyInstance (f : Node → Instance)
    : (Program.modify fun s => { s with pg := f s } : NodeM Unit).Keeps view :=
  .modify fun s => InstanceBlind.pg s _

theorem keeps_survive (alive : Bool)
    : (Program.modify fun s => s.survive alive : NodeM Unit).Keeps view :=
  keeps_modifyInstance _

theorem keeps_isStarted (answer : Option Bool) : (isStarted answer).Keeps view := by
  cases answer with
  | none => exact .pure
  | some alive =>
    apply (keeps_survive alive).bind
    intro _
    exact Keeps.get.bind fun _ => .pure

theorem keeps_stopIfStarted (answer : StopAnswer) : (stopIfStarted answer).Keeps view := by
  cases answer with
  | stopped => exact (keeps_survive false).bind fun _ => .pure
  | failed alive => exact (keeps_survive alive).bind fun _ => .pure

theorem keeps_writeConf : writeConf.Keeps view := keeps_modifyInstance _

theorem keeps_getConfigFilePGParameters (answer : Option PGParameters)
    : (getConfigFilePGParameters answer).Keeps view := by
  cases answer with
  | none => exact .pure
  | some pgParameters => exact (keeps_modifyInstance _).bind fun _ => .pure

end InstanceBlind

/--
A part of a node that does not depend on the instance and on the settings, except for `pg_hba` and
`pg_ident`.
-/
class SettingsBlind (view : Node → γ) : Prop extends InstanceBlind view where
  pgm (s : Node) (pgm : Manager) (hhba : pgm.desired.hba = s.keeper.pgm.desired.hba)
    (hident : pgm.desired.ident = s.keeper.pgm.desired.ident)
    : view { s with keeper := { s.keeper with pgm } } = view s

section SettingsBlind

variable {γ : Type} {view : Node → γ} [SettingsBlind view] {cfg : Config} {db : DB}

theorem keeps_modifyManager (f : Manager → Manager)
    (hhba : ∀ (pgm : Manager), (f pgm).desired.hba = pgm.desired.hba)
    (hident : ∀ (pgm : Manager), (f pgm).desired.ident = pgm.desired.ident)
    : (modifyManager f).Keeps view :=
  .modify fun s => SettingsBlind.pgm s _ (hhba _) (hident _)

theorem keeps_setParameters (parameters : PGParameters) : (setParameters parameters).Keeps view :=
  keeps_modifyManager _ (fun _ => rfl) fun _ => rfl

theorem keeps_setRecoveryOptions (recoveryOptions : RecoveryOptions)
    : (setRecoveryOptions recoveryOptions).Keeps view :=
  keeps_modifyManager _ (fun _ => rfl) fun _ => rfl

theorem keeps_updateCur : updateCur.Keeps view := keeps_modifyManager _ (fun _ => rfl) fun _ => rfl

theorem keeps_startWith (loaded : Settings) (answer : StartAnswer)
    : (startWith loaded answer).Keeps view := by
  cases answer with
  | started =>
    apply (keeps_modifyInstance _).bind
    intro _
    exact keeps_updateCur.bind fun _ => .pure
  | active => exact (keeps_modifyInstance _).bind fun _ => .pure
  | failed => exact .pure

theorem keeps_start (answer : StartAnswer) : (start answer).Keeps view := by
  apply keeps_writeConf.bind
  intro _
  exact Keeps.get.bind fun _ => keeps_startWith _ answer

theorem keeps_startTmpMerged (postgresConf : PGParameters) (answer : StartAnswer)
    : (startTmpMerged postgresConf answer).Keeps view :=
  Keeps.get.bind fun _ => keeps_startWith _ answer

theorem keeps_reload (ok : Bool) : (reload ok).Keeps view := by
  apply keeps_writeConf.bind
  intro _
  apply Keeps.bind
  . apply keeps_runIf
    exact (keeps_modifyInstance _).bind fun _ => keeps_updateCur
  . intro _
    exact .pure

theorem keeps_restart (answer : RestartAnswer) : (restart answer).Keeps view := by
  apply (keeps_stopIfStarted _).bind
  intro ok
  cases ok with
  | true => exact keeps_start _
  | false => exact .pure

theorem keeps_updateParameters (readings : Readings)
    : (updateParameters cfg readings db).Keeps view :=
  Keeps.get.bind fun _ => keeps_setParameters _

end SettingsBlind

class Blind (view : Node → γ) : Prop extends SettingsBlind view where
  wait (s : Node) (wait : Bool)
    : view { s with keeper := { s.keeper with waitSyncStandbysSynced := wait } } = view s
  hba (s : Node) (hba : Slice String)
    : view { s with keeper := { s.keeper with pgm := { s.keeper.pgm with
        desired := { s.keeper.pgm.desired with hba } } } } = view s

section Blind

variable {γ : Type} {view : Node → γ} [Blind view] {cfg : Config} {cd : ClusterData} {db : DB}

theorem keeps_setHba (hba : List String) : (setHba hba).Keeps view :=
  .modify fun s => Blind.hba s (some hba)

theorem keeps_setWait (wait : Bool) : (setWaitSyncStandbysSynced wait).Keeps view :=
  .modify fun s => Blind.wait s wait

theorem keeps_startMaster (a : RoleAnswers) : (startMaster cfg cd db a).Keeps view := by
  apply Keeps.bind
  . apply keeps_runIf
    apply (keeps_setWait _).bind
    intro _
    exact keeps_liftExcept.bind fun _ => keeps_setHba _
  . intro _
    exact (keeps_orReturn (keeps_start _)).bind fun _ => keeps_guardReturn

theorem keeps_applyMaster (localRole : Role) (a : RoleAnswers)
    : (applyMaster cfg cd db localRole a).Keeps view := by
  apply keeps_guardReturn.bind
  intro _
  apply (keeps_setRecoveryOptions _).bind
  intro _
  apply (keeps_isStarted _).bind
  intro started
  cases started with
  | none => exact .exit
  | some started =>
    apply (keeps_runIf (keeps_startMaster a)).bind
    intro _
    apply (keeps_runIf (keeps_guardReturn.bind fun _ => keeps_guardReturn)).bind
    intro _
    exact keeps_guardReturn

theorem keeps_runStandby (startOptions newRecoveryOptions : RecoveryOptions) (a : RoleAnswers)
    : (runStandby startOptions newRecoveryOptions a).Keeps view := by
  apply (keeps_isStarted _).bind
  intro started
  cases started with
  | none => exact .exit
  | some started =>
    apply Keeps.bind
    . apply keeps_runIf
      exact (keeps_setRecoveryOptions _).bind fun _ => keeps_orReturn (keeps_start _)
    . intro _
      apply Keeps.get.bind
      intro _
      apply keeps_runIf
      exact (keeps_setRecoveryOptions _).bind fun _ => keeps_orReturn (keeps_restart _)

theorem keeps_applyStandby (localRole : Role) (a : RoleAnswers)
    : (applyStandby cfg cd db localRole a).Keeps view := by
  unfold applyStandby
  split
  . exact .exit
  . split
    . exact .exit
    . exact keeps_guardReturn.bind fun _ => keeps_runStandby _ _ a

theorem keeps_applyRole (a : RoleAnswers) : (applyRole cfg cd db a).Keeps view := by
  apply keeps_guardReturn.bind
  intro _
  apply (keeps_updateParameters _).bind
  intro _
  apply keeps_guardReturn.bind
  intro _
  dsimp only
  split
  . exact keeps_applyMaster _ a
  . exact keeps_applyStandby _ a
  . exact .exit

theorem keeps_changeParameters (readings : Readings)
    : (changeParameters cfg readings db).Keeps view := by
  apply Keeps.get.bind
  intro s
  dsimp only
  split
  . exact .pure
  . exact (keeps_setParameters _).bind fun _ => .pure

theorem keeps_checkSyncStandbys (inSyncStandbys : Option (List String))
    : (checkSyncStandbys db inSyncStandbys).Keeps view := by
  apply Keeps.get.bind
  intro s
  split
  . split
    . exact .exit
    . exact keeps_runIf (.modify fun s => (InstanceBlind.pg _ _).trans (Blind.wait s _))
  . exact keeps_setWait _

theorem keeps_changeHba (newHBA : List String) : (changeHba newHBA).Keeps view := by
  apply Keeps.get.bind
  intro s
  split
  . exact .pure
  . exact (keeps_setHba _).bind fun _ => .pure

theorem keeps_restartIfRequired (automaticPgRestart : Bool) (a : ConvergeAnswers)
    : (restartIfRequired automaticPgRestart a).Keeps view := by
  apply (keeps_modifyInstance _).bind
  intro _
  exact keeps_runIf (keeps_logged (keeps_restart _))

end Blind

class BlindToRemoval (view : Node → γ) : Prop extends InstanceBlind view where
  removal (s : Node) (wiped : Nat) (complete : Option String)
    : view { s with data := { s.data with wiped, complete } } = view s

section Removal

variable {γ : Type} {view : Node → γ} [BlindToRemoval view] {cfg : Config} {db : DB}

theorem keeps_wipe : wipe.Keeps view := .modify fun s => BlindToRemoval.removal s _ _

theorem keeps_removeAll (answer : RemoveAnswer) : (removeAll answer).Keeps view := by
  unfold removeAll
  split
  . exact .pure
  . apply Keeps.bind
    . split
      . exact keeps_isStarted _
      . exact .pure
    . intro _
      split
      . split
        . exact .pure
        . exact keeps_wipe.bind fun _ => .pure
      . exact .pure

theorem keeps_create (ok : Bool) : (create ok).Keeps view :=
  (keeps_runIf keeps_wipe).bind fun _ => .pure

theorem keeps_resync [SettingsBlind view] (followedDB : DB) (tryPgrewind : Bool) (a : ResyncAnswers)
    : (resync cfg db followedDB tryPgrewind a).Keeps view := by
  apply Keeps.bind
  . split
    . apply keeps_wipe.bind
      intro _
      exact (keeps_runIf (keeps_setRecoveryOptions _)).bind fun _ => .pure
    . exact .pure
  . intro _
    split
    . exact .pure
    . apply (keeps_removeAll _).bind
      intro _
      split <;> exact .pure

theorem keeps_verifyRewind [SettingsBlind view] (followedDB : DB) (a : InitAnswers)
    : (verifyRewind cfg db followedDB a).Keeps view := by
  apply Keeps.bind
  . split
    . split
      . exact .exit
      . exact .pure
    . exact .pure
  . intro _
    apply keeps_runIf
    apply (keeps_orReturn (keeps_stopIfStarted _)).bind
    intro _
    exact keeps_orReturn (keeps_resync _ _ _)

end Removal

class Oblivious (view : Node → γ) : Prop extends SettingsBlind view where
  save (s : Node) (l : DBLocalState) : view (s.setDBLocalState l) = view s
  data (s : Node) (data : DataDir) : view { s with data } = view s

instance {γ : Type} {view : Node → γ} [Oblivious view] : BlindToRemoval view :=
  ⟨fun s _ _ => Oblivious.data s _⟩

section Oblivious

variable {γ : Type} {view : Node → γ} [Oblivious view] {cfg : Config} {cd : ClusterData} {db : DB}

theorem keeps_saveDBLocalState (next : DBLocalState) (ok : Bool)
    : (saveDBLocalState next ok).Keeps view :=
  Keeps.bind (keeps_runIf (.modify fun s => Oblivious.save s _)) fun _ => .pure

end Oblivious

def Node.durable (s : Node) : DBLocalState × Option DBLocalState × DataDir :=
  (s.keeper.dbLocalState, s.savedDB, s.data)

instance : Blind Node.durable where
  pg _ _ := rfl
  pgm _ _ _ _ := rfl
  wait _ _ := rfl
  hba _ _ := rfl

theorem keeps_setIdent (ident : Slice String) : (setIdent ident).Keeps Node.durable :=
  .modify fun _ => rfl

theorem keeps_changeIdent (ident : Slice String) : (changeIdent ident).Keeps Node.durable := by
  apply Keeps.get.bind
  intro s
  split
  . exact .pure
  . exact (keeps_setIdent _).bind fun _ => .pure

def Node.records (s : Node)
    : String × LocalState × DBLocalState × LocalState × Option DBLocalState × DataDir :=
  (s.keeper.bootUUID, s.keeper.keeperLocalState, s.keeper.dbLocalState, s.savedKeeper, s.savedDB,
    s.data)

instance : Blind Node.records where
  pg _ _ := rfl
  pgm _ _ _ _ := rfl
  wait _ _ := rfl
  hba _ _ := rfl

def DBLocalState.Tidy (l : DBLocalState) : Prop :=
  l.initializing = true → l.generation = noGeneration

/--
A property that no tick on a database with an adopted UID can break, whatever it meets. The local
state is reset, is the one of that database, or changes without its UID.
-/
structure Stable (adopts : String → Prop) (I : Node → Prop) : Prop where
  records : ∀ (s s' : Node), s'.records = s.records → I s → I s'
  data : ∀ (s : Node) (data : DataDir), I s → I { s with data }
  save : ∀ (s : Node) (l : DBLocalState), l.Tidy →
    l.uid = "" ∨ adopts l.uid ∨ l.uid = s.keeper.dbLocalState.uid → I s → I (s.setDBLocalState l)
  bind : ∀ (s : Node) (clusterUID : String), I s → I { s with
    keeper := { s.keeper with keeperLocalState := { s.keeper.keeperLocalState with clusterUID } } }
  saveKeeper : ∀ (s : Node), I s → I { s with savedKeeper := s.keeper.keeperLocalState }

section Stable

variable {adopts : String → Prop} {I : Node → Prop} {cfg : Config} {cd : ClusterData} {db : DB}

theorem tidy_initialState (db : DB) (initializing : Bool) (parameters : Option PGParameters)
    : ({ initialState db initializing with initPGParameters := parameters } : DBLocalState).Tidy :=
  fun _ => rfl

section Parts

variable (h : Stable adopts I)

include h

theorem Stable.keeps {α : Type} {m : NodeM α} (hm : m.Keeps Node.records)
    : Triple I (fun _ => True) m (fun _ _ => True) :=
  hm.triple h.records fun _ _ _ hs => hs

theorem stable_wipe : Triple I (fun _ => True) wipe (fun _ _ => True) :=
  .modify fun s hs _ => ⟨h.data s _ hs, trivial⟩

theorem stable_completed (uid : String) (resync : Bool)
    : Triple I (fun _ => True) (completed uid resync) (fun _ _ => True) :=
  .modify fun s hs _ => ⟨h.data s _ hs, trivial⟩

theorem stable_removeAll (answer : RemoveAnswer)
    : Triple I (fun _ => True) (removeAll answer) (fun _ _ => True) := by
  unfold removeAll
  split
  . exact .pure fun _ _ hs => hs
  . apply Triple.bind (Q := fun _ _ => True)
    . split
      . exact h.keeps (keeps_isStarted _)
      . exact .pure fun _ _ hs => hs
    . intro _
      split
      . split
        . exact .pure fun _ _ hs => hs
        . exact (stable_wipe h).bind fun _ => .pure fun _ _ hs => hs
      . exact .pure fun _ _ hs => hs

theorem stable_create (ok : Bool) : Triple I (fun _ => True) (create ok) (fun _ _ => True) := by
  apply Triple.bind (Q := fun _ _ => True)
  . exact triple_runIf (fun _ => stable_wipe h) fun _ _ _ hs => hs
  . intro _
    exact .pure fun _ _ hs => hs

theorem stable_resync (followedDB : DB) (tryPgrewind : Bool) (a : ResyncAnswers)
    : Triple I (fun _ => True) (resync cfg db followedDB tryPgrewind a) (fun _ _ => True) := by
  apply Triple.bind (Q := fun _ _ => True)
  . split
    . apply (stable_wipe h).bind
      intro _
      apply (h.keeps (keeps_runIf (keeps_setRecoveryOptions _))).bind
      intro _
      exact .pure fun _ _ hs => hs
    . exact .pure fun _ _ hs => hs
  . intro _
    split
    . exact .pure fun _ _ hs => hs
    . apply (stable_removeAll h _).bind
      intro _
      split <;> exact .pure fun _ _ hs => hs

theorem stable_save {next : DBLocalState} (hnext : next.Tidy)
    (huid : next.uid = "" ∨ adopts next.uid) (ok : Bool)
    : Triple I (fun _ => True) (orReturn (saveDBLocalState next ok)) (fun _ _ => True) := by
  apply triple_orReturn_of_keep
  exact triple_saveDBLocalState
    (fun s hs _ => ⟨h.save s next hnext (huid.imp_right .inl) hs, trivial⟩) fun _ _ hs => hs

theorem stable_saveGeneration (ok : Bool)
    : Triple I (fun _ => True) (saveGeneration db ok) (fun _ _ => True) := by
  apply Triple.read
  intro s₀ _ _
  apply triple_orReturn
  apply triple_saveDBLocalState
  . rintro s hs rfl
    exact ⟨h.save s _ (fun hinitializing => by cases hinitializing) (.inr (.inr rfl)) hs,
      fun _ => trivial⟩
  . exact fun _ _ _ hfailed => by cases hfailed

theorem stable_verifyRewind (followedDB : DB) (a : InitAnswers)
    : Triple I (fun _ => True) (verifyRewind cfg db followedDB a) (fun _ _ => True) := by
  apply Triple.bind (Q := fun _ _ => True)
  . split
    . split
      . exact .exit
      . exact .pure fun _ _ hs => hs
    . exact .pure fun _ _ hs => hs
  . intro _
    apply triple_runIf
    . intro _
      apply (h.keeps (keeps_orReturn (keeps_stopIfStarted _))).bind
      intro _
      exact triple_orReturn_of_keep (stable_resync h _ _ _)
    . exact fun _ _ _ hs => hs

section Adopted

variable (hdb : adopts db.uid)

include hdb

theorem stable_keepInitParameters (initializing : Bool) (a : InitAnswers)
    : Triple I (fun _ => True) (keepInitParameters db (initialState db initializing) a)
        (fun _ _ => True) := by
  apply triple_runIf
  . intro _
    apply (h.keeps (keeps_getConfigFilePGParameters _)).bind
    intro _
    split
    . exact .exit
    . exact stable_save h (tidy_initialState db initializing _) (.inr hdb) _
  . exact fun _ _ _ hs => hs

theorem stable_initNew (a : InitAnswers)
    : Triple I (fun _ => True) (initNew cfg db a) (fun _ _ => True) := by
  apply (stable_save h (tidy_initialState db true none) (.inr hdb) _).bind
  intro _
  apply (h.keeps (keeps_updateParameters _)).bind
  intro _
  apply (h.keeps (keeps_orReturn (keeps_stopIfStarted _))).bind
  intro _
  apply (triple_orReturn_of_keep (stable_removeAll h _)).bind
  intro _
  apply (triple_orReturn_of_keep (stable_create h _)).bind
  intro _
  apply (h.keeps (keeps_orReturn (keeps_startTmpMerged _ _))).bind
  intro _
  apply (h.keeps keeps_guardReturn).bind
  intro _
  apply (stable_keepInitParameters h hdb _ a).bind
  intro _
  apply (h.keeps keeps_guardReturn).bind
  intro _
  apply (h.keeps (keeps_orReturn (keeps_stopIfStarted _))).bind
  intro _
  exact stable_completed h _ _

theorem stable_initPITR (a : InitAnswers)
    : Triple I (fun _ => True) (initPITR cfg db a) (fun _ _ => True) := by
  apply (stable_save h (tidy_initialState db true none) (.inr hdb) _).bind
  intro _
  apply (h.keeps (keeps_updateParameters _)).bind
  intro _
  apply (h.keeps (keeps_orReturn (keeps_stopIfStarted _))).bind
  intro _
  apply (triple_orReturn_of_keep (stable_removeAll h _)).bind
  intro _
  split
  . exact .exit
  . apply (triple_orReturn_of_keep (stable_create h _)).bind
    intro _
    apply (h.keeps (keeps_setRecoveryOptions _)).bind
    intro _
    apply (h.keeps (keeps_orReturn (keeps_startTmpMerged _ _))).bind
    intro _
    apply (h.keeps keeps_guardReturn).bind
    intro _
    apply (h.keeps keeps_guardReturn).bind
    intro _
    apply (stable_keepInitParameters h hdb _ a).bind
    intro _
    apply (h.keeps (keeps_orReturn (keeps_stopIfStarted _))).bind
    intro _
    exact stable_completed h _ _

theorem stable_initResync (initialized : Bool) (a : InitAnswers)
    : Triple I (fun _ => True) (initResync cfg cd db initialized a) (fun _ _ => True) := by
  apply (stable_save h (tidy_initialState db true none) (.inr hdb) _).bind
  intro _
  apply (h.keeps (keeps_orReturn (keeps_stopIfStarted _))).bind
  intro _
  apply (h.keeps (keeps_updateParameters _)).bind
  intro _
  apply (h.keeps keeps_guardReturn).bind
  intro _
  split
  . exact .exit
  . split
    . exact .exit
    . next followedDB _ =>
      apply (triple_orReturn_of_keep (stable_resync h _ _ _)).bind
      intro _
      apply (h.keeps (keeps_orReturn (keeps_start _))).bind
      intro _
      apply Triple.bind (Q := fun _ _ => True)
      . exact triple_runIf (fun _ => stable_verifyRewind h followedDB a) fun _ _ _ hs => hs
      . intro _
        exact stable_completed h _ _

theorem stable_initExisting (a : InitAnswers)
    : Triple I (fun _ => True) (initExisting cfg db a) (fun _ _ => True) := by
  apply (stable_save h (tidy_initialState db false none) (.inr hdb) _).bind
  intro _
  apply (h.keeps (keeps_updateParameters _)).bind
  intro _
  apply (h.keeps (keeps_orReturn (keeps_stopIfStarted _))).bind
  intro _
  apply (h.keeps (keeps_orReturn (keeps_startTmpMerged _ _))).bind
  intro _
  apply (h.keeps keeps_guardReturn).bind
  intro _
  apply (stable_keepInitParameters h hdb _ a).bind
  intro _
  exact h.keeps (keeps_orReturn (keeps_stopIfStarted _))

theorem stable_initializeDB (a : InitAnswers)
    : Triple I (fun _ => True) (initializeDB cfg cd db a) (fun _ _ => True) := by
  unfold initializeDB
  split
  . exact .exit
  . apply (h.keeps (keeps_setRecoveryOptions _)).bind
    intro _
    apply (h.keeps (keeps_setWait _)).bind
    intro _
    split
    . exact stable_initNew h hdb a
    . exact stable_initPITR h hdb a
    . exact stable_initResync h hdb _ a
    . exact stable_initExisting h hdb a
    . exact .exit

end Adopted

theorem stable_cleanUp (a : Answers) : Triple I (fun _ => True) (cleanUp a) (fun _ _ => True) := by
  apply (h.keeps Keeps.get).bind
  intro _
  apply triple_runIf
  . intro _
    apply (h.keeps (keeps_orReturn (keeps_stopIfStarted _))).bind
    intro _
    apply (triple_orReturn_of_keep (stable_removeAll h _)).bind
    intro _
    exact stable_save h (fun _ => rfl) (.inl rfl) _
  . exact fun _ _ _ hs => hs

end Parts

section Records

variable {ident : Slice String}

theorem records_setIdent : (setIdent ident).Keeps Node.records := .modify fun _ => rfl

theorem records_changeIdent : (changeIdent ident).Keeps Node.records := by
  apply Keeps.get.bind
  intro _
  split
  . exact .pure
  . exact records_setIdent.bind fun _ => .pure

end Records

theorem stable_reconcile (h : Stable adopts I) (hdb : adopts db.uid) (a : Answers)
    : Triple I (fun _ => True) (reconcile cfg cd db a) (fun _ _ => True) := by
  apply Triple.bind (Q := fun _ _ => True)
  . apply (h.keeps Keeps.get).bind
    intro _
    apply (h.keeps keeps_liftExcept).bind
    intro _
    apply (h.keeps (keeps_setHba _)).bind
    intro _
    apply (h.keeps records_setIdent).bind
    intro _
    apply (stable_cleanUp h a).bind
    intro _
    apply (h.keeps Keeps.get).bind
    intro _
    apply Triple.bind (Q := fun _ _ => True)
    . exact triple_runIf (fun _ => stable_initializeDB h hdb _) fun _ _ _ hs => hs
    . intro _
      exact h.keeps (keeps_applyRole _)
  . intro _
    apply (h.keeps (keeps_changeParameters _)).bind
    intro _
    apply (h.keeps (keeps_checkSyncStandbys _)).bind
    intro _
    apply (h.keeps Keeps.get).bind
    intro _
    apply (h.keeps keeps_liftExcept).bind
    intro _
    apply (h.keeps (keeps_changeHba _)).bind
    intro _
    apply (h.keeps records_changeIdent).bind
    intro _
    apply (h.keeps (keeps_runIf (keeps_logged (keeps_reload _)))).bind
    intro _
    apply (h.keeps (keeps_restartIfRequired _ _)).bind
    intro _
    exact stable_saveGeneration h _

theorem stable_bindCluster (h : Stable adopts I) (ok : Bool)
    : Triple I (fun _ => True) (bindCluster cd ok) (fun _ _ => True) := by
  apply (h.keeps Keeps.get).bind
  intro _
  apply triple_runIf
  . intro _
    apply Triple.bind (Q := fun _ _ => True)
    . exact .modify fun s hs _ => ⟨h.bind s _ hs, trivial⟩
    . intro _
      apply (h.keeps keeps_guardReturn).bind
      intro _
      exact .modify fun s hs _ => ⟨h.saveKeeper s hs, trivial⟩
  . exact fun _ _ _ hs => hs

end Stable

def Node.unbound (s : Node) : Node :=
  { s with
    savedKeeper := { uid := "" }
    keeper := { s.keeper with keeperLocalState := { uid := s.keeper.keeperLocalState.uid } }
  }

theorem keeps_bindCluster (cd : ClusterData) (ok : Bool)
    : (bindCluster cd ok).Keeps Node.unbound := by
  apply Keeps.get.bind
  intro s
  apply keeps_runIf
  apply Keeps.bind
  . exact .modify fun _ => rfl
  . intro _
    exact keeps_guardReturn.bind fun _ => .modify fun _ => rfl

theorem durable_of_unbound {s s' : Node} (h : s'.unbound = s.unbound) : s'.durable = s.durable := by
  have := congrArg Node.durable h
  exact this

def Node.assignedDB (s : Node) (cd : ClusterData) (order : VisitOrder String) : Option DB :=
  cd.keepers[s.keeper.keeperLocalState.uid]?.bind fun k => cd.findDB order k.uid

theorem assignedDB_of_unbound {s s' : Node} (h : s'.unbound = s.unbound) (cd : ClusterData)
    (order : VisitOrder String) : s'.assignedDB cd order = s.assignedDB cd order := by
  have huid : s'.keeper.keeperLocalState.uid = s.keeper.keeperLocalState.uid :=
    congrArg (fun s => s.keeper.keeperLocalState.uid) h
  unfold Node.assignedDB
  rw [huid]

/--
The assigned database, once the sentinel has seen the process of the keeper.
-/
def Node.managedDB (s : Node) (cd : ClusterData) (order : VisitOrder String) : Option DB :=
  cd.keepers[s.keeper.keeperLocalState.uid]?.bind fun k =>
    (cd.findDB order k.uid).filter fun _ => s.keeper.bootUUID = k.status.bootUUID

theorem assignedDB_of_managedDB {s : Node} {cd : ClusterData} {order : VisitOrder String} {db : DB}
    (h : s.managedDB cd order = some db) : s.assignedDB cd order = some db := by
  obtain ⟨k, hk, hdb⟩ := Option.bind_eq_some_iff.mp h
  exact Option.bind_eq_some_iff.mpr ⟨k, hk, Option.eq_some_of_filter_eq_some hdb⟩

theorem managedDB_of_unbound {s s' : Node} (h : s'.unbound = s.unbound) (cd : ClusterData)
    (order : VisitOrder String) : s'.managedDB cd order = s.managedDB cd order := by
  have huid : s'.keeper.keeperLocalState.uid = s.keeper.keeperLocalState.uid :=
    congrArg (fun s => s.keeper.keeperLocalState.uid) h
  have hboot : s'.keeper.bootUUID = s.keeper.bootUUID := congrArg (fun s => s.keeper.bootUUID) h
  unfold Node.managedDB
  rw [huid, hboot]

theorem postgresKeeperSM_ok {cfg : Config} {cd : ClusterData} {db : DB} {a : Answers} {s : Node}
    (hdb : s.assignedDB cd a.order = some db)
    (h : (postgresKeeperSM cfg (some (some cd)) a s).result = .ok ())
    : ∃ s₀ : Node,
        s₀.unbound = s.unbound
          ∧
        (prepare cfg cd db a s₀).result = .ok ()
          ∧
        (converge cfg cd db a.converge (prepare cfg cd db a s₀).final).result = .ok ()
          ∧
        (postgresKeeperSM cfg (some (some cd)) a s).final
          = (converge cfg cd db a.converge (prepare cfg cd db a s₀).final).final := by
  obtain ⟨_, -, h₁, hfinal₁⟩ := bind_result_ok h
  obtain ⟨_, -, h₂, hfinal₂⟩ := bind_result_ok h₁
  obtain ⟨_, -, h₃, hfinal₃⟩ := bind_result_ok h₂
  rw [hfinal₂, hfinal₃] at hfinal₁
  -- The state in which the parts of the tick begin.
  generalize hs₀ : (bindCluster cd a.saveKeeper _).final = s₀ at h₃ hfinal₁
  have hunbound : s₀.unbound = s.unbound := by
    have hguard (ok : Bool) (s : Node) : (guardReturn ok s).final.unbound = s.unbound :=
      keeps_guardReturn.final_eq s
    rw [← hs₀, (keeps_bindCluster cd _).final_eq, hguard, hguard]
  obtain ⟨_, ⟨rfl⟩, h₄, hfinal₄⟩ := bind_result_ok h₃
  rw [← assignedDB_of_unbound hunbound] at hdb
  obtain ⟨k, hk, hdb⟩ := Option.bind_eq_some_iff.mp hdb
  simp only [get_apply] at h₄ hfinal₄
  rw [hk] at h₄ hfinal₄
  dsimp only at h₄ hfinal₄
  rw [hdb] at h₄ hfinal₄
  dsimp only at h₄ hfinal₄
  split at h₄
  . obtain ⟨_, -, h₅, -⟩ := bind_result_ok h₄
    cases h₅
  . next hboot =>
    rw [if_neg hboot] at hfinal₄
    obtain ⟨_, hprepare, hconverge, hfinal₅⟩ := bind_result_ok h₄
    exact ⟨s₀, hunbound, hprepare, hconverge, hfinal₁.trans (hfinal₄.trans hfinal₅)⟩

section Tick

variable {cfg : Config} {read : Option (Option ClusterData)} {a : Answers} {I P : Node → Prop}

theorem triple_stopAndReturn (hsurvive : ∀ (s : Node) (alive : Bool), I s → I (s.survive alive))
    (answer : StopAnswer) : Triple I P (stopAndReturn answer) (fun _ _ => True) := by
  have hsurvived (alive ok : Bool)
      : Triple I P (do Program.modify fun s => s.survive alive; return ok : NodeM Bool)
          (fun _ _ => True) :=
    Triple.bind (Q := fun _ _ => True) (.modify fun s hs _ => ⟨hsurvive s alive hs, trivial⟩)
      fun _ => .pure fun _ _ _ => trivial
  apply Triple.bind (Q := fun _ _ => True)
  . apply triple_logged
    cases answer with
    | stopped => exact hsurvived false true
    | failed alive => exact hsurvived alive false
  . intro _
    exact .exit

theorem triple_postgresKeeperSM_of_bind
    (hbind : ∀ (cd : ClusterData), read = some (some cd) →
      Triple I P (bindCluster cd a.saveKeeper) (fun _ => P))
    (hsurvive : ∀ (s : Node) (alive : Bool), I s → I (s.survive alive))
    (hreconcile : ∀ (cd : ClusterData) (db : DB), read = some (some cd) →
      Triple I (fun s => P s ∧ s.managedDB cd a.order = some db) (reconcile cfg cd db a)
        (fun _ _ => True))
    : Triple I P (postgresKeeperSM cfg read a) (fun _ _ => True) := by
  unfold postgresKeeperSM
  split
  . exact .exit
  . exact .exit
  . next cd =>
    apply triple_guardReturn_of_keep.bind
    intro _
    apply triple_guardReturn_of_keep.bind
    intro _
    apply (hbind cd rfl).bind
    intro _
    apply Triple.read
    intro s₀ _ hs₀
    split
    . exact .exit
    . next k hk =>
      split
      . exact triple_stopAndReturn hsurvive _
      . next db hdb =>
        split
        . exact triple_stopAndReturn hsurvive _
        . next hboot =>
          apply (hreconcile cd db rfl).weaken
          . rintro _ _ rfl
            refine ⟨hs₀, ?_⟩
            unfold Node.managedDB
            rw [hk, Option.bind_some, hdb]
            simpa using hboot
          . exact fun _ _ _ hs => hs

theorem triple_postgresKeeperSM
    (hI : ∀ (s s' : Node), s'.unbound = s.unbound → I s → I s')
    (hP : ∀ (s s' : Node), s'.unbound = s.unbound → P s → P s')
    (hsurvive : ∀ (s : Node) (alive : Bool), I s → I (s.survive alive))
    (hreconcile : ∀ (cd : ClusterData) (db : DB), read = some (some cd) →
      Triple I (fun s => P s ∧ s.managedDB cd a.order = some db) (reconcile cfg cd db a)
        (fun _ _ => True))
    : Triple I P (postgresKeeperSM cfg read a) (fun _ _ => True) :=
  triple_postgresKeeperSM_of_bind (fun cd _ => (keeps_bindCluster cd _).triple hI hP) hsurvive
    hreconcile

theorem stable_postgresKeeperSM {adopts : String → Prop} (h : Stable adopts I)
    (hadopts : ∀ (cd : ClusterData) (db : DB) (s : Node), read = some (some cd) → I s →
      s.managedDB cd a.order = some db → adopts db.uid)
    : Triple I (fun _ => True) (postgresKeeperSM cfg read a) (fun _ _ => True) := by
  apply triple_postgresKeeperSM_of_bind
  . exact fun cd _ => stable_bindCluster h _
  . exact fun s alive hs => h.records s _ rfl hs
  . intro cd db hread s hs hP
    exact stable_reconcile h (hadopts cd db s hread hs hP.2) a s hs trivial

end Tick

inductive NodeStep (cfg : Config) (allowed : Node → Option (Option ClusterData) → Answers → Prop)
    : Node → Node → Prop where
  | tick (s : Node) (read : Option (Option ClusterData)) (a : Answers) (h : allowed s read a)
    (hreturned : (postgresKeeperSM cfg read a s).result ≠ .error .panicked)
    : NodeStep cfg allowed s (postgresKeeperSM cfg read a s).final
  | crash (s : Node) (read : Option (Option ClusterData)) (a : Answers) (h : allowed s read a)
    (s' : Node) (hs' : s' ∈ s :: (postgresKeeperSM cfg read a s).visited) (bootUUID : String)
    (alive : Bool) : NodeStep cfg allowed s (s'.restart bootUUID alive)
  | died (s : Node) : NodeStep cfg allowed s (s.survive false)

/--
A run starts with a process of the keeper on any files and data. The removals are counted from here.
-/
def nodeSystem (cfg : Config) (allowed : Node → Option (Option ClusterData) → Answers → Prop)
    : TransitionSystem Node where
  init s := s.data.wiped = 0 ∧ ∃ s' bootUUID alive, s = Node.restart s' bootUUID alive
  step := NodeStep cfg allowed

section Sample

def sampleConfig : Config where
  pgListenAddress := "10.0.0.1"
  pgPort := "5432"
  pgReplAuthMethod := "md5"
  pgReplUsername := "repluser"
  pgSUAuthMethod := "md5"
  pgSUUsername := "postgres"

def sampleCluster (db : DB) (spec : ClusterSpec) : ClusterData where
  formatVersion := currentCDFormatVersion
  cluster := {
    uid := "cluster"
    generation := initialGeneration
    spec
    status := { phase := .normal, master := db.uid }
  }
  keepers := Std.ExtTreeMap.empty.insert "k1" {
    uid := "k1"
    generation := initialGeneration
    status := { healthy := true, bootUUID := "boot" }
  }
  dbs := Std.ExtTreeMap.empty.insert db.uid db
  proxy := {}

def sampleNode (dbLocalState : DBLocalState) : Node where
  keeper := {
    bootUUID := "boot"
    keeperLocalState := { uid := "k1", clusterUID := "cluster" }
    dbLocalState
  }
  savedKeeper := { uid := "k1", clusterUID := "cluster" }
  savedDB := some dbLocalState

theorem sampleNode_restart (dbLocalState : DBLocalState)
    : sampleNode dbLocalState = (sampleNode dbLocalState).restart "boot" false := rfl

def sampleAnswers : Answers where
  order := .stored
  saveKeeper := true
  stop := .stopped
  cleanStop := .stopped
  cleanRemoveAll := { isInitialized := some true, isStarted := some true, removed := some true }
  cleanSave := true
  init := {
    isInitialized := some true
    save := true
    readings := { binaryVersion := some 16, lastPGParameters := none }
    stop := .stopped
    removeAll := { isInitialized := some true, isStarted := some true, removed := some true }
    create := true
    postgresConf := ∅
    startTmpMerged := .started
    waitRecoveryDone := true
    waitReady := true
    configFilePGParameters := some ∅
    saveParameters := true
    setupRoles := true
    stopAgain := .stopped
    systemID := some "1"
    resync := {
      rewind := true
      removeAll := { isInitialized := some true, isStarted := some true, removed := some true }
      basebackup := true
    }
    start := .started
    pgState := none
    fullResync := {
      rewind := true
      removeAll := { isInitialized := some true, isStarted := some true, removed := some true }
      basebackup := true
    }
  }
  role := {
    isInitialized := some true
    readings := { binaryVersion := some 16, lastPGParameters := none }
    getRole := some .master
    isStarted := some true
    start := .started
    waitReady := true
    prePromoteHook := true
    promote := true
    restart := { stop := .stopped, start := .started }
    refreshReplicationSlots := true
  }
  converge := {
    readings := { binaryVersion := some 16, lastPGParameters := none }
    inSyncStandbys := some []
    reload := true
    restartRequired := some false
    restart := { stop := .stopped, start := .started }
    save := true
  }

def sampleAssigned (uid : String) (initMode : DBInitMode) : DB where
  uid
  generation := initialGeneration
  spec := { keeperUID := "k1", initMode, role := .master }
  status := {}

def sampleTick (a : Answers) (db : DB) (s : Node) : Outcome Node Exit Unit :=
  postgresKeeperSM sampleConfig (some (some (sampleCluster db { initMode := some .new }))) a s

end Sample

end Keeper
end Hysteron
