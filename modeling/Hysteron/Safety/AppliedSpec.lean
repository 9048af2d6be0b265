import Hysteron.Keeper.Prepare

/-!
What a saved generation tells about the instance. A tick compares the settings that it computes with
the ones that the manager takes for loaded, and has the differing ones loaded. It saves the generation
whether or not that has worked.
-/

namespace Hysteron
namespace Keeper

open Program

variable {cfg : Config} {cd : ClusterData} {db : DB}

/--
The settings are the ones computed from the spec of the database. A nil and an empty `pg_ident` are
the same file.
-/
def Settings.Matches (cfg : Config) (cd : ClusterData) (db : DB) (readings : Readings)
    (initPGParameters : Option PGParameters) (wait : Bool) (settings : Settings) : Prop :=
  settings.parameters = createPGParameters cfg readings initPGParameters db
    ∧
  (∃ hba : List String, generateHBA cfg cd db wait = .ok hba ∧ settings.hba = some hba)
    ∧
  settings.ident.elems = db.spec.pgIdent.elems

/--
The instance has loaded what the spec asks for, and no restart for it is left to do.
-/
def Applied (cfg : Config) (cd : ClusterData) (db : DB) (readings : Readings) (s : Node) : Prop :=
  s.pg.loaded.Matches cfg cd db readings s.keeper.dbLocalState.initPGParameters
      s.keeper.waitSyncStandbysSynced
    ∧
  (cd.cluster.defSpec.automaticPgRestart = true → s.pg.pendingRestart = false)

def RestartAnswer.launches (answer : RestartAnswer) : Bool :=
  match answer.stop, answer.start with
  | .stopped, .started => true
  | .stopped, .active => true
  | _, _ => false

def stillWaiting (db : DB) (wait : Bool) (names : Option (List String)) : Bool :=
  db.spec.synchronousReplication && wait &&
    !Slices.compareStringSliceNoOrder (getInSyncStandbys (names.getD []))
      db.spec.synchronousStandbys.elems

def Manager.change [DecidableEq α] (pgm : Manager) (new cur : α) (f : Settings → Settings) : Manager :=
  if new = cur then pgm else { pgm with desired := f pgm.desired }

@[simp]
theorem Manager.change_cur [DecidableEq α] (pgm : Manager) (new cur : α) (f : Settings → Settings)
    : (pgm.change new cur f).cur = pgm.cur := by
  unfold change
  split <;> rfl

def Manager.choose (pgm : Manager) (parameters : PGParameters) (hba : List String)
    (ident : Slice String) : Manager :=
  let pgm := pgm.change parameters pgm.cur.parameters fun desired => { desired with parameters }
  let pgm := pgm.change (some hba) pgm.cur.hba fun desired => { desired with hba := some hba }
  pgm.change ident pgm.cur.ident fun desired => { desired with ident }

def Settings.reloadDue (recorded : Settings) (parameters : PGParameters) (hba : List String)
    (ident : Slice String) : Bool :=
  parameters ≠ recorded.parameters || some hba ≠ recorded.hba || ident ≠ recorded.ident

def restartDue (cd : ClusterData) (a : ConvergeAnswers) : Bool :=
  a.restartRequired = some true && cd.cluster.defSpec.automaticPgRestart

def loadedAfter (cfg : Config) (cd : ClusterData) (db : DB) (a : ConvergeAnswers) (s : Node)
    (hba : List String) : Settings :=
  let pgm := s.keeper.pgm
  let parameters := createPGParameters cfg a.readings s.keeper.dbLocalState.initPGParameters db
  if (restartDue cd a && a.restart.launches)
      || (pgm.cur.reloadDue parameters hba db.spec.pgIdent && a.reload) then
    (pgm.choose parameters hba db.spec.pgIdent).desired
  else
    s.pg.loaded

/--
The exact condition on the state in which the settings are compared: the settings that are loaded in
the end are the computed ones, and a restart that is due takes place.
-/
def AppliedWhen (cfg : Config) (cd : ClusterData) (db : DB) (a : ConvergeAnswers) (s : Node) : Prop :=
  let wait := stillWaiting db s.keeper.waitSyncStandbysSynced a.inSyncStandbys
  ∃ hba : List String,
    generateHBA cfg cd db wait = .ok hba
      ∧
    (loadedAfter cfg cd db a s hba).Matches cfg cd db a.readings
      s.keeper.dbLocalState.initPGParameters wait
      ∧
    (restartDue cd a = true → a.restart.launches = true)

section Converge

structure Has (initPGParameters : Option PGParameters) (pgm : Manager) (wait : Bool)
    (loaded : Settings) (s : Node) : Prop where
  init : s.keeper.dbLocalState.initPGParameters = initPGParameters
  pgm : s.keeper.pgm = pgm
  wait : s.keeper.waitSyncStandbysSynced = wait
  loaded : s.pg.loaded = loaded

variable {init : Option PGParameters} {pgm : Manager} {wait : Bool} {loaded : Settings}

theorem has_change [DecidableEq α] (new cur : α) (f : Settings → Settings)
    : Triple (fun _ => True) (Has init pgm wait loaded)
        (if new = cur then pure false else do
          modifyDesired f
          return true)
        (fun changed s =>
          changed = decide (new ≠ cur)
            ∧
          Has init (pgm.change new cur f) wait loaded s) := by
  unfold Manager.change
  split
  . next heq => exact .pure fun s _ h => ⟨by simp [heq], h⟩
  . next hne =>
    apply Triple.bind (Q := fun _ => Has init { pgm with desired := f pgm.desired } wait loaded)
    . apply Triple.modify
      intro s _ h
      exact ⟨trivial, h.init, by simp [h.pgm], h.wait, h.loaded⟩
    . intro _
      exact .pure fun s _ h => ⟨by simp [hne], h⟩

theorem has_changeParameters (readings : Readings)
    : Triple (fun _ => True) (Has init pgm wait loaded) (changeParameters cfg readings db)
        (fun changed s =>
          let parameters := createPGParameters cfg readings init db
          changed = decide (parameters ≠ pgm.cur.parameters)
            ∧
          Has init
            (pgm.change parameters pgm.cur.parameters fun desired => { desired with parameters })
            wait loaded s) := by
  apply Triple.read
  intro s₀ _ h
  dsimp only
  rw [h.init, h.pgm]
  exact (has_change _ _ _).weaken (fun s _ hs => hs ▸ h) fun _ _ _ hs => hs

theorem has_changeHba (newHBA : List String)
    : Triple (fun _ => True) (Has init pgm wait loaded) (changeHba newHBA)
        (fun changed s =>
          changed = decide (some newHBA ≠ pgm.cur.hba)
            ∧
          Has init
            (pgm.change (some newHBA) pgm.cur.hba fun desired => { desired with hba := some newHBA })
            wait loaded s) := by
  apply Triple.read
  intro s₀ _ h
  rw [h.pgm]
  exact (has_change _ _ _).weaken (fun s _ hs => hs ▸ h) fun _ _ _ hs => hs

theorem has_changeIdent (ident : Slice String)
    : Triple (fun _ => True) (Has init pgm wait loaded) (changeIdent ident)
        (fun changed s =>
          changed = decide (ident ≠ pgm.cur.ident)
            ∧
          Has init (pgm.change ident pgm.cur.ident fun desired => { desired with ident })
            wait loaded s) := by
  apply Triple.read
  intro s₀ _ h
  rw [h.pgm]
  exact (has_change _ _ _).weaken (fun s _ hs => hs ▸ h) fun _ _ _ hs => hs

theorem has_checkSyncStandbys (names : Option (List String))
    : Triple (fun _ => True) (Has init pgm wait loaded) (checkSyncStandbys db names)
        (fun _ => Has init pgm (stillWaiting db wait names) loaded) := by
  apply Triple.read
  rintro s₀ - h
  split
  . next hwait =>
    rw [h.wait] at hwait
    split
    . exact .exit
    . next names =>
      apply triple_runIf
      . intro hsynced
        apply Triple.modify
        rintro s - rfl
        exact ⟨trivial, h.init, h.pgm, by simp [stillWaiting, hsynced], h.loaded⟩
      . rintro hsynced s - rfl
        refine ⟨h.init, h.pgm, ?_, h.loaded⟩
        simp only [stillWaiting, hwait, Option.getD_some, hsynced]
        simp only [Bool.and_eq_true] at hwait
        simp [h.wait, hwait.2]
  . next hwait =>
    apply Triple.modify
    rintro s - rfl
    rw [h.wait] at hwait
    refine ⟨trivial, h.init, h.pgm, ?_, h.loaded⟩
    simp only [stillWaiting, Bool.eq_false_iff.mpr hwait, Bool.false_and]

theorem has_reload (due ok : Bool)
    : Triple (fun _ => True) (Has init pgm wait loaded) (runIf due (logged (reload ok)))
        (fun _ s => ∃ cur : Settings,
          Has init { pgm with cur } wait (if due && ok then pgm.desired else loaded) s) := by
  apply triple_runIf
  . rintro rfl
    apply triple_logged
    apply Triple.bind (Q := fun _ => Has init pgm wait loaded)
    . apply Triple.modify
      intro s _ h
      exact ⟨trivial, h.init, h.pgm, h.wait, h.loaded⟩
    intro _
    apply Triple.bind (Q := fun _ s => ∃ cur : Settings,
      Has init { pgm with cur } wait (if ok then pgm.desired else loaded) s)
    . apply triple_runIf
      . rintro rfl
        apply Triple.bind (Q := fun _ => Has init pgm wait pgm.desired)
        . apply Triple.modify
          intro s _ h
          exact ⟨trivial, h.init, h.pgm, h.wait, by simp [h.pgm]⟩
        . intro _
          apply Triple.modify
          intro s _ h
          exact ⟨trivial, pgm.desired.snapshot, h.init, by simp [h.pgm], h.wait, h.loaded⟩
      . rintro rfl s - h
        exact ⟨pgm.cur, h⟩
    . intro _
      exact .pure fun s _ h => h
  . rintro rfl s - h
    exact ⟨pgm.cur, h⟩

theorem has_restart (required : Bool) (answer : RestartAnswer)
    : Triple (fun _ => True) (fun s => Has init pgm wait loaded s ∧ s.pg.pendingRestart = required)
        (logged (restart answer))
        (fun _ s =>
          (∃ cur : Settings,
            Has init { pgm with cur } wait (if answer.launches then pgm.desired else loaded) s)
            ∧
          s.pg.pendingRestart = (required && !answer.launches)) := by
  intro s _ h
  obtain ⟨h, hrequired⟩ := h
  refine ⟨fun _ _ => trivial, trivial, ?_⟩
  rintro _ -
  -- Every answer leads to a state that can be read off.
  obtain ⟨stop, start⟩ := answer
  have hundone : s.pg.pendingRestart = (required && true) := hrequired.trans (Bool.and_true _).symm
  have hdone : false = (required && false) := (Bool.and_false _).symm
  cases stop with
  | failed alive => exact ⟨⟨pgm.cur, h.init, h.pgm, h.wait, h.loaded⟩, hundone⟩
  | stopped =>
    cases start with
    | started =>
      have hloaded : s.keeper.pgm.desired = pgm.desired := by rw [h.pgm]
      have hpgm : { s.keeper.pgm with cur := s.keeper.pgm.desired.snapshot }
          = { pgm with cur := pgm.desired.snapshot } := by rw [h.pgm]
      exact ⟨⟨pgm.desired.snapshot, h.init, hpgm, h.wait, hloaded⟩, hdone⟩
    | active =>
      have hloaded : s.keeper.pgm.desired = pgm.desired := by rw [h.pgm]
      exact ⟨⟨pgm.cur, h.init, h.pgm, h.wait, hloaded⟩, hdone⟩
    | failed => exact ⟨⟨pgm.cur, h.init, h.pgm, h.wait, h.loaded⟩, hundone⟩

theorem has_restartIfRequired (a : ConvergeAnswers)
    : Triple (fun _ => True) (Has init pgm wait loaded)
        (restartIfRequired cd.cluster.defSpec.automaticPgRestart a)
        (fun _ s =>
          (∃ cur : Settings, Has init { pgm with cur } wait
            (if restartDue cd a && a.restart.launches then pgm.desired else loaded) s)
            ∧
          (cd.cluster.defSpec.automaticPgRestart = true →
            s.pg.pendingRestart = (restartDue cd a && !a.restart.launches))) := by
  apply Triple.bind (Q := fun _ s =>
    Has init pgm wait loaded s ∧ s.pg.pendingRestart = decide (a.restartRequired = some true))
  . apply Triple.modify
    intro s _ h
    exact ⟨trivial, ⟨h.init, h.pgm, h.wait, h.loaded⟩, rfl⟩
  . intro _
    apply triple_runIf
    . intro hdue
      have hdue : restartDue cd a = true := hdue
      apply (has_restart _ _).weaken
      . exact fun _ _ h => h
      . rintro _ s - ⟨hhas, hpending⟩
        simp only [restartDue, Bool.and_eq_true] at hdue
        simp only [restartDue, hdue, Bool.and_self, Bool.true_and] at hpending ⊢
        exact ⟨hhas, fun _ => hpending⟩
    . rintro hdue s - ⟨h, hpending⟩
      have hdue : restartDue cd a = false := hdue
      rw [hdue]
      refine ⟨⟨pgm.cur, h⟩, ?_⟩
      intro hauto
      simpa [restartDue, hauto, hpending] using hdue

theorem has_saveGeneration {P : Node → Prop} (ok : Bool)
    (hP : ∀ (s : Node) (generation : Int), P s →
      P (s.setDBLocalState { s.keeper.dbLocalState with generation, initializing := false }))
    : Triple (fun _ => True) P (saveGeneration db ok)
        (fun _ s => P s ∧ s.savedDB.map DBLocalState.generation = some db.generation) := by
  apply Triple.read
  intro s₀ _ h
  apply triple_orReturn
  apply triple_saveDBLocalState
  . rintro s - rfl
    exact ⟨trivial, fun _ => ⟨hP _ _ h, rfl⟩⟩
  . rintro s - - hok
    cases hok

structure Converged (cfg : Config) (cd : ClusterData) (db : DB) (a : ConvergeAnswers) (s₁ : Node)
    (hba : List String) (s : Node) : Prop where
  init : s.keeper.dbLocalState.initPGParameters = s₁.keeper.dbLocalState.initPGParameters
  wait : s.keeper.waitSyncStandbysSynced
    = stillWaiting db s₁.keeper.waitSyncStandbysSynced a.inSyncStandbys
  generated : generateHBA cfg cd db s.keeper.waitSyncStandbysSynced = .ok hba
  loaded : s.pg.loaded = loadedAfter cfg cd db a s₁ hba
  pendingRestart : cd.cluster.defSpec.automaticPgRestart = true →
    s.pg.pendingRestart = (restartDue cd a && !a.restart.launches)

theorem converge_converged (a : ConvergeAnswers) (s₁ : Node)
    : Triple (fun _ => True) (fun s => s = s₁) (converge cfg cd db a)
        (fun _ s =>
          (∃ hba : List String, Converged cfg cd db a s₁ hba s)
            ∧
          s.savedDB.map DBLocalState.generation = some db.generation) := by
  apply Triple.weaken (P := Has s₁.keeper.dbLocalState.initPGParameters s₁.keeper.pgm
    s₁.keeper.waitSyncStandbysSynced s₁.pg.loaded) _
    (by rintro s - rfl; exact ⟨rfl, rfl, rfl, rfl⟩) (fun _ _ _ h => h)
  apply (has_changeParameters _).bind
  intro _
  apply Triple.assume
  rintro rfl
  apply (has_checkSyncStandbys _).bind
  intro _
  apply Triple.read
  intro s₀ _ h₀
  rw [h₀.wait]
  apply triple_liftExcept_ok.bind
  intro hba
  apply Triple.assume
  intro hhba
  apply ((has_changeHba hba).weaken (fun s _ hs => hs ▸ h₀) fun _ _ _ h => h).bind
  intro _
  apply Triple.assume
  rintro rfl
  apply (has_changeIdent _).bind
  intro _
  apply Triple.assume
  rintro rfl
  apply (has_reload _ _).bind
  intro _
  apply Triple.exists_pre
  intro cur
  apply (has_restartIfRequired a).bind
  intro _
  apply (has_saveGeneration
    (P := fun s => ∃ hba : List String, Converged cfg cd db a s₁ hba s) _ _).weaken
  . rintro s - ⟨⟨cur', h⟩, hpending⟩
    refine ⟨hba, h.init, h.wait, ?_, ?_, hpending⟩
    . rw [h.wait]
      exact hhba
    . rw [h.loaded]
      simp only [Manager.change_cur, loadedAfter, Settings.reloadDue, Manager.choose]
      cases restartDue cd a && a.restart.launches with
      | true => rfl
      | false => rfl
  . exact fun _ _ _ h => h
  . rintro s generation ⟨hba, h⟩
    exact ⟨hba, h.init, h.wait, h.generated, h.loaded, h.pendingRestart⟩

theorem converge_applied_iff {a : ConvergeAnswers} {s : Node}
    (h : (converge cfg cd db a s).result = .ok ())
    : (converge cfg cd db a s).final.savedDB.map DBLocalState.generation = some db.generation
        ∧
      (Applied cfg cd db a.readings (converge cfg cd db a s).final ↔ AppliedWhen cfg cd db a s) := by
  obtain ⟨⟨hba, hconverged⟩, hsaved⟩ :=
    (converge_converged a s s trivial rfl).2.2 () h
  refine ⟨hsaved, ?_⟩
  have hhba := hconverged.generated
  unfold Applied AppliedWhen
  rw [hconverged.init, hconverged.wait, hconverged.loaded]
  rw [hconverged.wait] at hhba
  constructor
  . rintro ⟨hmatches, hpending⟩
    refine ⟨hba, hhba, hmatches, ?_⟩
    intro hdue
    have hauto : cd.cluster.defSpec.automaticPgRestart = true := by
      simp only [restartDue, Bool.and_eq_true] at hdue
      exact hdue.2
    have hundone := hconverged.pendingRestart hauto
    rw [hpending hauto, hdue] at hundone
    simpa using hundone
  . rintro ⟨hba', hhba', hmatches, hlaunches⟩
    cases hhba.symm.trans hhba'
    refine ⟨hmatches, ?_⟩
    intro hauto
    rw [hconverged.pendingRestart hauto]
    cases hdue : restartDue cd a with
    | true => simp [hlaunches hdue]
    | false => rfl

end Converge

section Tick

/--
An instance that loads settings in the end loads the computed ones. The tick sets again those that
differ from the recorded ones, so that the others are to be as they were set before. An instance that
loads nothing has the computed settings already.
-/
def LoadsComputed (cfg : Config) (cd : ClusterData) (db : DB) (a : Answers) (s : Node)
    (hbaSet hba : List String) : Prop :=
  let init := initParameters db a s
  let parameters := createPGParameters cfg a.converge.readings init db
  let recorded := recordedBefore cfg cd db a s hbaSet
  if restartDue cd a.converge
      || (recorded.reloadDue parameters hba db.spec.pgIdent && a.converge.reload) then
    (recorded.parameters = parameters → createPGParameters cfg a.role.readings init db = parameters)
      ∧
    (recorded.hba = some hba → hbaSet = hba)
  else
    (loadedBefore cfg cd db a s hbaSet).Matches cfg cd db a.converge.readings init
      (stillWaiting db (waits cfg cd db a s) a.converge.inSyncStandbys)

def Faithful (cfg : Config) (cd : ClusterData) (db : DB) (a : Answers) (s : Node) : Prop :=
  (restartDue cd a.converge = true → a.converge.restart.launches = true)
    ∧
  ∃ hbaSet hba : List String,
    generateHBA cfg cd db (hbaWaits cfg cd db a s) = .ok hbaSet
      ∧
    generateHBA cfg cd db (stillWaiting db (waits cfg cd db a s) a.converge.inSyncStandbys) = .ok hba
      ∧
    LoadsComputed cfg cd db a s hbaSet hba

theorem Settings.reloadDue_congr {settings settings' : Settings}
    (h : settings.compared = settings'.compared) (parameters : PGParameters) (hba : List String)
    (ident : Slice String)
    : settings.reloadDue parameters hba ident = settings'.reloadDue parameters hba ident := by
  simp only [compared, Prod.mk.injEq] at h
  obtain ⟨hparameters, hhba, hident⟩ := h
  simp only [reloadDue, hparameters, hhba, hident]

theorem Settings.matches_congr {settings settings' : Settings}
    (h : settings.compared = settings'.compared) {readings : Readings}
    {init : Option PGParameters} {wait : Bool}
    : settings.Matches cfg cd db readings init wait
        ↔
      settings'.Matches cfg cd db readings init wait := by
  simp only [compared, Prod.mk.injEq] at h
  obtain ⟨hparameters, hhba, hident⟩ := h
  simp only [Matches, hparameters, hhba, hident]

theorem Manager.choose_compared (pgm : Manager) (parameters : PGParameters) (hba : List String)
    (ident : Slice String)
    : (pgm.choose parameters hba ident).desired.compared
        =
      (if parameters = pgm.cur.parameters then pgm.desired.parameters else parameters,
        if some hba = pgm.cur.hba then pgm.desired.hba else some hba,
        if ident = pgm.cur.ident then pgm.desired.ident else ident) := by
  unfold choose change Settings.compared
  grind

theorem Manager.choose_matches_iff {pgm : Manager} {readings : Readings}
    {init : Option PGParameters} {wait : Bool} {hba : List String}
    (hhba : generateHBA cfg cd db wait = .ok hba) (hident : pgm.desired.ident = db.spec.pgIdent)
    : (pgm.choose (createPGParameters cfg readings init db) hba
        db.spec.pgIdent).desired.Matches cfg cd db readings init wait
        ↔
      (pgm.cur.parameters = createPGParameters cfg readings init db →
        pgm.desired.parameters = createPGParameters cfg readings init db)
        ∧
      (pgm.cur.hba = some hba → pgm.desired.hba = some hba) := by
  have hchosen := pgm.choose_compared (createPGParameters cfg readings init db) hba db.spec.pgIdent
  simp only [Settings.compared, Prod.mk.injEq, hident, ite_self] at hchosen
  obtain ⟨hparameters, hset, hident⟩ := hchosen
  simp only [Settings.Matches, hparameters, hset, hident, hhba]
  grind

theorem Prepared.loadedAfter_matches_iff {a : Answers} {s₀ s : Node} {hbaSet hba : List String}
    (h : Prepared cfg cd db a s₀ hbaSet s)
    (hhba : generateHBA cfg cd db
      (stillWaiting db (waits cfg cd db a s₀) a.converge.inSyncStandbys) = .ok hba)
    (hrestart : restartDue cd a.converge = true → a.converge.restart.launches = true)
    : (loadedAfter cfg cd db a.converge s hba).Matches cfg cd db a.converge.readings
        (initParameters db a s₀) (stillWaiting db (waits cfg cd db a s₀) a.converge.inSyncStandbys)
        ↔
      LoadsComputed cfg cd db a s₀ hbaSet hba := by
  have hdesired := h.desired
  have hrecorded := h.recorded
  simp only [Settings.compared, Prod.mk.injEq] at hdesired hrecorded
  obtain ⟨hparameters, hset, hident⟩ := hdesired
  have hlaunches : (restartDue cd a.converge && a.converge.restart.launches)
      = restartDue cd a.converge := by
    cases hdue : restartDue cd a.converge with
    | true => exact hrestart hdue
    | false => rfl
  unfold loadedAfter LoadsComputed
  dsimp only
  rw [hlaunches, h.init, Settings.reloadDue_congr h.recorded]
  split
  . rw [Manager.choose_matches_iff hhba hident, hparameters, hset, hrecorded.1, hrecorded.2.1,
      Option.some_inj]
  . exact Settings.matches_congr h.loaded

theorem Prepared.appliedWhen_iff {a : Answers} {s₀ s : Node} {hbaSet : List String}
    (h : Prepared cfg cd db a s₀ hbaSet s)
    : AppliedWhen cfg cd db a.converge s ↔ Faithful cfg cd db a s₀ := by
  unfold AppliedWhen Faithful
  dsimp only
  rw [h.wait, h.init]
  constructor
  . rintro ⟨hba, hhba, hmatches, hrestart⟩
    exact ⟨hrestart, hbaSet, hba, h.generated, hhba,
      (h.loadedAfter_matches_iff hhba hrestart).mp hmatches⟩
  . rintro ⟨hrestart, hbaSet', hba, hgenerated, hhba, hloads⟩
    cases h.generated.symm.trans hgenerated
    exact ⟨hba, hhba, (h.loadedAfter_matches_iff hhba hrestart).mpr hloads, hrestart⟩

theorem faithful_of_unbound {a : Answers} {s s' : Node} (heq : s'.unbound = s.unbound)
    : Faithful cfg cd db a s' ↔ Faithful cfg cd db a s := by
  change Faithful cfg cd db a s'.unbound ↔ Faithful cfg cd db a s.unbound
  rw [heq]

end Tick

/--
A tick on an assigned database that saves the generation of the database. The spec is applied then
exactly if the inputs of the tick are faithful.
-/
theorem saved_generation_applied_iff (cfg : Config) (cd : ClusterData) (db : DB) (a : Answers)
    (s : Node) (hdb : s.assignedDB cd a.order = some db)
    (hsaves : (postgresKeeperSM cfg (some (some cd)) a s).result = .ok ())
    : (postgresKeeperSM cfg (some (some cd)) a s).final.savedDB.map DBLocalState.generation
          = some db.generation
        ∧
      (Applied cfg cd db a.converge.readings (postgresKeeperSM cfg (some (some cd)) a s).final
        ↔
      Faithful cfg cd db a s) := by
  obtain ⟨s₀, hunbound, hprepare, hconverge, hfinal⟩ := postgresKeeperSM_ok hdb hsaves
  obtain ⟨hsaved, happlied⟩ := converge_applied_iff hconverge
  obtain ⟨hba, hprepared⟩ := (prepared_prepare a s₀ s₀ trivial rfl).2.2 () hprepare
  rw [hfinal]
  refine ⟨hsaved, ?_⟩
  rw [happlied, hprepared.appliedWhen_iff, faithful_of_unbound hunbound]

def sampleChanged : DB :=
  let db := sampleAssigned "u" .new
  { db with
    generation := 2
    spec := { db.spec with pgParameters := some ((∅ : PGParameters).insert "work_mem" "8MB") }
  }

def sampleMasterUp : Node :=
  (sampleTick sampleAnswers (sampleAssigned "u" .new) (sampleNode { uid := "u", generation := 1 })).final

theorem saved_generation_applied_iff_sample
    : Applied sampleConfig (sampleCluster sampleChanged { initMode := some .new }) sampleChanged
        sampleAnswers.converge.readings
        (sampleTick sampleAnswers sampleChanged sampleMasterUp).final := by
  apply (saved_generation_applied_iff sampleConfig _ sampleChanged sampleAnswers sampleMasterUp
    (by decide +kernel) (by decide +kernel)).2.mpr
  refine ⟨by decide +kernel, _, _, rfl, rfl, ?_⟩
  rw [LoadsComputed, if_pos (by decide +kernel)]
  exact ⟨fun _ => rfl, fun _ => rfl⟩

/--
The reload fails, and the generation is saved although the instance does not know the parameter.
-/
theorem saved_generation_not_applied
    : ∃ a : Answers,
        sampleMasterUp.assignedDB (sampleCluster sampleChanged { initMode := some .new }) a.order
            = some sampleChanged
          ∧
        (sampleTick a sampleChanged sampleMasterUp).result = .ok ()
          ∧
        (sampleTick a sampleChanged sampleMasterUp).final.savedDB.map DBLocalState.generation
            = some sampleChanged.generation
          ∧
        ¬Applied sampleConfig (sampleCluster sampleChanged { initMode := some .new }) sampleChanged
          a.converge.readings (sampleTick a sampleChanged sampleMasterUp).final := by
  refine ⟨{ sampleAnswers with converge := { sampleAnswers.converge with reload := false } },
    by decide +kernel, by decide +kernel, by decide +kernel, ?_⟩
  rintro ⟨⟨hparameters, -⟩, -⟩
  revert hparameters
  decide +kernel

end Keeper
end Hysteron
