import Hysteron.Safety.AppliedSpec

/-!
The fence of a synchronous master. Once the keeper has started the instance, only the internal rules
of `pg_hba` are in force until the standbys have been seen in sync. The automatic restart for
parameters that wait for it does not put up the fence.
-/

namespace Hysteron
namespace Keeper

open Program

variable {cfg : Config} {cd : ClusterData} {db : DB}

def Fence (cfg : Config) (s : Node) : Prop :=
  s.pg.running = true
    →
  s.pg.unsynced = true
    →
  s.keeper.waitSyncStandbysSynced = true
    ∧
  ∀ rule ∈ s.pg.loaded.hba.elems, InternalRule cfg rule

def Closed (cfg : Config) (wait : Bool) (s : Node) : Prop :=
  s.keeper.waitSyncStandbysSynced = wait
    ∧
  (wait = true → ∀ rule ∈ s.keeper.pgm.desired.hba.elems, InternalRule cfg rule)

def Node.fenced (s : Node) : Instance × Bool × Slice String :=
  (s.pg, s.keeper.waitSyncStandbysSynced, s.keeper.pgm.desired.hba)

theorem Fence.congr {s s' : Node} (heq : s'.fenced = s.fenced) (h : Fence cfg s) : Fence cfg s' := by
  simp only [Node.fenced, Prod.mk.injEq] at heq
  obtain ⟨hpg, hwait, -⟩ := heq
  unfold Fence
  rw [hpg, hwait]
  exact h

theorem Fence.survive {s : Node} (h : Fence cfg s) (alive : Bool) : Fence cfg (s.survive alive) := by
  intro hrunning
  simp only [Node.survive, Bool.and_eq_true] at hrunning
  exact h hrunning.1

theorem fence_of_stopped {s : Node} (hstopped : s.pg.running = false) : Fence cfg s := by
  intro hrunning
  rw [hstopped] at hrunning
  cases hrunning

def Steady (cfg : Config) (wait running : Bool) (s : Node) : Prop :=
  Closed cfg wait s ∧ s.pg.running = running

section Tick

variable {wait running : Bool}

theorem closed_keeps {α : Type} {m : NodeM α} (h : m.Keeps Node.fenced)
    : Triple (Fence cfg) (Closed cfg wait) m (fun _ => Closed cfg wait) := by
  apply h.triple (fun _ _ heq hs => hs.congr heq)
  intro s s' heq hs
  simp only [Node.fenced, Prod.mk.injEq] at heq
  obtain ⟨-, hwait, hhba⟩ := heq
  unfold Closed
  rw [hwait, hhba]
  exact hs

theorem steady_keeps {α : Type} {m : NodeM α} (h : m.Keeps Node.fenced)
    : Triple (Fence cfg) (Steady cfg wait running) m (fun _ => Steady cfg wait running) := by
  apply h.triple (fun _ _ heq hs => hs.congr heq)
  intro s s' heq hs
  simp only [Node.fenced, Prod.mk.injEq] at heq
  obtain ⟨hpg, hwait, hhba⟩ := heq
  unfold Steady Closed
  rw [hpg, hwait, hhba]
  exact hs

theorem fenced_setParameters (parameters : PGParameters)
    : (setParameters parameters).Keeps Node.fenced :=
  .modify fun _ => rfl

theorem fenced_setRecoveryOptions (recoveryOptions : RecoveryOptions)
    : (setRecoveryOptions recoveryOptions).Keeps Node.fenced :=
  .modify fun _ => rfl

theorem fenced_updateParameters (readings : Readings)
    : (updateParameters cfg readings db).Keeps Node.fenced :=
  Keeps.get.bind fun _ => fenced_setParameters _

theorem fenced_changeParameters (readings : Readings)
    : (changeParameters cfg readings db).Keeps Node.fenced := by
  apply Keeps.get.bind
  intro s
  dsimp only
  split
  . exact .pure
  . exact (fenced_setParameters _).bind fun _ => .pure

theorem fenced_changeIdent (ident : Slice String) : (changeIdent ident).Keeps Node.fenced := by
  apply Keeps.get.bind
  intro s
  split
  . exact .pure
  . exact Keeps.bind (.modify fun _ => rfl) fun _ => .pure

theorem fence_writeConf : Triple (Fence cfg) (Closed cfg wait) writeConf (fun _ => Closed cfg wait) :=
  .modify fun _ hfence hs => ⟨hfence, hs⟩

theorem fence_start (answer : StartAnswer)
    : Triple (Fence cfg) (Closed cfg true) (start answer) (fun _ => Closed cfg true) := by
  apply fence_writeConf.bind
  intro _
  apply Triple.read
  intro s₀ _ hs₀
  have hlaunch : Triple (Fence cfg) (fun s => s = s₀) (launch s₀.keeper.pgm.desired)
      (fun _ => Closed cfg true) := by
    apply Triple.modify
    rintro s - rfl
    exact ⟨fun _ _ => ⟨hs₀.1, hs₀.2 rfl⟩, hs₀⟩
  cases answer with
  | started =>
    apply hlaunch.bind
    intro _
    apply Triple.bind (Q := fun _ => Closed cfg true)
    . exact .modify fun s hfence hs => ⟨Fence.congr (s := s) rfl hfence, hs⟩
    . intro _
      exact .pure fun _ _ hs => hs
  | active =>
    apply hlaunch.bind
    intro _
    exact .pure fun _ _ hs => hs
  | failed =>
    apply Triple.pure
    rintro s - rfl
    exact hs₀

theorem fence_isStarted (answer : Option Bool)
    : Triple (Fence cfg) (Steady cfg wait running) (isStarted answer)
        (fun started s =>
          (∀ (b : Bool), started = some b → b = (running && answer.getD false))
            ∧
          ∀ (b : Bool), started = some b → Steady cfg wait b s) := by
  cases answer with
  | none => exact .pure fun s _ _ => ⟨by simp, by simp⟩
  | some alive =>
    apply Triple.bind (Q := fun _ => Steady cfg wait (running && alive))
    . apply Triple.modify
      intro s hfence hs
      exact ⟨hfence.survive alive, hs.1, by simp [Node.survive, hs.2]⟩
    . intro _
      apply Triple.read
      intro s₀ _ hs₀
      apply Triple.pure
      rintro s - rfl
      constructor
      . rintro b ⟨rfl⟩
        exact hs₀.2
      . rintro b ⟨rfl⟩
        exact ⟨hs₀.1, rfl⟩

theorem closed_setHba {hba : List String} (h : generateHBA cfg cd db wait = .ok hba)
    : Triple (Fence cfg) (fun s => s.keeper.waitSyncStandbysSynced = wait) (setHba hba)
        (fun _ => Closed cfg wait) := by
  apply Triple.modify
  intro s hfence hs
  refine ⟨hfence, hs, ?_⟩
  rintro rfl
  exact internalRule_of_mem_generateHBA h

section Role

variable (hsync : db.spec.synchronousReplication = true)

include hsync

theorem fence_startMaster (a : RoleAnswers)
    : Triple (Fence cfg) (fun s => s.pg.running = false) (startMaster cfg cd db a)
        (fun _ => Closed cfg true) := by
  apply Triple.bind (Q := fun _ => Closed cfg true)
  . apply triple_runIf
    . intro _
      apply Triple.bind (Q := fun _ s => s.keeper.waitSyncStandbysSynced = true)
      . exact .modify fun s _ hs => ⟨fence_of_stopped hs, rfl⟩
      . intro _
        apply triple_liftExcept_ok.bind
        intro hba
        exact Triple.assume fun hhba => closed_setHba hhba
    . intro hasync
      rw [hsync] at hasync
      cases hasync
  . intro _
    apply (triple_orReturn_of_keep (fence_start _)).bind
    intro _
    exact triple_guardReturn_of_keep

def waitsAfterRole (wait running : Bool) (a : RoleAnswers) : Bool :=
  wait || !(running && a.isStarted.getD false)

theorem fence_applyMaster (localRole : Role) (a : RoleAnswers)
    : Triple (Fence cfg) (Steady cfg wait running) (applyMaster cfg cd db localRole a)
        (fun _ => Closed cfg (waitsAfterRole wait running a)) := by
  apply triple_guardReturn_of_keep.bind
  intro _
  apply (steady_keeps (fenced_setRecoveryOptions _)).bind
  intro _
  apply (fence_isStarted _).bind
  intro started
  apply Triple.assume
  intro hstarted
  cases started with
  | none => exact .exit
  | some started =>
    have hwaits : waitsAfterRole wait running a = (wait || !started) := by
      rw [waitsAfterRole, ← hstarted started rfl]
    apply Triple.bind (Q := fun _ => Closed cfg (waitsAfterRole wait running a))
    . rw [hwaits]
      cases started with
      | true =>
        apply triple_runIf
        . rintro ⟨⟩
        . rintro - s - hs
          rw [Bool.not_true, Bool.or_false]
          exact (hs true rfl).1
      | false =>
        rw [Bool.not_false, Bool.or_true]
        exact (fence_startMaster hsync a).weaken (fun s _ hs => (hs false rfl).2) fun _ _ _ hs => hs
    . intro _
      apply Triple.bind (Q := fun _ => Closed cfg (waitsAfterRole wait running a))
      . apply triple_runIf
        . intro _
          exact triple_guardReturn_of_keep.bind fun _ => triple_guardReturn_of_keep
        . exact fun _ _ _ hs => hs
      . intro _
        exact triple_guardReturn_of_keep

theorem fence_applyRole (hrole : db.spec.role = .master) (a : RoleAnswers)
    : Triple (Fence cfg) (Steady cfg wait running) (applyRole cfg cd db a)
        (fun _ => Closed cfg (waitsAfterRole wait running a)) := by
  apply triple_guardReturn_of_keep.bind
  intro _
  apply (steady_keeps (fenced_updateParameters _)).bind
  intro _
  apply triple_guardReturn_of_keep.bind
  intro _
  rw [hrole]
  exact fence_applyMaster hsync _ a

def InPlace (db : DB) (l : DBLocalState) : Prop := l.uid = db.uid ∧ l.initializing = false

theorem fence_prepare (hrole : db.spec.role = .master) (a : Answers)
    : Triple (Fence cfg)
        (fun s => InPlace db s.keeper.dbLocalState ∧ s.keeper.waitSyncStandbysSynced = wait
          ∧ s.pg.running = running)
        (prepare cfg cd db a) (fun _ => Closed cfg (waitsAfterRole wait running a.role)) := by
  apply Triple.read
  rintro s₀ - ⟨hplace, rfl, rfl⟩
  apply triple_liftExcept_ok.bind
  intro hba
  apply Triple.assume
  intro hhba
  -- Nothing is cleaned up or initialized.
  apply Triple.bind (Q := fun _ s => InPlace db s.keeper.dbLocalState
    ∧ Steady cfg s₀.keeper.waitSyncStandbysSynced s₀.pg.running s)
  . apply Triple.modify
    rintro s hfence rfl
    refine ⟨hfence, hplace, ⟨rfl, ?_⟩, rfl⟩
    intro hwait
    rw [hwait] at hhba
    exact internalRule_of_mem_generateHBA hhba
  . intro _
    apply Triple.bind (Q := fun _ s => InPlace db s.keeper.dbLocalState
      ∧ Steady cfg s₀.keeper.waitSyncStandbysSynced s₀.pg.running s)
    . exact .modify fun s hfence hs => ⟨hfence, hs⟩
    . intro _
      apply Triple.bind (Q := fun _ s => InPlace db s.keeper.dbLocalState
        ∧ Steady cfg s₀.keeper.waitSyncStandbysSynced s₀.pg.running s)
      . apply Triple.read
        intro s₁ _ hs₁
        rw [hs₁.1.2]
        apply Triple.pure
        rintro s - rfl
        exact hs₁
      . intro _
        apply Triple.read
        intro s₁ _ hs₁
        rw [hs₁.1.1]
        apply Triple.bind (Q := fun _ => Steady cfg s₀.keeper.waitSyncStandbysSynced s₀.pg.running)
        . apply triple_runIf
          . intro hdiffers
            simp at hdiffers
          . rintro - s - rfl
            exact hs₁.2
        . intro _
          exact fence_applyRole hsync hrole _

end Role

theorem fence_checkSyncStandbys (hsync : db.spec.synchronousReplication = true)
    (names : Option (List String))
    : Triple (Fence cfg) (Closed cfg wait) (checkSyncStandbys db names)
        (fun _ => Closed cfg (stillWaiting db wait names)) := by
  apply Triple.read
  intro s₀ hfence hs₀
  rw [hsync, hs₀.1, Bool.true_and]
  split
  . next hwait =>
    split
    . exact .exit
    . next names =>
      apply triple_runIf
      . intro hsynced
        apply Triple.modify
        rintro s - rfl
        refine ⟨?_, ?_, ?_⟩
        . intro _ hunsynced
          cases hunsynced
        . simp [stillWaiting, hsynced]
        . intro hstill
          simp [stillWaiting, hsynced] at hstill
      . rintro hsynced s - rfl
        have hstill : stillWaiting db wait (some names) = wait := by
          simp [stillWaiting, hsynced, hsync]
        rw [hstill]
        exact hs₀
  . next hwait =>
    have hwait : wait = false := by simpa using hwait
    subst hwait
    have hstill : stillWaiting db false names = false := by simp [stillWaiting]
    rw [hstill]
    apply Triple.modify
    rintro s - rfl
    refine ⟨?_, rfl, ?_⟩
    . intro hrunning hunsynced
      have hwaits := (hfence hrunning hunsynced).1
      rw [hs₀.1] at hwaits
      cases hwaits
    . rintro ⟨⟩

theorem fence_changeHba {newHBA : List String} (h : generateHBA cfg cd db wait = .ok newHBA)
    : Triple (Fence cfg) (Closed cfg wait) (changeHba newHBA) (fun _ => Closed cfg wait) := by
  apply Triple.read
  intro s₀ _ hs₀
  split
  . apply Triple.pure
    rintro s - rfl
    exact hs₀
  . apply Triple.bind (Q := fun _ => Closed cfg wait)
    . apply (closed_setHba h).weaken
      . rintro s - rfl
        exact hs₀.1
      . exact fun _ _ _ hs => hs
    . intro _
      exact .pure fun _ _ hs => hs

theorem fence_reload (due ok : Bool)
    : Triple (Fence cfg) (Closed cfg wait) (runIf due (logged (reload ok)))
        (fun _ => Closed cfg wait) := by
  apply triple_runIf
  . intro _
    apply triple_logged
    apply fence_writeConf.bind
    intro _
    apply Triple.bind (Q := fun _ => Closed cfg wait)
    . apply triple_runIf
      . intro _
        apply Triple.bind (Q := fun _ => Closed cfg wait)
        . apply Triple.modify
          intro s hfence hs
          refine ⟨?_, hs⟩
          intro hrunning hunsynced
          have hwaits := (hfence hrunning hunsynced).1
          exact ⟨hwaits, hs.2 (hs.1.symm.trans hwaits)⟩
        . intro _
          exact .modify fun s hfence hs => ⟨Fence.congr (s := s) rfl hfence, hs⟩
      . exact fun _ _ _ hs => hs
    . intro _
      exact .pure fun _ _ hs => hs
  . exact fun _ _ _ hs => hs

theorem fence_stopIfStarted (answer : StopAnswer)
    : Triple (Fence cfg) (Closed cfg wait) (stopIfStarted answer) (fun _ => Closed cfg wait) := by
  cases answer with
  | stopped =>
    apply Triple.bind (Q := fun _ => Closed cfg wait)
    . exact .modify fun s hfence hs => ⟨hfence.survive false, hs⟩
    . intro _
      exact .pure fun _ _ hs => hs
  | failed alive =>
    apply Triple.bind (Q := fun _ => Closed cfg wait)
    . exact .modify fun s hfence hs => ⟨hfence.survive alive, hs⟩
    . intro _
      exact .pure fun _ _ hs => hs

theorem fence_restart {answer : RestartAnswer} (h : answer.launches = true → wait = true)
    : Triple (Fence cfg) (Closed cfg wait) (restart answer) (fun _ => Closed cfg wait) := by
  obtain ⟨stop, start⟩ := answer
  cases stop with
  | failed alive =>
    apply Triple.bind (Q := fun ok s => ok = false ∧ Closed cfg wait s)
    . apply Triple.bind (Q := fun _ => Closed cfg wait)
      . exact .modify fun s hfence hs => ⟨hfence.survive alive, hs⟩
      . intro _
        exact .pure fun _ _ hs => ⟨rfl, hs⟩
    . intro ok
      apply Triple.assume
      rintro rfl
      exact .pure fun _ _ hs => hs
  | stopped =>
    apply (fence_stopIfStarted _).bind
    intro ok
    cases ok with
    | false => exact .pure fun _ _ hs => hs
    | true =>
      cases start with
      | started =>
        obtain rfl := h rfl
        exact fence_start _
      | active =>
        obtain rfl := h rfl
        exact fence_start _
      | failed =>
        apply fence_writeConf.bind
        intro _
        apply Triple.read
        intro s₀ _ hs₀
        apply Triple.pure
        rintro s - rfl
        exact hs₀

theorem fence_restartIfRequired {a : ConvergeAnswers}
    (h : restartDue cd a = true → a.restart.launches = true → wait = true)
    : Triple (Fence cfg) (Closed cfg wait)
        (restartIfRequired cd.cluster.defSpec.automaticPgRestart a) (fun _ => Closed cfg wait) := by
  apply Triple.bind (Q := fun _ => Closed cfg wait)
  . exact .modify fun s hfence hs => ⟨hfence, hs⟩
  . intro _
    apply triple_runIf
    . exact fun hdue => triple_logged (fence_restart (h hdue))
    . exact fun _ _ _ hs => hs

theorem fence_converge (hsync : db.spec.synchronousReplication = true) {a : ConvergeAnswers}
    (h : restartDue cd a = true → a.restart.launches = true →
      stillWaiting db wait a.inSyncStandbys = true)
    : Triple (Fence cfg) (Closed cfg wait) (converge cfg cd db a) (fun _ _ => True) := by
  apply (closed_keeps (fenced_changeParameters _)).bind
  intro _
  apply (fence_checkSyncStandbys hsync _).bind
  intro _
  apply Triple.read
  intro s₀ _ hs₀
  rw [hs₀.1]
  apply triple_liftExcept_ok.bind
  intro newHBA
  apply Triple.assume
  intro hhba
  apply Triple.bind
  . apply (fence_changeHba hhba).weaken
    . rintro s - rfl
      exact hs₀
    . exact fun _ _ _ hs => hs
  intro _
  apply (closed_keeps (fenced_changeIdent _)).bind
  intro _
  apply (fence_reload _ _).bind
  intro _
  apply (fence_restartIfRequired h).bind
  intro _
  apply Triple.read
  intro s₁ _ _
  apply triple_orReturn
  apply triple_saveDBLocalState
  . exact fun s hfence _ => ⟨hfence, fun _ => trivial⟩
  . exact fun _ _ _ _ => trivial

end Tick

section Run

def OnlyInternal (cfg : Config) (s : Node) : Prop :=
  s.pg.running = true
    →
  s.pg.unsynced = true
    →
  ∀ rule ∈ s.pg.loaded.hba.elems, InternalRule cfg rule

def SyncMaster (s : Node) (read : Option (Option ClusterData)) (a : Answers) : Prop :=
  ∀ (cd : ClusterData) (db : DB),
    read = some (some cd)
      →
    s.managedDB cd a.order = some db
      →
    db.spec.synchronousReplication = true ∧ db.spec.role = .master

/--
The tick does not initialize the database, it waits for the standbys if this has to be done, and it
restarts the instance only while it waits.
-/
def KeepsFence (s : Node) (read : Option (Option ClusterData)) (a : Answers) : Prop :=
  ∀ (cd : ClusterData) (db : DB),
    read = some (some cd)
      →
    s.managedDB cd a.order = some db
      →
    InPlace db s.keeper.dbLocalState
      ∧
    (s.pg.running = true → s.pg.unsynced = true → s.keeper.waitSyncStandbysSynced = true)
      ∧
    (restartDue cd a.converge = true → a.converge.restart.launches = true →
      stillWaiting db (waitsAfterRole s.keeper.waitSyncStandbysSynced s.pg.running a.role)
        a.converge.inSyncStandbys = true)

theorem onlyInternal_reconcile {s : Node} {a : Answers} (h : OnlyInternal cfg s)
    (hsync : db.spec.synchronousReplication = true) (hrole : db.spec.role = .master)
    (hplace : InPlace db s.keeper.dbLocalState)
    (hwaits : s.pg.running = true → s.pg.unsynced = true → s.keeper.waitSyncStandbysSynced = true)
    (hrestart : restartDue cd a.converge = true → a.converge.restart.launches = true →
      stillWaiting db (waitsAfterRole s.keeper.waitSyncStandbysSynced s.pg.running a.role)
        a.converge.inSyncStandbys = true)
    : (∀ s' ∈ (reconcile cfg cd db a s).visited, OnlyInternal cfg s')
        ∧
      OnlyInternal cfg (reconcile cfg cd db a s).final := by
  have hinside {s : Node} (hfence : Fence cfg s) : OnlyInternal cfg s :=
    fun hrunning hunsynced => (hfence hrunning hunsynced).2
  have htriple : Triple (Fence cfg)
      (fun s' => InPlace db s'.keeper.dbLocalState
        ∧ s'.keeper.waitSyncStandbysSynced = s.keeper.waitSyncStandbysSynced
        ∧ s'.pg.running = s.pg.running)
      (reconcile cfg cd db a) (fun _ _ => True) :=
    (fence_prepare hsync hrole a).bind fun _ => fence_converge hsync hrestart
  obtain ⟨hvisited, hfinal, -⟩ := htriple s
    (fun hrunning hunsynced => ⟨hwaits hrunning hunsynced, h hrunning hunsynced⟩)
    ⟨hplace, rfl, rfl⟩
  exact ⟨fun s' hs' => hinside (hvisited s' hs'), hinside hfinal⟩

theorem onlyInternal_postgresKeeperSM (read : Option (Option ClusterData)) (a : Answers)
    : Triple (OnlyInternal cfg) (fun s => SyncMaster s read a ∧ KeepsFence s read a)
        (postgresKeeperSM cfg read a) (fun _ _ => True) := by
  apply triple_postgresKeeperSM
  . intro s s' heq hs
    have hpg : s'.pg = s.pg := congrArg (fun s => s.pg) heq
    unfold OnlyInternal
    rw [hpg]
    exact hs
  . intro s s' heq hs
    have hpg : s'.pg = s.pg := congrArg (fun s => s.pg) heq
    have hlocal : s'.keeper.dbLocalState = s.keeper.dbLocalState :=
      congrArg (fun s => s.keeper.dbLocalState) heq
    have hwait : s'.keeper.waitSyncStandbysSynced = s.keeper.waitSyncStandbysSynced :=
      congrArg (fun s => s.keeper.waitSyncStandbysSynced) heq
    unfold SyncMaster KeepsFence
    simp only [managedDB_of_unbound heq, hpg, hlocal, hwait]
    exact hs
  . intro s alive hs hrunning
    simp only [Node.survive, Bool.and_eq_true] at hrunning
    exact hs hrunning.1
  . rintro cd db hread s hs ⟨⟨hmaster, hkeeps⟩, hdb⟩
    obtain ⟨hsync, hrole⟩ := hmaster cd db hread hdb
    obtain ⟨hplace, hwaits, hrestart⟩ := hkeeps cd db hread hdb
    obtain ⟨hvisited, hfinal⟩ :=
      onlyInternal_reconcile hs hsync hrole hplace hwaits hrestart
    exact ⟨hvisited, hfinal, fun _ _ => trivial⟩

def fenceSystem (cfg : Config) (allowed : Node → Option (Option ClusterData) → Answers → Prop)
    : TransitionSystem Node where
  init s :=
    (∃ s' bootUUID alive, s = Node.restart s' bootUUID alive)
      ∧
    (s.pg.running = true → s.pg.unsynced = false)
  step := NodeStep cfg allowed

theorem onlyInternal_visited {s : Node} (h : OnlyInternal cfg s)
    {read : Option (Option ClusterData)} {a : Answers}
    (ha : SyncMaster s read a ∧ KeepsFence s read a)
    : ∀ s' ∈ s :: (postgresKeeperSM cfg read a s).visited, OnlyInternal cfg s' :=
  fun _ hs' => (onlyInternal_postgresKeeperSM read a).visited h ha hs'

theorem onlyInternal_inductive (cfg : Config)
    : (fenceSystem cfg fun s read a => SyncMaster s read a ∧ KeepsFence s read a).Inductive
        (OnlyInternal cfg) where
  init := by
    rintro s ⟨-, hsynced⟩ hrunning hunsynced
    rw [hsynced hrunning] at hunsynced
    cases hunsynced
  step := by
    intro s s' h hstep
    have hsurvive {s : Node} (hs : OnlyInternal cfg s) (alive : Bool)
        : OnlyInternal cfg (s.survive alive) := by
      intro hrunning
      simp only [Node.survive, Bool.and_eq_true] at hrunning
      exact hs hrunning.1
    cases hstep with
    | tick read a ha => exact (onlyInternal_postgresKeeperSM read a s h ha).2.1
    | crash read a ha s'' hs'' bootUUID alive =>
      exact hsurvive (onlyInternal_visited h ha s'' hs'') alive
    | died => exact hsurvive h false

end Run

/--
In every run on a synchronous master whose ticks keep the fence, an instance that the keeper has
started has only internal rules in force until the standbys are seen in sync, also within a tick.
-/
theorem sync_restart_fenced (cfg : Config) (s : Node)
    (hs : (fenceSystem cfg fun s read a => SyncMaster s read a ∧ KeepsFence s read a).Reachable s)
    (read : Option (Option ClusterData)) (a : Answers) (hmaster : SyncMaster s read a)
    (hkeeps : KeepsFence s read a)
    : ∀ s' ∈ s :: (postgresKeeperSM cfg read a s).visited,
        s'.pg.running = true
          →
        s'.pg.unsynced = true
          →
        ∀ rule ∈ s'.pg.loaded.hba.elems, InternalRule cfg rule :=
  onlyInternal_visited ((onlyInternal_inductive cfg).of_reachable hs) ⟨hmaster, hkeeps⟩

def sampleFencedMaster : DB :=
  let db := sampleAssigned "u" .new
  { db with
    spec := { db.spec with synchronousReplication := true, synchronousStandbys := some ["d"] }
  }

def sampleSyncTick (restartRequired : Bool) (s : Node) : Outcome Node Exit Unit :=
  postgresKeeperSM sampleConfig
    (some (some (sampleCluster sampleFencedMaster
      { initMode := some .new, automaticPgRestart := some true })))
    { sampleAnswers with
      converge := { sampleAnswers.converge with
        inSyncStandbys := some [hysteronName "d"]
        restartRequired := some restartRequired
      }
    }
    s

theorem syncMaster_sample {s : Node} {a : Answers} {spec : ClusterSpec}
    (hdb : s.managedDB (sampleCluster sampleFencedMaster spec) a.order = some sampleFencedMaster)
    : SyncMaster s (some (some (sampleCluster sampleFencedMaster spec))) a := by
  rintro _ db ⟨rfl⟩ hmanaged
  rw [hdb] at hmanaged
  cases hmanaged
  exact ⟨rfl, rfl⟩

theorem sync_restart_fenced_sample
    : ∃ s' ∈ sampleNode { uid := "u", generation := 1 } ::
          (sampleSyncTick false (sampleNode { uid := "u", generation := 1 })).visited,
        s'.pg.running = true
          ∧
        s'.pg.unsynced = true
          ∧
        ∀ rule ∈ s'.pg.loaded.hba.elems, InternalRule sampleConfig rule := by
  have hfound : (sampleNode { uid := "u", generation := 1 } ::
      (sampleSyncTick false (sampleNode { uid := "u", generation := 1 })).visited).any
        (fun s' => s'.pg.running && s'.pg.unsynced) = true := by
    decide +kernel
  obtain ⟨s', hs', hfound⟩ := List.any_eq_true.mp hfound
  obtain ⟨hrunning, hunsynced⟩ := Bool.and_eq_true_iff.mp hfound
  refine ⟨s', hs', hrunning, hunsynced, ?_⟩
  refine sync_restart_fenced sampleConfig (sampleNode { uid := "u", generation := 1 })
    (.init ⟨⟨_, _, _, sampleNode_restart _⟩, by decide⟩) _ _
    (syncMaster_sample (by decide +kernel)) ?_ s' hs' hrunning hunsynced
  rintro _ db ⟨rfl⟩ hmanaged
  have hdb : (sampleNode { uid := "u", generation := 1 }).managedDB (sampleCluster sampleFencedMaster
      { initMode := some .new, automaticPgRestart := some true }) .stored = some sampleFencedMaster := by
    decide +kernel
  cases hdb.symm.trans hmanaged
  exact ⟨⟨rfl, rfl⟩, by decide, by decide +kernel⟩

def StartsWith (start : List Char) (rule : String) : Prop :=
  ∃ rest : List Char, rule.toList = start ++ rest

theorem StartsWith.append {start : List Char} {rule : String} (h : StartsWith start rule)
    (t : String) : StartsWith start (rule ++ t) := by
  obtain ⟨rest, hrest⟩ := h
  exact ⟨rest ++ t.toList, by rw [String.toList_append, hrest, List.append_assoc]⟩

theorem startsWith_suRule (address method : String)
    : StartsWith ['h', 'o', 's', 't', ' ', 'a', 'l', 'l', ' ', 'p']
        (suRule sampleConfig address method) := by
  have hstart : StartsWith ['h', 'o', 's', 't', ' ', 'a', 'l', 'l', ' ', 'p']
      ("host all " ++ "postgres") :=
    ⟨['o', 's', 't', 'g', 'r', 'e', 's'], by decide +kernel⟩
  exact (((hstart.append _).append _).append _).append _

theorem startsWith_replRule (address method : String)
    : StartsWith ['h', 'o', 's', 't', ' ', 'r'] (replRule sampleConfig address method) := by
  have hstart : StartsWith ['h', 'o', 's', 't', ' ', 'r'] "host replication " :=
    ⟨['e', 'p', 'l', 'i', 'c', 'a', 't', 'i', 'o', 'n', ' '], by decide +kernel⟩
  exact ((((hstart.append _).append _).append _).append _).append _

theorem not_internalRule_all : ¬InternalRule sampleConfig "host all all 0.0.0.0/0 md5" := by
  have hall : "host all all 0.0.0.0/0 md5".toList.take 10
      = ['h', 'o', 's', 't', ' ', 'a', 'l', 'l', ' ', 'a'] := by
    decide +kernel
  rintro (hlocal | ⟨address, method, hrule | hrule⟩)
  . revert hlocal
    decide +kernel
  . obtain ⟨rest, hrest⟩ := startsWith_suRule address method
    rw [hrule, hrest] at hall
    cases hall
  . obtain ⟨rest, hrest⟩ := startsWith_replRule address method
    rw [hrule, hrest] at hall
    cases hall

/--
The first tick starts the instance and finds the standby in sync. The second one restarts it for a
parameter, and all users can connect before the standby is seen in sync again.
-/
theorem sync_restart_not_fenced
    : ∃ s : Node,
        (fenceSystem sampleConfig SyncMaster).Reachable s
          ∧
        s.managedDB (sampleCluster sampleFencedMaster
            { initMode := some .new, automaticPgRestart := some true }) .stored
          = some sampleFencedMaster
          ∧
        ∃ s' ∈ (sampleSyncTick true s).visited,
          s'.pg.running = true
            ∧
          s'.pg.unsynced = true
            ∧
          ∃ rule ∈ s'.pg.loaded.hba.elems, ¬InternalRule sampleConfig rule := by
  refine ⟨(sampleSyncTick false (sampleNode { uid := "u", generation := 1 })).final, ?_,
    by decide +kernel, ?_⟩
  . apply TransitionSystem.Reachable.step (x := sampleNode { uid := "u", generation := 1 })
    . exact .init ⟨⟨_, _, _, sampleNode_restart _⟩, by decide⟩
    . exact .tick _ _ _ (syncMaster_sample (by decide +kernel)) (by decide +kernel)
  . have hrule : ∃ s' ∈ (sampleSyncTick true
        (sampleSyncTick false (sampleNode { uid := "u", generation := 1 })).final).visited,
        s'.pg.running = true
          ∧
        s'.pg.unsynced = true
          ∧
        "host all all 0.0.0.0/0 md5" ∈ s'.pg.loaded.hba.elems := by
      decide +kernel
    obtain ⟨s', hs', hrunning, hunsynced, hmem⟩ := hrule
    exact ⟨s', hs', hrunning, hunsynced, _, hmem, not_internalRule_all⟩

end Keeper
end Hysteron
