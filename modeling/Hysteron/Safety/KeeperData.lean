import Hysteron.Keeper.Lemmas

/-!
The data directory of a keeper. The local state that a keeper persists tells whether the directory may
be removed and whether it may be trusted, also after a crash at any point. Only a database that takes
over an existing directory is trusted without a look at the directory.
-/

namespace Hysteron
namespace Keeper

open Program

variable {cfg : Config} {cd : ClusterData} {db : DB} {careful : Prop}

/--
The memory agrees with the disk, and a directory that was removed is trusted only after the
initialization, restore or resync of its database has completed. The latter needs care with existing
directories.
-/
structure Trusted (careful : Prop) (s : Node) : Prop where
  loaded : s.keeper.dbLocalState = s.savedDB.getD {}
  complete : careful → s.keeper.dbLocalState.initializing = false →
    s.keeper.dbLocalState.uid = ""
      ∨
    s.data.wiped = 0
      ∨
    s.data.complete = some s.keeper.dbLocalState.uid

theorem Trusted.congr {s s' : Node} (heq : s'.durable = s.durable) (h : Trusted careful s)
    : Trusted careful s' := by
  simp only [Node.durable, Prod.mk.injEq] at heq
  obtain ⟨hmem, hdisk, hdata⟩ := heq
  constructor
  . rw [hmem, hdisk]
    exact h.loaded
  . rw [hmem, hdata]
    exact h.complete

theorem trusted_keeps {α : Type} {m : NodeM α} {p : DBLocalState → Prop} (h : m.Keeps Node.durable)
    : Triple (Trusted careful) (fun s => p s.keeper.dbLocalState) m
        (fun _ s => p s.keeper.dbLocalState) := by
  apply h.triple
  . exact fun s s' heq hs => hs.congr heq
  . intro s s' heq hs
    simp only [Node.durable, Prod.mk.injEq] at heq
    rw [heq.1]
    exact hs

def Building (uid : String) (l : DBLocalState) : Prop := l.uid = uid ∧ l.initializing = true

section Removal

variable {p : DBLocalState → Prop} (hp : ∀ (l : DBLocalState), p l → l.initializing = true)

include hp

theorem trusted_wipe
    : Triple (Trusted careful) (fun s => p s.keeper.dbLocalState) wipe
        (fun _ s => p s.keeper.dbLocalState) := by
  apply Triple.modify
  intro s hs hbuilding
  refine ⟨⟨hs.loaded, ?_⟩, hbuilding⟩
  intro _ hinitialized
  have hinitializing := hp _ hbuilding
  rw [hinitialized] at hinitializing
  cases hinitializing

theorem trusted_removeAll (answer : RemoveAnswer)
    : Triple (Trusted careful) (fun s => p s.keeper.dbLocalState) (removeAll answer)
        (fun _ s => p s.keeper.dbLocalState) := by
  unfold removeAll
  split
  . exact .pure fun _ _ hs => hs
  . apply Triple.bind
    . apply trusted_keeps
      split
      . exact keeps_isStarted _
      . exact .pure
    . intro started
      split
      . split
        . exact .pure fun _ _ hs => hs
        . exact (trusted_wipe hp).bind fun _ => .pure fun _ _ hs => hs
      . exact .pure fun _ _ hs => hs

theorem trusted_create (ok : Bool)
    : Triple (Trusted careful) (fun s => p s.keeper.dbLocalState) (create ok)
        (fun _ s => p s.keeper.dbLocalState) := by
  apply Triple.bind (Q := fun _ s => p s.keeper.dbLocalState)
  . exact triple_runIf (fun _ => trusted_wipe hp) fun _ _ _ hs => hs
  . intro _
    exact .pure fun _ _ hs => hs

theorem trusted_resync (followedDB : DB) (tryPgrewind : Bool) (a : ResyncAnswers)
    : Triple (Trusted careful) (fun s => p s.keeper.dbLocalState) (resync cfg db followedDB tryPgrewind a)
        (fun _ s => p s.keeper.dbLocalState) := by
  apply Triple.bind (Q := fun _ s => p s.keeper.dbLocalState)
  . split
    . apply (trusted_wipe hp).bind
      intro _
      apply (trusted_keeps (keeps_runIf (keeps_setRecoveryOptions _))).bind
      intro _
      exact .pure fun _ _ hs => hs
    . exact .pure fun _ _ hs => hs
  . intro rewound
    split
    . exact .pure fun _ _ hs => hs
    . apply (trusted_removeAll hp _).bind
      intro removed
      split <;> exact .pure fun _ _ hs => hs

end Removal

def Ready (uid : String) (s : Node) : Prop :=
  s.keeper.dbLocalState.uid = uid
    ∧
  (s.keeper.dbLocalState.initializing = true → s.data.complete = some uid)

theorem Ready.congr {uid : String} {s s' : Node} (heq : s'.durable = s.durable) (h : Ready uid s)
    : Ready uid s' := by
  simp only [Node.durable, Prod.mk.injEq] at heq
  obtain ⟨hmem, -, hdata⟩ := heq
  unfold Ready
  rw [hmem, hdata]
  exact h

theorem building_initializing {uid : String} (l : DBLocalState) (h : Building uid l)
    : l.initializing = true := h.2

theorem trusted_beginInit {P : Node → Prop} (ok : Bool)
    : Triple (Trusted careful) P (orReturn (saveDBLocalState (initialState db true) ok))
        (fun _ s => Building db.uid s.keeper.dbLocalState) := by
  apply triple_orReturn
  apply triple_saveDBLocalState
  . intro s _ _
    refine ⟨⟨rfl, ?_⟩, fun _ => ⟨rfl, rfl⟩⟩
    intro _ hinitialized
    cases hinitialized
  . intro s _ _ hok
    cases hok

theorem trusted_keepInitParameters (a : InitAnswers)
    : Triple (Trusted careful) (fun s => Building db.uid s.keeper.dbLocalState)
        (keepInitParameters db (initialState db true) a)
        (fun _ s => Building db.uid s.keeper.dbLocalState) := by
  apply triple_runIf
  . intro _
    apply (trusted_keeps (keeps_getConfigFilePGParameters _)).bind
    intro _
    split
    . exact .exit
    . apply triple_orReturn
      apply triple_saveDBLocalState
      . intro s _ _
        refine ⟨⟨rfl, ?_⟩, fun _ => ⟨rfl, rfl⟩⟩
        intro _ hinitialized
        cases hinitialized
      . intro s _ _ hok
        cases hok
  . exact fun _ _ _ hs => hs

theorem trusted_completed (resync : Bool)
    : Triple (Trusted careful) (fun s => Building db.uid s.keeper.dbLocalState) (completed db.uid resync)
        (fun _ => Ready db.uid) := by
  apply Triple.modify
  intro s hs hbuilding
  refine ⟨⟨hs.loaded, ?_⟩, hbuilding.1, fun _ => rfl⟩
  intro _ _
  right
  right
  rw [hbuilding.1]

theorem trusted_initNew {P : Node → Prop} (a : InitAnswers)
    : Triple (Trusted careful) P (initNew cfg db a) (fun _ => Ready db.uid) := by
  apply (trusted_beginInit _).bind
  intro _
  apply (trusted_keeps (keeps_updateParameters _)).bind
  intro _
  apply (trusted_keeps (keeps_orReturn (keeps_stopIfStarted _))).bind
  intro _
  apply (triple_orReturn_of_keep (trusted_removeAll building_initializing _)).bind
  intro _
  apply (triple_orReturn_of_keep (trusted_create building_initializing _)).bind
  intro _
  apply (trusted_keeps (keeps_orReturn (keeps_startTmpMerged _ _))).bind
  intro _
  apply (trusted_keeps keeps_guardReturn).bind
  intro _
  apply (trusted_keepInitParameters a).bind
  intro _
  apply (trusted_keeps keeps_guardReturn).bind
  intro _
  apply (trusted_keeps (keeps_orReturn (keeps_stopIfStarted _))).bind
  intro _
  exact trusted_completed _

theorem trusted_initPITR {P : Node → Prop} (a : InitAnswers)
    : Triple (Trusted careful) P (initPITR cfg db a) (fun _ => Ready db.uid) := by
  apply (trusted_beginInit _).bind
  intro _
  apply (trusted_keeps (keeps_updateParameters _)).bind
  intro _
  apply (trusted_keeps (keeps_orReturn (keeps_stopIfStarted _))).bind
  intro _
  apply (triple_orReturn_of_keep (trusted_removeAll building_initializing _)).bind
  intro _
  split
  . exact .exit
  . apply (triple_orReturn_of_keep (trusted_create building_initializing _)).bind
    intro _
    apply (trusted_keeps (keeps_setRecoveryOptions _)).bind
    intro _
    apply (trusted_keeps (keeps_orReturn (keeps_startTmpMerged _ _))).bind
    intro _
    apply (trusted_keeps keeps_guardReturn).bind
    intro _
    apply (trusted_keeps keeps_guardReturn).bind
    intro _
    apply (trusted_keepInitParameters a).bind
    intro _
    apply (trusted_keeps (keeps_orReturn (keeps_stopIfStarted _))).bind
    intro _
    exact trusted_completed _

theorem trusted_verifyRewind (followedDB : DB) (a : InitAnswers)
    : Triple (Trusted careful) (fun s => Building db.uid s.keeper.dbLocalState)
        (verifyRewind cfg db followedDB a)
        (fun _ s => Building db.uid s.keeper.dbLocalState) := by
  apply Triple.bind (Q := fun _ s => Building db.uid s.keeper.dbLocalState)
  . split
    . split
      . exact .exit
      . exact .pure fun _ _ hs => hs
    . exact .pure fun _ _ hs => hs
  . intro fullResync
    apply triple_runIf
    . intro _
      apply (trusted_keeps (keeps_orReturn (keeps_stopIfStarted _))).bind
      intro _
      exact triple_orReturn_of_keep (trusted_resync building_initializing _ _ _)
    . exact fun _ _ _ hs => hs

theorem trusted_initResync {P : Node → Prop} (initialized : Bool) (a : InitAnswers)
    : Triple (Trusted careful) P (initResync cfg cd db initialized a) (fun _ => Ready db.uid) := by
  apply (trusted_beginInit _).bind
  intro _
  apply (trusted_keeps (keeps_orReturn (keeps_stopIfStarted _))).bind
  intro _
  apply (trusted_keeps (keeps_updateParameters _)).bind
  intro _
  apply (trusted_keeps keeps_guardReturn).bind
  intro _
  split
  . exact .exit
  . split
    . exact .exit
    . next followedDB _ =>
      apply (triple_orReturn_of_keep (trusted_resync building_initializing _ _ _)).bind
      intro _
      apply (trusted_keeps (keeps_orReturn (keeps_start _))).bind
      intro _
      apply Triple.bind
      . exact triple_runIf (fun _ => trusted_verifyRewind followedDB a) fun _ _ _ hs => hs
      . intro _
        exact trusted_completed _

theorem trusted_saveExisting {next : DBLocalState} (huid : next.uid = db.uid)
    (hinitializing : next.initializing = false) (ok : Bool)
    : Triple (Trusted careful) (fun s => careful → s.data.wiped = 0) (orReturn (saveDBLocalState next ok))
        (fun _ s => (careful → s.data.wiped = 0) ∧ Ready db.uid s) := by
  apply triple_orReturn
  apply triple_saveDBLocalState
  . intro s _ hwiped
    refine ⟨⟨rfl, fun hcareful _ => .inr (.inl (hwiped hcareful))⟩, fun _ => ⟨hwiped, huid, ?_⟩⟩
    intro hbuilding
    rw [Node.setDBLocalState, hinitializing] at hbuilding
    cases hbuilding
  . intro s _ _ hok
    cases hok

theorem trusted_initExisting (a : InitAnswers)
    : Triple (Trusted careful) (fun s => careful → s.data.wiped = 0) (initExisting cfg db a)
        (fun _ => Ready db.uid) := by
  -- Whatever does not touch the local state and the directory keeps the database in place.
  have hkeep {α : Type} {m : NodeM α} (h : m.Keeps Node.durable)
      : Triple (Trusted careful) (fun s => (careful → s.data.wiped = 0) ∧ Ready db.uid s) m
          (fun _ s => (careful → s.data.wiped = 0) ∧ Ready db.uid s) := by
    apply h.triple
    . exact fun s s' heq hs => hs.congr heq
    . intro s s' heq hs
      refine ⟨?_, hs.2.congr heq⟩
      simp only [Node.durable, Prod.mk.injEq] at heq
      rw [heq.2.2]
      exact hs.1
  apply (trusted_saveExisting rfl rfl _).bind
  intro _
  apply (hkeep (keeps_updateParameters _)).bind
  intro _
  apply (hkeep (keeps_orReturn (keeps_stopIfStarted _))).bind
  intro _
  apply (hkeep (keeps_orReturn (keeps_startTmpMerged _ _))).bind
  intro _
  apply (hkeep keeps_guardReturn).bind
  intro _
  apply Triple.bind (Q := fun _ s => (careful → s.data.wiped = 0) ∧ Ready db.uid s)
  . apply triple_runIf
    . intro _
      apply (hkeep (keeps_getConfigFilePGParameters _)).bind
      intro _
      split
      . exact .exit
      . exact (trusted_saveExisting rfl rfl _).weaken (fun _ _ hs => hs.1) fun _ _ _ hs => hs
    . exact fun _ _ _ hs => hs
  . intro _
    exact (hkeep (keeps_orReturn (keeps_stopIfStarted _))).weaken (fun _ _ hs => hs)
      fun _ _ _ hs => hs.2

theorem trusted_initializeDB (a : InitAnswers)
    : Triple (Trusted careful) (fun s => careful → db.spec.initMode = .existing → s.data.wiped = 0)
        (initializeDB cfg cd db a) (fun _ => Ready db.uid) := by
  have hkeep {m : NodeM Unit} (h : m.Keeps Node.durable)
      : Triple (Trusted careful) (fun s => careful → db.spec.initMode = .existing → s.data.wiped = 0) m
          (fun _ s => careful → db.spec.initMode = .existing → s.data.wiped = 0) := by
    apply h.triple
    . exact fun s s' heq hs => hs.congr heq
    . intro s s' heq hs
      simp only [Node.durable, Prod.mk.injEq] at heq
      rw [heq.2.2]
      exact hs
  unfold initializeDB
  split
  . exact .exit
  . apply (hkeep (keeps_setRecoveryOptions _)).bind
    intro _
    apply (hkeep (keeps_setWait _)).bind
    intro _
    split
    . exact trusted_initNew a
    . exact trusted_initPITR a
    . exact trusted_initResync _ a
    . next hmode =>
      exact (trusted_initExisting a).weaken (fun _ _ hs hcareful => hs hcareful hmode)
        fun _ _ _ hs => hs
    . exact .exit

def Intact (careful : Prop) (db : DB) (s : Node) : Prop :=
  careful
    →
  db.spec.initMode = .existing
    →
  s.keeper.dbLocalState.initializing = false
    ∧
  (s.keeper.dbLocalState.uid = db.uid ∨ s.data.wiped = 0)

theorem Intact.congr {s s' : Node} (heq : s'.durable = s.durable) (h : Intact careful db s)
    : Intact careful db s' := by
  simp only [Node.durable, Prod.mk.injEq] at heq
  obtain ⟨hmem, -, hdata⟩ := heq
  unfold Intact
  rw [hmem, hdata]
  exact h

theorem intact_keeps {α : Type} {m : NodeM α} (h : m.Keeps Node.durable)
    : Triple (Trusted careful) (Intact careful db) m (fun _ => Intact careful db) :=
  h.triple (fun _ _ heq hs => hs.congr heq) fun _ _ heq hs => hs.congr heq

theorem trusted_cleanUp (a : Answers)
    : Triple (Trusted careful) (Intact careful db) (cleanUp a)
        (fun _ s => s.keeper.dbLocalState.initializing = false ∧ Intact careful db s) := by
  apply Triple.bind
  . exact Triple.get (Q := fun s₀ s => s₀ = s ∧ Intact careful db s) fun s _ hs => ⟨rfl, hs⟩
  . intro s₀
    apply triple_runIf
    . intro hbuilding
      -- Such a database is not one that takes over its directory.
      by_cases hmode : careful ∧ db.spec.initMode = .existing
      . intro s _ hs
        obtain ⟨hcareful, hmode⟩ := hmode
        have := (hs.2 hcareful hmode).1
        rw [← hs.1, hbuilding] at this
        cases this
      . have hinitializing : ∀ (l : DBLocalState), l.initializing = true → l.initializing = true :=
          fun _ h => h
        have hsaved (ok : Bool)
            : Triple (Trusted careful) (fun s => s.keeper.dbLocalState.initializing = true)
                (saveDBLocalState {} ok) (fun ok s => ok = true →
                  s.keeper.dbLocalState.initializing = false ∧ Intact careful db s) := by
          apply triple_saveDBLocalState
          . intro s _ _
            exact ⟨⟨rfl, fun _ _ => .inl rfl⟩, fun _ => ⟨rfl, fun hc h => absurd ⟨hc, h⟩ hmode⟩⟩
          . intro s _ _ hok
            cases hok
        apply Triple.weaken (P := fun s => s.keeper.dbLocalState.initializing = true) _
          (fun s _ hs => hs.1 ▸ hbuilding) (fun _ _ _ hs => hs)
        apply (trusted_keeps (p := fun l => l.initializing = true)
          (keeps_orReturn (keeps_stopIfStarted _))).bind
        intro _
        apply (triple_orReturn_of_keep (trusted_removeAll hinitializing _)).bind
        intro _
        exact triple_orReturn (hsaved _)
    . intro hbuilding s _ hs
      exact ⟨hs.1 ▸ hbuilding, hs.2⟩

theorem ready_keeps {α : Type} {m : NodeM α} {uid : String} (h : m.Keeps Node.durable)
    : Triple (Trusted careful) (Ready uid) m (fun _ => Ready uid) :=
  h.triple (fun _ _ heq hs => hs.congr heq) fun _ _ heq hs => hs.congr heq

theorem trusted_prepare (a : Answers)
    : Triple (Trusted careful) (Intact careful db) (prepare cfg cd db a) (fun _ => Ready db.uid) := by
  apply (intact_keeps Keeps.get).bind
  intro _
  apply (intact_keeps keeps_liftExcept).bind
  intro _
  apply (intact_keeps (keeps_setHba _)).bind
  intro _
  apply (intact_keeps (keeps_setIdent _)).bind
  intro _
  apply (trusted_cleanUp a).bind
  intro _
  apply Triple.bind
  . exact Triple.get (Q := fun s₀ s =>
      s₀ = s ∧ s.keeper.dbLocalState.initializing = false ∧ Intact careful db s) fun s _ hs => ⟨rfl, hs⟩
  . intro s₀
    apply Triple.bind (Q := fun _ => Ready db.uid)
    . apply triple_runIf
      . intro huid
        apply (trusted_initializeDB a.init).weaken
        . intro s _ hs hcareful hmode
          rcases (hs.2.2 hcareful hmode).2 with hsame | hwiped
          . rw [← hs.1] at hsame
            simp [hsame] at huid
          . exact hwiped
        . exact fun _ _ _ hs => hs
      . intro huid s _ hs
        refine ⟨?_, ?_⟩
        . rw [← hs.1]
          simpa using huid
        . intro hbuilding
          rw [hs.2.1] at hbuilding
          cases hbuilding
    . intro _
      exact ready_keeps (keeps_applyRole _)

theorem trusted_saveGeneration (ok : Bool)
    : Triple (Trusted careful) (Ready db.uid) (saveGeneration db ok) (fun _ _ => True) := by
  apply Triple.bind
  . exact Triple.get (Q := fun s₀ s => s₀ = s ∧ Ready db.uid s) fun s _ hs => ⟨rfl, hs⟩
  . intro s₀
    apply triple_orReturn
    apply triple_saveDBLocalState
    . rintro s hs ⟨rfl, hready⟩
      refine ⟨⟨rfl, ?_⟩, fun _ => trivial⟩
      intro hcareful _
      cases hbuilding : s₀.keeper.dbLocalState.initializing with
      | true =>
        right
        right
        rw [Node.setDBLocalState, hready.2 hbuilding, hready.1]
      | false => exact hs.complete hcareful hbuilding
    . exact fun _ _ _ _ => trivial

theorem trusted_converge (a : ConvergeAnswers)
    : Triple (Trusted careful) (Ready db.uid) (converge cfg cd db a) (fun _ _ => True) := by
  apply (ready_keeps (keeps_changeParameters _)).bind
  intro _
  apply (ready_keeps (keeps_checkSyncStandbys _)).bind
  intro _
  apply (ready_keeps Keeps.get).bind
  intro _
  apply (ready_keeps keeps_liftExcept).bind
  intro _
  apply (ready_keeps (keeps_changeHba _)).bind
  intro _
  apply (ready_keeps (keeps_changeIdent _)).bind
  intro _
  apply (ready_keeps (keeps_runIf (keeps_logged (keeps_reload _)))).bind
  intro _
  apply (ready_keeps (keeps_restartIfRequired _ _)).bind
  intro _
  exact trusted_saveGeneration _

def AdoptsIntact (s : Node) (read : Option (Option ClusterData)) (a : Answers) : Prop :=
  ∀ (cd : ClusterData) (db : DB),
    read = some (some cd)
      →
    s.assignedDB cd a.order = some db
      →
    Intact True db s

theorem trusted_postgresKeeperSM (read : Option (Option ClusterData)) (a : Answers)
    : Triple (Trusted careful) (fun s => careful → AdoptsIntact s read a)
        (postgresKeeperSM cfg read a) (fun _ _ => True) := by
  apply triple_postgresKeeperSM
  . exact fun s s' heq hs => hs.congr (durable_of_unbound heq)
  . intro s s' heq hs hcareful cd db hread hdb
    rw [assignedDB_of_unbound heq] at hdb
    exact (hs hcareful cd db hread hdb).congr (durable_of_unbound heq)
  . exact fun s alive hs => Trusted.congr (s := s) rfl hs
  . intro cd db hread
    apply Triple.bind
    . apply (trusted_prepare a).weaken
      . intro s _ hs hcareful
        exact hs.1 hcareful cd db hread (assignedDB_of_managedDB hs.2) trivial
      . exact fun _ _ _ hs => hs
    . intro _
      exact trusted_converge _

theorem Trusted.restart {s : Node} (h : Trusted careful s) (bootUUID : String) (alive : Bool)
    : Trusted careful (s.restart bootUUID alive) where
  loaded := rfl
  complete := by
    have hcomplete := h.complete
    rw [h.loaded] at hcomplete
    exact hcomplete

theorem trusted_visited {s : Node} (h : Trusted careful s) {read : Option (Option ClusterData)}
    {a : Answers} (ha : careful → AdoptsIntact s read a)
    : ∀ s' ∈ s :: (postgresKeeperSM cfg read a s).visited, Trusted careful s' :=
  fun _ hs' => (trusted_postgresKeeperSM read a).visited h ha hs'

theorem trusted_inductive (cfg : Config) (careful : Prop)
    : (nodeSystem cfg fun s read a => careful → AdoptsIntact s read a).Inductive
        (Trusted careful) where
  init := by
    rintro s ⟨hwiped, s', bootUUID, alive, rfl⟩
    exact ⟨rfl, fun _ _ => .inr (.inl hwiped)⟩
  step := by
    intro s s' h hstep
    cases hstep with
    | tick read a ha => exact (trusted_postgresKeeperSM read a s h ha).2.1
    | crash read a ha s'' hs'' bootUUID alive =>
      exact (trusted_visited h ha s'' hs'').restart bootUUID alive
    | died => exact Trusted.congr (s := s) rfl h

section Assigned

def Assigns (uid : String) (s : Node) (read : Option (Option ClusterData)) (a : Answers) : Prop :=
  ∀ (cd : ClusterData) (db : DB),
    read = some (some cd)
      →
    s.assignedDB cd a.order = some db
      →
    db.uid = uid

structure Settled (uid : String) (wiped : Nat) (s : Node) : Prop where
  loaded : s.keeper.dbLocalState = s.savedDB.getD {}
  uid : s.keeper.dbLocalState.uid = uid
  initialized : s.keeper.dbLocalState.initializing = false
  wiped : s.data.wiped = wiped

variable {uid : String} {wiped : Nat}

theorem Settled.congr {s s' : Node} (heq : s'.durable = s.durable) (h : Settled uid wiped s)
    : Settled uid wiped s' := by
  simp only [Node.durable, Prod.mk.injEq] at heq
  obtain ⟨hmem, hdisk, hdata⟩ := heq
  constructor
  . rw [hmem, hdisk]
    exact h.loaded
  . rw [hmem]
    exact h.uid
  . rw [hmem]
    exact h.initialized
  . rw [hdata]
    exact h.wiped

theorem settled_keeps {α : Type} {m : NodeM α} (h : m.Keeps Node.durable)
    : Triple (Settled uid wiped) (fun _ => True) m (fun _ _ => True) :=
  h.triple (fun _ _ heq hs => hs.congr heq) fun _ _ _ hs => hs

theorem settled_runIf {condition : Node → Bool} {m : NodeM Unit}
    (h : ∀ (s : Node), Settled uid wiped s → condition s = false)
    : Triple (Settled uid wiped) (fun _ => True) (do runIf (condition (← get)) m)
        (fun _ _ => True) := by
  apply Triple.bind
  . exact Triple.get (Q := fun s₀ s => s₀ = s) fun _ _ _ => rfl
  . intro s₀
    apply triple_runIf
    . rintro hcondition s hs rfl
      rw [h s₀ hs] at hcondition
      cases hcondition
    . exact fun _ _ _ _ => trivial

theorem settled_reconcile (huid : db.uid = uid) (a : Answers)
    : Triple (Settled uid wiped) (fun _ => True) (reconcile cfg cd db a) (fun _ _ => True) := by
  apply Triple.bind
  . apply (settled_keeps Keeps.get).bind
    intro _
    apply (settled_keeps keeps_liftExcept).bind
    intro _
    apply (settled_keeps (keeps_setHba _)).bind
    intro _
    apply (settled_keeps (keeps_setIdent _)).bind
    intro _
    apply (settled_runIf fun s hs => hs.initialized).bind
    intro _
    apply Triple.bind
    . exact Triple.get (Q := fun s₀ s => s₀ = s) fun _ _ _ => rfl
    . intro s₀
      apply Triple.bind (Q := fun _ _ => True)
      . apply triple_runIf
        . rintro hdiffers s hs rfl
          simp [hs.uid, huid] at hdiffers
        . exact fun _ _ _ _ => trivial
      . intro _
        exact settled_keeps (keeps_applyRole _)
  . intro _
    apply (settled_keeps (keeps_changeParameters _)).bind
    intro _
    apply (settled_keeps (keeps_checkSyncStandbys _)).bind
    intro _
    apply (settled_keeps Keeps.get).bind
    intro _
    apply (settled_keeps keeps_liftExcept).bind
    intro _
    apply (settled_keeps (keeps_changeHba _)).bind
    intro _
    apply (settled_keeps (keeps_changeIdent _)).bind
    intro _
    apply (settled_keeps (keeps_runIf (keeps_logged (keeps_reload _)))).bind
    intro _
    apply (settled_keeps (keeps_restartIfRequired _ _)).bind
    intro _
    apply Triple.bind
    . exact Triple.get (Q := fun s₀ s => s₀ = s) fun _ _ _ => rfl
    . intro s₀
      apply triple_orReturn
      apply triple_saveDBLocalState
      . rintro s hs rfl
        exact ⟨⟨rfl, hs.uid, rfl, hs.wiped⟩, fun _ => trivial⟩
      . exact fun _ _ _ _ => trivial

theorem settled_visited {s : Node} (h : Settled uid wiped s) {read : Option (Option ClusterData)}
    {a : Answers} (ha : Assigns uid s read a)
    : (∀ s' ∈ s :: (postgresKeeperSM cfg read a s).visited, Settled uid wiped s')
        ∧
      Settled uid wiped (postgresKeeperSM cfg read a s).final := by
  have htick : Triple (Settled uid wiped) (fun s => Assigns uid s read a)
      (postgresKeeperSM cfg read a) (fun _ _ => True) := by
    apply triple_postgresKeeperSM
    . exact fun s s' heq hs => hs.congr (durable_of_unbound heq)
    . intro s s' heq hs cd db hread hdb
      rw [assignedDB_of_unbound heq] at hdb
      exact hs cd db hread hdb
    . exact fun s alive hs => Settled.congr (s := s) rfl hs
    . intro cd db hread s hs hassigned
      have huid := hassigned.1 cd db hread (assignedDB_of_managedDB hassigned.2)
      exact settled_reconcile huid a s hs trivial
  exact ⟨fun _ hs' => htick.visited h ha hs', (htick s h ha).2.1⟩

theorem Settled.restart {s : Node} (h : Settled uid wiped s) (bootUUID : String) (alive : Bool)
    : Settled uid wiped (s.restart bootUUID alive) where
  loaded := rfl
  uid := by
    have := h.uid
    rw [h.loaded] at this
    exact this
  initialized := by
    have := h.initialized
    rw [h.loaded] at this
    exact this
  wiped := h.wiped

theorem settled_steps {s s' : Node} (h : Settled uid wiped s)
    (hsteps : Relation.ReflTransGen (NodeStep cfg (Assigns uid)) s s') : Settled uid wiped s' := by
  induction hsteps with
  | refl => exact h
  | @tail s _ _ hstep ih =>
    cases hstep with
    | tick read a ha => exact (settled_visited ih ha).2
    | crash read a ha s'' hs'' bootUUID alive =>
      exact ((settled_visited ih ha).1 s'' hs'').restart bootUUID alive
    | died => exact Settled.congr (s := s) rfl ih

end Assigned

/--
A keeper that has persisted an initialized database does not remove its directory while the database
stays assigned. In runs that take over existing directories only as they were at the beginning, it
persists a database as initialized only when its initialization, restore or resync has completed after
the last removal.
-/
theorem keeper_data_safe (cfg : Config)
    : (∀ (s s' : Node) (l : DBLocalState),
        (nodeSystem cfg fun _ _ _ => True).Reachable s
          →
        s.savedDB = some l
          →
        l.initializing = false
          →
        l.generation ≠ noGeneration
          →
        Relation.ReflTransGen (NodeStep cfg (Assigns l.uid)) s s'
          →
        ∀ (read : Option (Option ClusterData)) (a : Answers), Assigns l.uid s' read a →
          ∀ s'' ∈ s' :: (postgresKeeperSM cfg read a s').visited, s''.data.wiped = s.data.wiped)
        ∧
      (∀ (s : Node),
        (nodeSystem cfg AdoptsIntact).Reachable s
          →
        ∀ (read : Option (Option ClusterData)) (a : Answers), AdoptsIntact s read a →
          ∀ s' ∈ s :: (postgresKeeperSM cfg read a s).visited, ∀ (l : DBLocalState),
            s'.savedDB = some l
              →
            l.initializing = false
              →
            l.uid ≠ ""
              →
            s'.data.wiped = 0 ∨ s'.data.complete = some l.uid) := by
  constructor
  . intro s s' l hreachable hl hinitialized _ hsteps read a ha s'' hs''
    have hloaded : s.keeper.dbLocalState = l := by
      have htrusted := (trusted_inductive cfg False).of_reachable (by simpa using hreachable)
      rw [htrusted.loaded, hl]
      rfl
    have hsettled : Settled l.uid s.data.wiped s := by
      constructor
      . rw [hloaded, hl]
        rfl
      . rw [hloaded]
      . rw [hloaded]
        exact hinitialized
      . rfl
    exact ((settled_visited (settled_steps hsettled hsteps) ha).1 s'' hs'').wiped
  . intro s hreachable read a ha s' hs' l hl hinitialized huid
    have htrusted := (trusted_inductive cfg True).of_reachable (by simpa using hreachable)
    have hvisited := trusted_visited htrusted (fun _ => ha) s' hs'
    have hcomplete := hvisited.complete trivial
    rw [hvisited.loaded, hl] at hcomplete
    exact (hcomplete hinitialized).resolve_left huid

theorem keeper_data_safe_sample
    : (∀ s'' ∈ sampleNode { uid := "u", generation := 1 } ::
          (sampleTick sampleAnswers (sampleAssigned "u" .new)
            (sampleNode { uid := "u", generation := 1 })).visited,
        s''.data.wiped = 0)
        ∧
      (∀ s' ∈ sampleNode {} ::
          (sampleTick sampleAnswers (sampleAssigned "u" .new) (sampleNode {})).visited,
        ∀ (l : DBLocalState),
          s'.savedDB = some l
            →
          l.initializing = false
            →
          l.uid ≠ ""
            →
          s'.data.wiped = 0 ∨ s'.data.complete = some l.uid) := by
  have hassigned (l : DBLocalState) (db : DB)
      (hdb : (sampleNode l).assignedDB
        (sampleCluster (sampleAssigned "u" .new) { initMode := some .new }) .stored = some db)
      : db = sampleAssigned "u" .new := by
    have hsample : (sampleNode l).assignedDB
        (sampleCluster (sampleAssigned "u" .new) { initMode := some .new }) .stored
        = some (sampleAssigned "u" .new) := by
      change (sampleNode {}).assignedDB _ _ = _
      decide +kernel
    rw [hsample] at hdb
    exact (Option.some.inj hdb).symm
  constructor
  . apply (keeper_data_safe sampleConfig).1 _ _ { uid := "u", generation := 1 }
      (.init ⟨rfl, _, _, _, sampleNode_restart _⟩) rfl rfl (by decide) .refl
    rintro _ db ⟨rfl⟩ hdb
    rw [hassigned _ db hdb]
    rfl
  . apply (keeper_data_safe sampleConfig).2 _ (.init ⟨rfl, _, _, _, sampleNode_restart _⟩)
    rintro _ db ⟨rfl⟩ hdb _ hmode
    rw [hassigned _ db hdb] at hmode
    cases hmode

/--
A keeper that has failed to initialize the database `v` meets the database `u` with an existing
directory. It removes the directory, persists `u` as initialized, and only then fails to start.
-/
theorem keeper_data_unsafe
    : ∃ s : Node,
        (nodeSystem sampleConfig fun _ _ _ => True).Reachable s
          ∧
        ∃ s' ∈ (sampleTick
            { sampleAnswers with
              init := { sampleAnswers.init with
                isInitialized := some false
                startTmpMerged := .failed
              }
            }
            (sampleAssigned "u" .existing) s).visited,
          ∃ l : DBLocalState,
            s'.savedDB = some l
              ∧
            l.uid = "u"
              ∧
            l.initializing = false
              ∧
            s'.data.wiped = 1
              ∧
            s'.data.complete = none := by
  refine ⟨sampleNode { uid := "v", initializing := true },
    .init ⟨rfl, _, _, _, sampleNode_restart _⟩, ?_⟩
  decide +kernel

end Keeper
end Hysteron
