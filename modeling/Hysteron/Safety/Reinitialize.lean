import Hysteron.Keeper.Lemmas
import Hysteron.Safety.Origins

/-!
Requests to reinitialize a replica, in runs of operators, sentinels and the keeper of the replica. The
keeper compares UIDs only: it resyncs a database that it has not set up yet, or whose set-up has
failed, and it does not notice a request for any other one.
-/

namespace Hysteron

def ClusterData.Places (cd : ClusterData) (keeperUID uid : String) : Prop :=
  ∃ (db : DB), cd.dbs[uid]? = some db ∧ db.spec.keeperUID = keeperUID

theorem places_of_commit {w : Writer} {cd cd' : ClusterData} {keeperUID uid : String}
    (hsound : cd.Sound) (h : Commit w cd cd') (hplaces : cd'.Places keeperUID uid)
    : cd.Places keeperUID uid ∨ uid ∉ cd.dbs := by
  obtain ⟨db', hdb', hkeeper⟩ := hplaces
  rcases commit_db_cases hsound h hdb' with ⟨db, hdb, hsucceeds⟩ | hstarts
  . exact .inl ⟨db, hdb, hsucceeds.keeperUID ▸ hkeeper⟩
  . exact .inr hstarts.new

theorem normal_of_reinitializeReplica {cd cd' : ClusterData} {now : Time}
    {order : VisitOrder String} {target : String} (hsound : cd.Sound)
    (hrun : Operations.reinitializeReplica order now target cd = .ok cd')
    : cd.cluster.status.phase = .normal := by
  obtain ⟨targetDB, hdb, -, hne, -⟩ := Operations.reinitializeReplica_ok hsound.assigned hrun
  rcases hsound.phase with hinitializing | hnormal
  . exact absurd ((hsound.initializing hinitializing).only _ targetDB hdb) hne
  . exact hnormal

namespace Keeper

open Program

def Node.progress (s : Node) : DBLocalState × List String :=
  (s.keeper.dbLocalState, s.data.resyncs)

instance : Blind Node.progress where
  pg _ _ := rfl
  pgm _ _ _ _ := rfl
  wait _ _ := rfl
  hba _ _ := rfl

instance : BlindToRemoval Node.progress where
  pg _ _ := rfl
  removal _ _ _ := rfl

def Resynced (before : List String) (s : Node) : Prop :=
  ∃ (since : List String),
    s.data.resyncs = since ++ before ∧ s.keeper.dbLocalState.uid ∈ since

structure Pending (cd : ClusterData) (keeperUID : String) (before : List String) (s : Node)
    : Prop where
  suffix : before <:+ s.data.resyncs
  resynced : s.keeper.dbLocalState.initializing = false →
    cd.Places keeperUID s.keeper.dbLocalState.uid → Resynced before s

section Tick

variable {cfg : Config} {cd : ClusterData} {db : DB} {keeperUID : String} {before : List String}

theorem progress_of_durable {s s' : Node} (h : s'.durable = s.durable) : s'.progress = s.progress :=
  congrArg (fun d => (d.1, d.2.2.resyncs)) h

theorem Resynced.congr {s s' : Node} (heq : s'.progress = s.progress) (h : Resynced before s)
    : Resynced before s' := by
  simp only [Node.progress, Prod.mk.injEq] at heq
  unfold Resynced
  rw [heq.1, heq.2]
  exact h

theorem Resynced.suffix {s : Node} (h : Resynced before s) : before <:+ s.data.resyncs := by
  obtain ⟨since, heq, -⟩ := h
  exact ⟨since, heq.symm⟩

theorem Resynced.pending {s : Node} (h : Resynced before s) : Pending cd keeperUID before s :=
  ⟨h.suffix, fun _ _ => h⟩

theorem Pending.congr {s s' : Node} (heq : s'.progress = s.progress)
    (h : Pending cd keeperUID before s) : Pending cd keeperUID before s' := by
  have hsame := heq
  simp only [Node.progress, Prod.mk.injEq] at hsame
  constructor
  . rw [hsame.2]
    exact h.suffix
  . rw [hsame.1]
    exact fun hinitialized hplaces => (h.resynced hinitialized hplaces).congr heq

theorem pending_keeps {α : Type} {m : NodeM α} {P : Node → Prop} (hm : m.Keeps Node.progress)
    (hP : ∀ (s s' : Node), s'.progress = s.progress → P s → P s')
    : Triple (Pending cd keeperUID before) P m (fun _ => P) :=
  hm.triple (fun _ _ heq hs => hs.congr heq) hP

theorem pending_skip {α : Type} {m : NodeM α} (hm : m.Keeps Node.progress)
    : Triple (Pending cd keeperUID before) (fun _ => True) m (fun _ _ => True) :=
  pending_keeps hm fun _ _ _ hs => hs

theorem pending_cleanUp (hempty : ¬ cd.Places keeperUID "") (a : Answers)
    : Triple (Pending cd keeperUID before) (fun _ => True) (cleanUp a)
        (fun _ s => s.keeper.dbLocalState.initializing = false) := by
  apply Triple.read
  intro s₀ _ _
  apply triple_runIf
  . intro _
    refine Triple.weaken (P := fun _ => True) ?_ (fun _ _ _ => trivial) fun _ _ _ hs => hs
    apply (pending_skip (keeps_orReturn (keeps_stopIfStarted _))).bind
    intro _
    apply (pending_skip (keeps_orReturn (keeps_removeAll _))).bind
    intro _
    apply triple_orReturn
    apply triple_saveDBLocalState
    . intro s hs _
      exact ⟨⟨hs.suffix, fun _ hplaces => absurd hplaces hempty⟩, fun _ => rfl⟩
    . intro s _ _ hok
      cases hok
  . rintro hinitializing _ _ rfl
    exact hinitializing

theorem pending_initResync (initialized : Bool) (a : InitAnswers)
    : Triple (Pending cd keeperUID before) (fun _ => True) (initResync cfg cd db initialized a)
        (fun _ => Resynced before) := by
  -- The database of the resync is under initialization.
  have hkeep {α : Type} {m : NodeM α} (hm : m.Keeps Node.progress)
      : Triple (Pending cd keeperUID before) (fun s => s.keeper.dbLocalState.uid = db.uid) m
          (fun _ s => s.keeper.dbLocalState.uid = db.uid) := by
    apply pending_keeps hm
    intro s s' heq hs
    rw [← hs]
    exact congrArg (fun p => p.1.uid) heq
  apply Triple.bind (Q := fun _ s => s.keeper.dbLocalState.uid = db.uid)
  . apply triple_orReturn
    apply triple_saveDBLocalState
    . intro s hs _
      refine ⟨⟨hs.suffix, ?_⟩, fun _ => rfl⟩
      intro hinitialized
      cases hinitialized
    . intro s _ _ hok
      cases hok
  . intro _
    apply (hkeep (keeps_orReturn (keeps_stopIfStarted _))).bind
    intro _
    apply (hkeep (keeps_updateParameters _)).bind
    intro _
    apply (hkeep keeps_guardReturn).bind
    intro _
    split
    . exact .exit
    . split
      . exact .exit
      . apply (hkeep (keeps_orReturn (keeps_resync _ _ _))).bind
        intro _
        apply (hkeep (keeps_orReturn (keeps_start _))).bind
        intro _
        apply (hkeep (keeps_runIf (keeps_verifyRewind _ _))).bind
        intro _
        apply Triple.modify
        intro s hs huid
        obtain ⟨since, hsince⟩ := hs.suffix
        have hresynced : Resynced before { s with
            data := { s.data with
              complete := some db.uid
              resyncs := db.uid :: s.data.resyncs
            } } :=
          ⟨db.uid :: since, by simp [hsince], by simp [huid]⟩
        exact ⟨hresynced.pending, hresynced⟩

theorem pending_initializeDB (hmode : db.spec.initMode = .none ∨ db.spec.initMode = .resync)
    (a : InitAnswers)
    : Triple (Pending cd keeperUID before) (fun _ => True) (initializeDB cfg cd db a)
        (fun _ => Resynced before) := by
  unfold initializeDB
  split
  . exact .exit
  . apply (pending_skip (keeps_setRecoveryOptions _)).bind
    intro _
    apply (pending_skip (keeps_setWait _)).bind
    intro _
    rcases hmode with hmode | hmode
    . rw [hmode]
      exact .exit
    . rw [hmode]
      exact pending_initResync _ a

theorem progress_of_keeps_durable {α : Type} {m : NodeM α} (hm : m.Keeps Node.durable)
    : m.Keeps Node.progress := by
  intro c s hs _
  obtain ⟨hvisited, hfinal, hresult⟩ := hm s.durable s rfl trivial
  exact ⟨fun s' hs' => (progress_of_durable (hvisited s' hs')).trans hs,
    (progress_of_durable hfinal).trans hs, hresult⟩

theorem pending_prepare (hempty : ¬ cd.Places keeperUID "") (hplaces : cd.Places keeperUID db.uid)
    (hmode : db.spec.initMode = .none ∨ db.spec.initMode = .resync) (a : Answers)
    : Triple (Pending cd keeperUID before) (fun _ => True) (prepare cfg cd db a)
        (fun _ => Resynced before) := by
  apply (pending_skip Keeps.get).bind
  intro _
  apply (pending_skip keeps_liftExcept).bind
  intro _
  apply (pending_skip (keeps_setHba _)).bind
  intro _
  apply (pending_skip (progress_of_keeps_durable (keeps_setIdent _))).bind
  intro _
  apply (pending_cleanUp hempty a).bind
  intro _
  apply Triple.read
  intro s₀ hs₀ hinitialized
  apply Triple.bind (Q := fun _ => Resynced before)
  . apply triple_runIf
    . intro _
      exact (pending_initializeDB hmode a.init).weaken (fun _ _ _ => trivial) fun _ _ _ hs => hs
    . rintro huid s _ rfl
      have huid : s.keeper.dbLocalState.uid = db.uid := by simpa using huid
      exact hs₀.resynced hinitialized (huid ▸ hplaces)
  . intro _
    exact pending_keeps (keeps_applyRole _) fun _ _ heq hs => hs.congr heq

theorem pending_converge (a : ConvergeAnswers)
    : Triple (Pending cd keeperUID before) (Resynced before) (converge cfg cd db a)
        (fun _ _ => True) := by
  have hkeep {α : Type} {m : NodeM α} (hm : m.Keeps Node.progress)
      : Triple (Pending cd keeperUID before) (Resynced before) m (fun _ => Resynced before) :=
    pending_keeps hm fun _ _ heq hs => hs.congr heq
  apply (hkeep (keeps_changeParameters _)).bind
  intro _
  apply (hkeep (keeps_checkSyncStandbys _)).bind
  intro _
  apply (hkeep Keeps.get).bind
  intro _
  apply (hkeep keeps_liftExcept).bind
  intro _
  apply (hkeep (keeps_changeHba _)).bind
  intro _
  apply (hkeep (progress_of_keeps_durable (keeps_changeIdent _))).bind
  intro _
  apply (hkeep (keeps_runIf (keeps_logged (keeps_reload _)))).bind
  intro _
  apply (hkeep (keeps_restartIfRequired _ _)).bind
  intro _
  apply Triple.read
  intro s₀ _ hresynced
  apply triple_orReturn
  apply triple_saveDBLocalState
  . rintro _ _ rfl
    -- The saved state has the UID of the one before.
    exact ⟨Resynced.pending hresynced, fun _ => trivial⟩
  . exact fun _ _ _ _ => trivial

def Reads (cd : ClusterData) (_ : Node) (read : Option (Option ClusterData)) (_ : Answers) : Prop :=
  read = none ∨ read = some (some cd)

theorem placed_of_managedDB {s : Node} {order : VisitOrder String} (hassigned : cd.Assigned)
    (h : s.managedDB cd order = some db)
    : (∃ (uid : String), cd.dbs[uid]? = some db)
        ∧
      cd.Places s.keeper.keeperLocalState.uid db.uid := by
  obtain ⟨k, hk, hfind⟩ := Option.bind_eq_some_iff.mp (assignedDB_of_managedDB h)
  obtain ⟨⟨uid, hdb⟩, hkeeper⟩ := Operations.findDB_eq_some hfind
  refine ⟨⟨uid, hdb⟩, db, ?_, hkeeper.trans (hassigned.keeperKeyed _ k hk)⟩
  rw [hassigned.keyed uid db hdb]
  exact hdb

theorem pending_postgresKeeperSM {read : Option (Option ClusterData)} {a : Answers} {s₀ : Node}
    (hassigned : cd.Assigned) (hprovisioned : cd.Provisioned)
    (hphase : cd.cluster.status.phase = .normal) (hread : Reads cd s₀ read a)
    : Triple (Pending cd keeperUID before) (fun s => s.keeper.keeperLocalState.uid = keeperUID)
        (postgresKeeperSM cfg read a) (fun _ _ => True) := by
  have hempty : ¬ cd.Places keeperUID "" := by
    rintro ⟨db, hdb, -⟩
    exact hprovisioned.ne_empty (Std.ExtTreeMap.mem_iff_isSome_getElem?.mpr (hdb ▸ rfl))
  apply triple_postgresKeeperSM
  . exact fun s s' heq hs => hs.congr (progress_of_durable (durable_of_unbound heq))
  . intro s s' heq hs
    rw [← hs]
    exact congrArg (fun s => s.keeper.keeperLocalState.uid) heq
  . exact fun s alive hs => Pending.congr (s := s) rfl hs
  . rintro cd' db rfl s hs ⟨rfl, hdb⟩
    obtain ⟨rfl⟩ : cd' = cd := by simpa [Reads] using hread
    obtain ⟨⟨uid, hmem⟩, hplaces⟩ := placed_of_managedDB hassigned hdb
    have hmode := hprovisioned.initMode hphase uid db hmem
    exact ((pending_prepare hempty hplaces hmode a).bind fun _ => pending_converge _) s hs trivial

end Tick

section Run

structure Replica where
  cd : ClusterData
  node : Node
  requested : Option (List String) := none

def Requests (keeperUID : String) : Writer → Prop
  | .command _ (.reinitializeReplica _ target) => ClusterSpec.trimSpace target = keeperUID
  | _ => False

/--
Commits, of which the requests for the keeper are only made when allowed, and what happens to the
keeper. A UID is never generated a second time, so a new database is not the one of the keeper.
-/
inductive ReplicaStep (cfg : Config) (keeperUID : String) (allowed : ClusterData → Node → Prop)
    : Replica → Replica → Prop where
  | commit {w : Writer} {cd cd' : ClusterData} {node : Node} {requested : Option (List String)}
    (hother : ¬ Requests keeperUID w) (hcommit : Commit w cd cd')
    (hunused : ∀ (uid : String), uid ∈ cd'.dbs → uid ∉ cd.dbs → uid ≠ node.keeper.dbLocalState.uid)
    : ReplicaStep cfg keeperUID allowed ⟨cd, node, requested⟩ ⟨cd', node, requested⟩
  | request {w : Writer} {cd cd' : ClusterData} {node : Node} {requested : Option (List String)}
    (hrequest : Requests keeperUID w) (hcommit : Commit w cd cd') (hallowed : allowed cd node)
    : ReplicaStep cfg keeperUID allowed ⟨cd, node, requested⟩
        ⟨cd', node, some node.data.resyncs⟩
  | keeper {cd : ClusterData} {node node' : Node} {requested : Option (List String)}
    (hstep : NodeStep cfg (Reads cd) node node')
    : ReplicaStep cfg keeperUID allowed ⟨cd, node, requested⟩ ⟨cd, node', requested⟩

structure Node.Regular (keeperUID : String) (s : Node) : Prop where
  uid : s.keeper.keeperLocalState.uid = keeperUID
  savedUID : s.savedKeeper.uid = keeperUID
  loaded : s.keeper.dbLocalState = s.savedDB.getD {}
  tidy : s.keeper.dbLocalState.Tidy

def replicaSystem (cfg : Config) (keeperUID : String) (allowed : ClusterData → Node → Prop)
    : TransitionSystem Replica where
  init r := commitSystem.init r.cd ∧ r.node.Regular keeperUID ∧ r.requested = none
  step := ReplicaStep cfg keeperUID allowed

variable {cfg : Config} {keeperUID : String}

theorem stable_regular : Stable (fun _ => True) (Node.Regular keeperUID) where
  records := by
    intro s s' heq hs
    simp only [Node.records, Prod.mk.injEq] at heq
    obtain ⟨-, huid, hmem, hsaved, hdisk, -⟩ := heq
    exact ⟨huid ▸ hs.uid, hsaved ▸ hs.savedUID, by rw [hmem, hdisk]; exact hs.loaded,
      hmem ▸ hs.tidy⟩
  data _ _ hs := ⟨hs.uid, hs.savedUID, hs.loaded, hs.tidy⟩
  save _ _ htidy _ hs := ⟨hs.uid, hs.savedUID, rfl, htidy⟩
  bind _ _ hs := ⟨hs.uid, hs.savedUID, hs.loaded, hs.tidy⟩
  saveKeeper _ hs := ⟨hs.uid, hs.uid, hs.loaded, hs.tidy⟩

theorem regular_postgresKeeperSM {read : Option (Option ClusterData)} {a : Answers}
    : Triple (Node.Regular keeperUID) (fun _ => True) (postgresKeeperSM cfg read a) (fun _ _ => True) :=
  stable_postgresKeeperSM stable_regular fun _ _ _ _ _ _ => trivial

theorem Node.Regular.restart {s : Node} (h : s.Regular keeperUID) (bootUUID : String) (alive : Bool)
    : (s.restart bootUUID alive).Regular keeperUID where
  uid := h.savedUID
  savedUID := h.savedUID
  loaded := rfl
  tidy := by
    have htidy := h.tidy
    rw [h.loaded] at htidy
    exact htidy

theorem Node.Regular.progress_restart {s : Node} (h : s.Regular keeperUID) (bootUUID : String)
    (alive : Bool) : (s.restart bootUUID alive).progress = s.progress := by
  unfold Node.progress
  rw [h.loaded]
  rfl

theorem regular_step {allowed : Node → Option (Option ClusterData) → Answers → Prop} {s s' : Node}
    (h : s.Regular keeperUID) (hstep : NodeStep cfg allowed s s') : s'.Regular keeperUID := by
  cases hstep with
  | tick read a ha => exact (regular_postgresKeeperSM s h trivial).2.1
  | crash read a ha s'' hs'' bootUUID alive =>
    have := regular_postgresKeeperSM.visited h trivial hs''
    exact this.restart bootUUID alive
  | died => exact stable_regular.records s _ rfl h

structure Replica.Consistent (keeperUID : String) (r : Replica) : Prop where
  reachable : commitSystem.Reachable r.cd
  regular : r.node.Regular keeperUID
  normal : ∀ (before : List String), r.requested = some before →
    r.cd.cluster.status.phase = .normal
  pending : ∀ (before : List String), r.requested = some before →
    Pending r.cd keeperUID before r.node

def Unprepared (keeperUID : String) (cd : ClusterData) (s : Node) : Prop :=
  s.keeper.dbLocalState.initializing = true
    ∨
  ∀ (uid : String) (db : DB), cd.dbs[uid]? = some db → db.spec.keeperUID = keeperUID →
    s.keeper.dbLocalState.uid ≠ uid

theorem pending_commit {w : Writer} {cd cd' : ClusterData} {s : Node} {before : List String}
    (hsound : cd.Sound) (hcommit : Commit w cd cd')
    (hunused : ∀ (uid : String), uid ∈ cd'.dbs → uid ∉ cd.dbs → uid ≠ s.keeper.dbLocalState.uid)
    (h : Pending cd keeperUID before s) : Pending cd' keeperUID before s := by
  refine ⟨h.suffix, ?_⟩
  intro hinitialized hplaces'
  rcases places_of_commit hsound hcommit hplaces' with hplaces | hnew
  . exact h.resynced hinitialized hplaces
  . obtain ⟨db, hdb, -⟩ := hplaces'
    exact absurd rfl
      (hunused _ (Std.ExtTreeMap.mem_iff_isSome_getElem?.mpr (hdb ▸ rfl)) hnew)

theorem pending_request {now : Time} {order : VisitOrder String} {target : String}
    {cd cd' : ClusterData} {s : Node} (hsound : cd.Sound)
    (hrun : Operations.reinitializeReplica order now target cd = .ok cd')
    (h : Unprepared keeperUID cd s) : Pending cd'.roundTrip keeperUID s.data.resyncs s := by
  refine ⟨List.suffix_rfl, ?_⟩
  intro hinitialized ⟨db', hdb', hkeeper⟩
  obtain ⟨newDB, hnewDB, rfl⟩ := getElem?_roundTrip hdb'
  obtain ⟨db, hdb, hsame⟩ := (Operations.command_effect (.reinitializeReplica order target)
    hsound.assigned hrun).db_cases hnewDB
  have hkeeper' : db.spec.keeperUID = keeperUID := by
    rcases hsame with rfl | ⟨-, -, rfl⟩
    . exact hkeeper
    . exact hkeeper
  rcases h with hinitializing | hother
  . rw [hinitialized] at hinitializing
    cases hinitializing
  . exact absurd rfl (hother _ db hdb hkeeper')

theorem pending_step {cd : ClusterData} {s s' : Node} {before : List String}
    (hreachable : commitSystem.Reachable cd) (hphase : cd.cluster.status.phase = .normal)
    (hregular : s.Regular keeperUID) (h : Pending cd keeperUID before s)
    (hstep : NodeStep cfg (Reads cd) s s') : Pending cd keeperUID before s' := by
  have htick {read : Option (Option ClusterData)} {a : Answers} (ha : Reads cd s read a)
      : Triple (Pending cd keeperUID before) (fun s => s.keeper.keeperLocalState.uid = keeperUID)
          (postgresKeeperSM cfg read a) (fun _ _ => True) :=
    pending_postgresKeeperSM (sound_of_commits hreachable).assigned
      (provisioned_of_commits hreachable) hphase ha
  cases hstep with
  | tick read a ha => exact (htick ha s h hregular.uid).2.1
  | crash read a ha s'' hs'' bootUUID alive =>
    have hregular' := regular_postgresKeeperSM.visited hregular trivial hs''
    have hpending := (htick ha).visited h hregular.uid hs''
    exact hpending.congr (hregular'.progress_restart bootUUID alive)
  | died => exact Pending.congr (s := s) rfl h

theorem consistent_replica (cfg : Config) (keeperUID : String)
    : (replicaSystem cfg keeperUID (Unprepared keeperUID)).Inductive
        (Replica.Consistent keeperUID) where
  init := by
    rintro ⟨cd, node, requested⟩ ⟨hinit, hregular, hnone⟩
    cases hnone
    exact ⟨.init hinit, hregular, by simp, by simp⟩
  step := by
    intro r r' h hstep
    have hsound := sound_of_commits h.reachable
    cases hstep with
    | commit hother hcommit hunused =>
      exact ⟨h.reachable.step ⟨_, hcommit⟩, h.regular,
        fun before hbefore => commit_phase hsound (h.normal before hbefore) hcommit,
        fun before hbefore => pending_commit hsound hcommit hunused (h.pending before hbefore)⟩
    | request hrequest hcommit hallowed =>
      have hreachable := h.reachable.step ⟨_, hcommit⟩
      cases hcommit with
      | check => exact hrequest.elim
      | command now c hrun =>
        cases c with
        | reinitializeReplica order target =>
          refine ⟨hreachable, h.regular, ?_, ?_⟩
          . intro _ _
            exact commit_phase hsound (normal_of_reinitializeReplica hsound hrun)
              (.command now _ hrun)
          . rintro _ ⟨rfl⟩
            exact pending_request hsound hrun hallowed
        | _ => exact hrequest.elim
    | keeper hstep =>
      exact ⟨h.reachable, regular_step h.regular hstep, h.normal,
        fun before hbefore => pending_step h.reachable (h.normal before hbefore) h.regular
          (h.pending before hbefore) hstep⟩

/--
If requests to reinitialize a replica are only made when its keeper has not set up the database yet,
or when the set-up has failed, then after a request the keeper reports the stored generation of the
database on it only after a resync of that database, also within a tick.
-/
theorem reinitialize_resyncs (cfg : Config) (keeperUID : String) (r : Replica)
    (hr : (replicaSystem cfg keeperUID (Unprepared keeperUID)).Reachable r) (before : List String)
    (hrequested : r.requested = some before) (read : Option (Option ClusterData)) (a : Answers)
    (hread : Reads r.cd r.node read a)
    : ∀ s ∈ r.node :: (postgresKeeperSM cfg read a r.node).visited, ∀ (uid : String) (db : DB),
        r.cd.dbs[uid]? = some db
          →
        db.spec.keeperUID = keeperUID
          →
        s.keeper.dbLocalState.uid = uid
          →
        s.keeper.dbLocalState.generation = db.generation
          →
        ∃ (since : List String), s.data.resyncs = since ++ before ∧ uid ∈ since := by
  rintro s hs _ db hdb hkeeper rfl hgeneration
  have hconsistent := (consistent_replica cfg keeperUID).of_reachable hr
  have hprovisioned := provisioned_of_commits hconsistent.reachable
  have hregular := regular_postgresKeeperSM.visited hconsistent.regular trivial hs
  have hpending := (pending_postgresKeeperSM (sound_of_commits hconsistent.reachable).assigned
    hprovisioned (hconsistent.normal before hrequested) hread).visited
    (hconsistent.pending before hrequested) hconsistent.regular.uid hs
  refine hpending.resynced ?_ ⟨db, hdb, hkeeper⟩
  -- A database under initialization has no generation.
  by_contra hinitializing
  have hnone := hregular.tidy (by simpa using hinitializing)
  have hinitial := hprovisioned.generation _ db hdb
  rw [← hgeneration, hnone] at hinitial
  exact absurd hinitial (by decide)

section Sample

variable {allowed : ClusterData → Node → Prop} {cd : ClusterData} {node : Node}
variable {requested : Option (List String)}

theorem replica_sampleChecked {now : Time} {used : Nat} {keepers : List KeeperInfo}
    (hlength : ∀ uid ∈ cd.dbs.keys, uid.length ≤ used)
    (hunused : ∀ uid ∈ (sampleChecked now used keepers cd).dbs.keys,
      uid ∈ cd.dbs ∨ uid ≠ node.keeper.dbLocalState.uid)
    (h : (replicaSystem cfg keeperUID allowed).Reachable ⟨cd, node, requested⟩)
    : (replicaSystem cfg keeperUID allowed).Reachable
        ⟨sampleChecked now used keepers cd, node, requested⟩ := by
  by_cases hsome : (({ lastLeadershipCount := 1 } : Sentinel).clusterSentinelCheck
      (sampleCheck now used keepers) cd).2.isSome
  . refine h.step (.commit ?_ (commit_checked (Env.fresh_simplest hlength) hsome) ?_)
    . exact not_false
    intro uid hmem hnew
    exact (hunused uid (Std.ExtTreeMap.mem_keys.mpr hmem)).resolve_left hnew
  . have hnone : sampleChecked now used keepers cd = cd := by
      simp only [Bool.not_eq_true, Option.isSome_eq_false_iff, Option.isNone_iff_eq_none] at hsome
      unfold sampleChecked checked
      rw [hsome]
    rw [hnone]
    exact h

theorem replica_request (target : String) (htarget : ClusterSpec.trimSpace target = keeperUID)
    (hok : ((Operations.Command.reinitializeReplica .stored target).run 5 cd).isOk)
    (hallowed : allowed cd node)
    (h : (replicaSystem cfg keeperUID allowed).Reachable ⟨cd, node, requested⟩)
    : (replicaSystem cfg keeperUID allowed).Reachable
        ⟨commanded 5 (.reinitializeReplica .stored target) cd, node, some node.data.resyncs⟩ := by
  refine h.step (.request ?_ (commit_commanded hok) hallowed)
  exact htarget

def sampleBooted (now : Time) (uid : String) (state : Option PostgresState) : KeeperInfo :=
  { sampleInfo now uid state with bootUUID := "boot" }

def sampleStarted : ClusterData :=
  sampleChecked 1 0 [sampleBooted 1 "k1" none, sampleBooted 1 "k2" none] sampleCreated

def sampleBootedMaster : ClusterData :=
  sampleChecked 2 1 [sampleBooted 2 "k1" (some (sampleState "d" 1)), sampleBooted 2 "k2" none]
    sampleStarted

def sampleBootedStandby : ClusterData :=
  sampleChecked 3 1 [sampleBooted 3 "k1" (some (sampleState "d" 2)), sampleBooted 3 "k2" none]
    sampleBootedMaster

def sampleFollowing : ClusterData :=
  sampleChecked 4 2
    [sampleBooted 4 "k1" (some (sampleState "d" 3)),
      sampleBooted 4 "k2" (some (sampleState "dd" 1))] sampleBootedStandby

def sampleReplica : Node where
  keeper := { bootUUID := "boot", keeperLocalState := { uid := "k2" } }
  savedKeeper := { uid := "k2" }

def sampleReplicaAnswers : Answers :=
  { sampleAnswers with
    init := { sampleAnswers.init with isInitialized := some false, systemID := none }
    role := { sampleAnswers.role with getRole := some .standby }
  }

def sampleReplicaTick (cd : ClusterData) (s : Node) : Outcome Node Exit Unit :=
  postgresKeeperSM sampleConfig (some (some cd)) sampleReplicaAnswers s

theorem replica_sampleTick (hreturned : (sampleReplicaTick cd node).result.isOk)
    (h : (replicaSystem sampleConfig keeperUID allowed).Reachable ⟨cd, node, requested⟩)
    : (replicaSystem sampleConfig keeperUID allowed).Reachable
        ⟨cd, (sampleReplicaTick cd node).final, requested⟩ := by
  refine h.step (.keeper (.tick node _ sampleReplicaAnswers (.inr rfl) ?_))
  intro hpanicked
  unfold sampleReplicaTick at hreturned
  rw [hpanicked] at hreturned
  cases hreturned

theorem replica_sampleBootedStandby
    : (replicaSystem sampleConfig "k2" allowed).Reachable ⟨sampleBootedStandby, sampleReplica, none⟩ := by
  have hregular : sampleReplica.Regular "k2" := by
    refine ⟨rfl, rfl, rfl, ?_⟩
    intro hinitializing
    cases hinitializing
  apply replica_sampleChecked (by decide +kernel) (by decide +kernel)
  apply replica_sampleChecked (by decide +kernel) (by decide +kernel)
  apply replica_sampleChecked (by decide +kernel) (by decide +kernel)
  exact .init ⟨⟨_, _, rfl⟩, hregular, rfl⟩

def sampleRequested : ClusterData :=
  commanded 5 (.reinitializeReplica .stored "k2") sampleBootedStandby

theorem reinitialize_resyncs_sample
    : ∃ (db : DB),
        sampleRequested.dbs["dd"]? = some db
          ∧
        (sampleReplicaTick sampleRequested sampleReplica).final.keeper.dbLocalState.generation
          = db.generation
          ∧
        ∃ (since : List String),
          (sampleReplicaTick sampleRequested sampleReplica).final.data.resyncs = since ++ []
            ∧
          "dd" ∈ since := by
  have hdb : sampleRequested.dbs["dd"]?.map (fun db =>
      decide (db.spec.keeperUID = "k2"
        ∧ (sampleReplicaTick sampleRequested sampleReplica).final.keeper.dbLocalState.uid = "dd"
        ∧ (sampleReplicaTick sampleRequested sampleReplica).final.keeper.dbLocalState.generation
          = db.generation)) = some true := by
    decide +kernel
  simp only [Option.map_eq_some_iff, decide_eq_true_eq] at hdb
  obtain ⟨db, hdb, hkeeper, huid, hgeneration⟩ := hdb
  have hunprepared : Unprepared "k2" sampleBootedStandby sampleReplica := by
    refine .inr ?_
    rintro _ db hdb _ rfl
    have : sampleBootedStandby.dbs[""]? = none := by decide +kernel
    exact absurd (this.symm.trans hdb) (by simp)
  have hreachable : (replicaSystem sampleConfig "k2" (Unprepared "k2")).Reachable
      ⟨sampleRequested, (sampleReplicaTick sampleRequested sampleReplica).final, some []⟩ :=
    replica_sampleTick (by decide +kernel) (replica_request "k2" (by decide +kernel)
      (by decide +kernel) hunprepared replica_sampleBootedStandby)
  exact ⟨db, hdb, hgeneration, reinitialize_resyncs sampleConfig "k2" _ hreachable [] rfl none
    sampleAnswers (.inl rfl) _ (.head _) "dd" db hdb hkeeper huid hgeneration⟩

/--
The standby is set up and converged when it is reinitialized. Its keeper goes on without a resync.
-/
theorem reinitialize_without_resync
    : ∃ (r : Replica) (db : DB),
        (replicaSystem sampleConfig "k2" (fun _ _ => True)).Reachable r
          ∧
        r.cd.dbs["dd"]? = some db
          ∧
        db.spec.keeperUID = "k2"
          ∧
        db.spec.initMode = .resync
          ∧
        r.node.keeper.dbLocalState.uid = "dd"
          ∧
        r.node.keeper.dbLocalState.generation = db.generation
          ∧
        r.requested = some r.node.data.resyncs := by
  let set := (sampleReplicaTick sampleBootedStandby sampleReplica).final
  let converged := (sampleReplicaTick sampleFollowing set).final
  let requested := commanded 5 (.reinitializeReplica .stored "k2") sampleFollowing
  let final := (sampleReplicaTick requested converged).final
  have hreachable : (replicaSystem sampleConfig "k2" (fun _ _ => True)).Reachable
      ⟨requested, final, some converged.data.resyncs⟩ := by
    apply replica_sampleTick (by decide +kernel)
    apply replica_request "k2" (by decide +kernel) (by decide +kernel) trivial
    apply replica_sampleTick (by decide +kernel)
    apply replica_sampleChecked (by decide +kernel) (by decide +kernel)
    exact replica_sampleTick (by decide +kernel) replica_sampleBootedStandby
  have hdb : requested.dbs["dd"]?.map (fun db =>
      decide (db.spec.keeperUID = "k2"
        ∧ db.spec.initMode = .resync
        ∧ final.keeper.dbLocalState.uid = "dd"
        ∧ final.keeper.dbLocalState.generation = db.generation
        ∧ converged.data.resyncs = final.data.resyncs)) = some true := by
    decide +kernel
  simp only [Option.map_eq_some_iff, decide_eq_true_eq] at hdb
  obtain ⟨db, hdb, hkeeper, hmode, huid, hgeneration, hsame⟩ := hdb
  exact ⟨_, db, hreachable, hdb, hkeeper, hmode, huid, hgeneration, congrArg some hsame⟩

end Sample

end Run

end Keeper
end Hysteron
