import Hysteron.Proxy.ReadOnly
import Hysteron.Safety.Origins

/-!
The proxies and the Kubernetes publisher select the same read-only backends. Both are compared with
one selection of databases.
-/

namespace Hysteron
namespace ReadOnly

section Selection

variable {options : ReadOnlyOptions} {cd : ClusterData} {primary db : DB}

structure IsEligible (options : ReadOnlyOptions) (primary db : DB) : Prop where
  other : db.uid ≠ primary.uid
  standby : db.spec.role = .standby
  healthy : db.status.healthy = true
  converged : db.status.currentGeneration = db.generation
  listenAddress : db.status.listenAddress ≠ ""
  port : db.status.port ≠ ""
  lag : primary.status.xLogPos ≤ db.status.xLogPos + options.maxLag

instance : Decidable (IsEligible options primary db) :=
  decidable_of_iff
    (db.uid ≠ primary.uid
      ∧ db.spec.role = .standby
      ∧ db.status.healthy = true
      ∧ db.status.currentGeneration = db.generation
      ∧ db.status.listenAddress ≠ ""
      ∧ db.status.port ≠ ""
      ∧ primary.status.xLogPos ≤ db.status.xLogPos + options.maxLag)
    ⟨fun ⟨a, b, c, d, e, f, g⟩ => ⟨a, b, c, d, e, f, g⟩,
      fun ⟨a, b, c, d, e, f, g⟩ => ⟨a, b, c, d, e, f, g⟩⟩

def eligibleDBs (options : ReadOnlyOptions) (cd : ClusterData) (primary : DB) : List DB :=
  (Slices.sortStrings cd.dbs.keys).filterMap fun dbUID =>
    cd.dbs[dbUID]?.filter (fun db => IsEligible options primary db)

def isSync (primary db : DB) : Bool := db.uid ∈ primary.status.synchronousStandbys.elems

def selectedDBs (options : ReadOnlyOptions) (cd : ClusterData) (primary : DB) : List DB :=
  let eligible := eligibleDBs options cd primary
  let standbys := selectPriority options.replicaPriority (eligible.filter (isSync primary))
    (eligible.filter (fun db => !isSync primary db))
  if options.includePrimary || standbys.isEmpty && !options.noFallback then
    standbys ++ [primary]
  else
    standbys

theorem not_skipped_iff
    : (¬db.uid = primary.uid
        ∧
      ¬(db.spec.role ≠ .standby ∨ ¬dbStatusEligible db)
        ∧
      ¬xLogLag primary.status.xLogPos db.status.xLogPos > options.maxLag)
        ↔
      IsEligible options primary db := by
  have hlag : ¬xLogLag primary.status.xLogPos db.status.xLogPos > options.maxLag
      ↔ primary.status.xLogPos ≤ db.status.xLogPos + options.maxLag := by
    unfold xLogLag
    split <;> omega
  rw [hlag]
  simp only [dbStatusEligible, Bool.and_eq_true, decide_eq_true_eq, not_or, not_not, ne_eq]
  constructor
  . rintro ⟨hother, ⟨hrole, ⟨⟨hhealthy, hconverged⟩, haddress⟩, hport⟩, hlag⟩
    exact ⟨hother, hrole, hhealthy, hconverged, haddress, hport, hlag⟩
  . rintro ⟨hother, hrole, hhealthy, hconverged, haddress, hport, hlag⟩
    exact ⟨hother, ⟨hrole, ⟨⟨hhealthy, hconverged⟩, haddress⟩, hport⟩, hlag⟩

theorem mem_eligibleDBs
    : db ∈ eligibleDBs options cd primary
        ↔
      ∃ (dbUID : String), cd.dbs[dbUID]? = some db ∧ IsEligible options primary db := by
  simp only [eligibleDBs, List.mem_filterMap, Slices.mem_sortStrings, Std.ExtTreeMap.mem_keys,
    Option.filter_eq_some_iff, decide_eq_true_eq]
  refine exists_congr fun dbUID => and_iff_right_of_imp fun h => ?_
  simp [Std.ExtTreeMap.mem_iff_isSome_getElem?, h.1]

def candidateStep (options : ReadOnlyOptions) (cd : ClusterData) (primary : DB)
    (destination : DB → Option α) (candidates : List α × List α) (dbUID : String)
    : List α × List α :=
  match cd.dbs[dbUID]? with
  | none => (candidates.1, candidates.2)
  | some db =>
    if db.uid = primary.uid then
      (candidates.1, candidates.2)
    else if db.spec.role ≠ .standby ∨ ¬dbStatusEligible db then
      (candidates.1, candidates.2)
    else if xLogLag primary.status.xLogPos db.status.xLogPos > options.maxLag then
      (candidates.1, candidates.2)
    else
      match destination db with
      | none => (candidates.1, candidates.2)
      | some dest =>
        if db.uid ∈ primary.status.synchronousStandbys.elems then
          (candidates.1 ++ [dest], candidates.2)
        else
          (candidates.1, candidates.2 ++ [dest])

section Loop

variable {destination : DB → Option α} {f : DB → α}

theorem candidateStep_eq (hdestination : ∀ (dbUID : String) (db : DB),
      cd.dbs[dbUID]? = some db → destination db = some (f db))
    (candidates : List α × List α) (dbUID : String)
    : candidateStep options cd primary destination candidates dbUID
        =
      match cd.dbs[dbUID]?.filter (fun db => IsEligible options primary db) with
      | none => candidates
      | some db =>
        if isSync primary db then
          (candidates.1 ++ [f db], candidates.2)
        else
          (candidates.1, candidates.2 ++ [f db]) := by
  unfold candidateStep
  cases hdb : cd.dbs[dbUID]? with
  | none => rfl
  | some db =>
    dsimp only
    by_cases heligible : IsEligible options primary db
    . obtain ⟨hother, hstatus, hlag⟩ := not_skipped_iff.mpr heligible
      have hfilter : (some db).filter (fun db => IsEligible options primary db) = some db := by
        simp [Option.filter, heligible]
      rw [if_neg hother, if_neg hstatus, if_neg hlag, hdestination dbUID db hdb, hfilter]
      simp [isSync]
    . have hfilter : (some db).filter (fun db => IsEligible options primary db) = none := by
        simp [Option.filter, heligible]
      rw [hfilter]
      have hskipped := mt not_skipped_iff.mp heligible
      split
      . rfl
      split
      . rfl
      split
      . rfl
      . next hother hstatus hlag => exact absurd ⟨hother, hstatus, hlag⟩ hskipped

theorem foldl_candidateStep (hdestination : ∀ (dbUID : String) (db : DB),
      cd.dbs[dbUID]? = some db → destination db = some (f db))
    (candidates : List α × List α) (dbUIDs : List String)
    : dbUIDs.foldl (candidateStep options cd primary destination) candidates
        =
      let eligible := dbUIDs.filterMap fun dbUID =>
        cd.dbs[dbUID]?.filter (fun db => IsEligible options primary db)
      (candidates.1 ++ (eligible.filter (isSync primary)).map f,
        candidates.2 ++ (eligible.filter (fun db => !isSync primary db)).map f) := by
  induction dbUIDs generalizing candidates with
  | nil => simp
  | cons dbUID dbUIDs ih =>
    rw [List.foldl_cons, ih, candidateStep_eq hdestination, List.filterMap_cons]
    cases cd.dbs[dbUID]?.filter (fun db => IsEligible options primary db) with
    | none => rfl
    | some db => cases hsync : isSync primary db <;> simp [hsync]

theorem candidates_eq (hdestination : ∀ (dbUID : String) (db : DB),
      cd.dbs[dbUID]? = some db → destination db = some (f db))
    (order : VisitOrder String)
    : (Slices.sortStrings (order.visit cd.dbs.keys)).foldl
          (candidateStep options cd primary destination) ([], [])
        =
      (((eligibleDBs options cd primary).filter (isSync primary)).map f,
        ((eligibleDBs options cd primary).filter (fun db => !isSync primary db)).map f) := by
  rw [Slices.sortStrings_eq_iff_perm.mpr (order.perm cd.dbs.keys),
    foldl_candidateStep hdestination]
  simp [eligibleDBs]

theorem selectPriority_map (priority : ReplicaPriority) (syncStandbys asyncStandbys : List DB)
    : selectPriority priority (syncStandbys.map f) (asyncStandbys.map f)
        =
      (selectPriority priority syncStandbys asyncStandbys).map f := by
  cases priority with
  | any => simp [selectPriority]
  | sync | async | unknown =>
    simp only [selectPriority, List.length_map]
    split <;> rfl

end Loop

theorem selectPriority_filter_eq_nil_iff (priority : ReplicaPriority) (eligible : List DB)
    (p : DB → Bool)
    : selectPriority priority (eligible.filter p) (eligible.filter (fun db => !p db)) = []
        ↔
      eligible = [] := by
  have hnil : eligible.filter p = [] ∧ eligible.filter (fun db => !p db) = [] ↔ eligible = [] := by
    constructor
    . rintro ⟨hin, hout⟩
      refine List.eq_nil_iff_forall_not_mem.mpr fun db hdb => ?_
      cases hp : p db with
      | true => exact List.filter_eq_nil_iff.mp hin db hdb hp
      | false => exact List.filter_eq_nil_iff.mp hout db hdb (by simp [hp])
    . rintro rfl
      exact ⟨rfl, rfl⟩
  rw [← hnil]
  cases priority with
  | any => simp [selectPriority]
  | async =>
    simp only [selectPriority]
    split
    . next h => simp [List.ne_nil_of_length_pos h]
    . next h => simp [List.eq_nil_of_length_eq_zero (Nat.eq_zero_of_not_pos h)]
  | sync | unknown =>
    simp only [selectPriority]
    split
    . next h => simp [List.ne_nil_of_length_pos h]
    . next h => simp [List.eq_nil_of_length_eq_zero (Nat.eq_zero_of_not_pos h)]

theorem mem_of_mem_selectPriority {priority : ReplicaPriority} {eligible : List DB}
    {p : DB → Bool}
    (h : db ∈ selectPriority priority (eligible.filter p) (eligible.filter (fun db => !p db)))
    : db ∈ eligible := by
  cases priority with
  | any =>
    obtain h | h := List.mem_append.mp h
    . exact List.mem_of_mem_filter h
    . exact List.mem_of_mem_filter h
  | sync | async | unknown =>
    simp only [selectPriority] at h
    split at h
    . exact List.mem_of_mem_filter h
    . exact List.mem_of_mem_filter h

end Selection

section Pools

variable {options : ReadOnlyOptions} {order : VisitOrder String} {resolver : Resolver}
  {cd : ClusterData} {primary db : DB}

structure HasLiteralAddress (db : DB) : Prop where
  address : (NetAddr.parseIP db.status.listenAddress.toList).isSome = true
  port : ∃ (n : Int), NetAddr.parseInt32 db.status.port.toList = some n ∧ 1 ≤ n ∧ n ≤ 65535

def backend (db : DB) : List Nat × Int :=
  ((NetAddr.parseIP db.status.listenAddress.toList).getD [],
    (NetAddr.parseInt32 db.status.port.toList).getD 0)

def tcpAddr (db : DB) : NetAddr.TCPAddr := { ip := (backend db).1, port := (backend db).2.toNat }

def kubeEndpoint (db : DB) : KubeEndpoint := { address := (backend db).1, port := (backend db).2 }

theorem resolve_eq (h : HasLiteralAddress db)
    : ClusterChecker.resolve resolver db = some (tcpAddr db) := by
  obtain ⟨haddress, n, hport, hlower, hupper⟩ := h
  obtain ⟨groups, hgroups⟩ := Option.isSome_iff_exists.mp haddress
  rw [ClusterChecker.resolve, NetAddr.resolveTCPAddr_joinHostPort _ _ hgroups hport hlower hupper]
  simp [tcpAddr, backend, hgroups, hport]

theorem endpointFromDB_eq (h : HasLiteralAddress db)
    : KubeServicePublisher.endpointFromDB db = some (kubeEndpoint db) := by
  obtain ⟨haddress, n, hport, hlower, hupper⟩ := h
  obtain ⟨groups, hgroups⟩ := Option.isSome_iff_exists.mp haddress
  have haddress : db.status.listenAddress ≠ "" := by
    intro hempty
    rw [hempty] at hgroups
    cases hgroups
  have hne : db.status.port ≠ "" := by
    intro hempty
    rw [hempty] at hport
    cases hport
  rw [KubeServicePublisher.endpointFromDB, if_neg (by simp [haddress, hne]), hgroups, hport]
  dsimp only
  rw [if_neg (by omega)]
  simp [kubeEndpoint, backend, hgroups, hport]

theorem checker_candidates_eq_foldl
    : ClusterChecker.readOnlyStandbyCandidates resolver options order cd primary
        =
      (Slices.sortStrings (order.visit cd.dbs.keys)).foldl
        (candidateStep options cd primary (fun db =>
          ClusterChecker.readOnlyDestinationFromDB resolver db
            (xLogLag primary.status.xLogPos db.status.xLogPos))) ([], []) := by
  rw [ClusterChecker.readOnlyStandbyCandidates]
  congr 1
  funext ⟨syncStandbys, asyncStandbys⟩ dbUID
  unfold candidateStep
  cases cd.dbs[dbUID]? with
  | none => rfl
  | some db =>
    dsimp only
    cases ClusterChecker.readOnlyDestinationFromDB resolver db _ <;> rfl

theorem publisher_candidates_eq_foldl
    : KubeServicePublisher.readOnlyStandbyCandidates options order cd primary
        =
      (Slices.sortStrings (order.visit cd.dbs.keys)).foldl
        (candidateStep options cd primary KubeServicePublisher.endpointFromDB) ([], []) := by
  rw [KubeServicePublisher.readOnlyStandbyCandidates]
  congr 1
  funext ⟨syncStandbys, asyncStandbys⟩ dbUID
  unfold candidateStep
  cases cd.dbs[dbUID]? with
  | none => rfl
  | some db =>
    dsimp only
    cases KubeServicePublisher.endpointFromDB db <;> rfl

theorem readOnlyDestinationFromDB_eq (h : HasLiteralAddress db) (lag : Nat)
    : ClusterChecker.readOnlyDestinationFromDB resolver db lag
        =
      some { dbuid := db.uid, addr := tcpAddr db, lag } := by
  rw [ClusterChecker.readOnlyDestinationFromDB, resolve_eq h, Option.map_some]

theorem readOnlyDestinations_eq
    (hliteral : ∀ (dbUID : String) (db : DB), cd.dbs[dbUID]? = some db → HasLiteralAddress db)
    (hprimary : HasLiteralAddress primary)
    : ClusterChecker.readOnlyDestinations resolver options order cd primary
        =
      (selectedDBs options cd primary).map tcpAddr := by
  unfold ClusterChecker.readOnlyDestinations
  rw [checker_candidates_eq_foldl,
    candidates_eq (fun dbUID db hdb => readOnlyDestinationFromDB_eq (hliteral dbUID db hdb) _)]
  dsimp only
  rw [selectPriority_map, readOnlyDestinationFromDB_eq hprimary, selectedDBs]
  generalize selectPriority _ _ _ = standbys
  cases standbys <;> cases options.includePrimary <;> cases options.noFallback <;> simp

theorem readOnlyEndpoints_eq
    (hliteral : ∀ (dbUID : String) (db : DB), cd.dbs[dbUID]? = some db → HasLiteralAddress db)
    (hprimary : HasLiteralAddress primary)
    (hprimaryDB : KubeServicePublisher.primaryDB cd = some primary)
    : KubeServicePublisher.readOnlyEndpoints options order cd
        =
      (selectedDBs options cd primary).map kubeEndpoint := by
  unfold KubeServicePublisher.readOnlyEndpoints
  rw [hprimaryDB]
  dsimp only
  rw [publisher_candidates_eq_foldl,
    candidates_eq (fun dbUID db hdb => endpointFromDB_eq (hliteral dbUID db hdb))]
  dsimp only
  rw [selectPriority_map, endpointFromDB_eq hprimary, selectedDBs]
  generalize selectPriority _ _ _ = standbys
  cases standbys <;> cases options.includePrimary <;> cases options.noFallback <;> simp

def MayServe (options : ReadOnlyOptions) (cd : ClusterData) (address : List Nat × Int) : Prop :=
  ∃ (primary : DB),
    cd.dbs[cd.proxy.spec.masterDBUID]? = some primary
      ∧
    ((∃ (dbUID : String) (db : DB),
        cd.dbs[dbUID]? = some db ∧ IsEligible options primary db ∧ address = backend db)
      ∨
    (address = backend primary
      ∧
    (options.includePrimary = true
      ∨
    (options.noFallback = false
      ∧
    ∀ (dbUID : String) (db : DB), cd.dbs[dbUID]? = some db → ¬IsEligible options primary db))))

structure PoolsAgree (options : ReadOnlyOptions) (cd : ClusterData)
    (destinations : List NetAddr.TCPAddr) (endpoints : List KubeEndpoint) : Prop where
  same : destinations.map (fun addr => (addr.ip, (addr.port : Int)))
    = endpoints.map (fun endpoint => (endpoint.address, endpoint.port))
  destinations : ∀ addr ∈ destinations, MayServe options cd (addr.ip, addr.port)
  endpoints : ∀ endpoint ∈ endpoints, MayServe options cd (endpoint.address, endpoint.port)

/--
Without a writable database nothing is selected: the proxies do not check for an empty UID, so none
may be stored under it unless nothing would be selected anyway.
-/
def EmptyUIDUnused (options : ReadOnlyOptions) (cd : ClusterData) : Prop :=
  cd.proxy.spec.masterDBUID = "" →
    ∀ (primary : DB), cd.dbs[""]? = some primary →
      options.includePrimary = false
        ∧
      options.noFallback = true
        ∧
      ∀ (dbUID : String) (db : DB), cd.dbs[dbUID]? = some db → ¬IsEligible options primary db

theorem mem_selectedDBs (hdb : db ∈ selectedDBs options cd primary)
    : (∃ (dbUID : String), cd.dbs[dbUID]? = some db ∧ IsEligible options primary db)
        ∨
      (db = primary
        ∧
      (options.includePrimary = true
        ∨
      (options.noFallback = false
        ∧
      ∀ (dbUID : String) (db : DB), cd.dbs[dbUID]? = some db → ¬IsEligible options primary db))) := by
  unfold selectedDBs at hdb
  dsimp only at hdb
  split at hdb
  . next hpolicy =>
    obtain hdb | hdb := List.mem_append.mp hdb
    . exact .inl (mem_eligibleDBs.mp (mem_of_mem_selectPriority hdb))
    . refine .inr ⟨List.mem_singleton.mp hdb, ?_⟩
      simp only [Bool.or_eq_true, Bool.and_eq_true, List.isEmpty_iff, Bool.not_eq_true'] at hpolicy
      refine hpolicy.imp_right fun ⟨hempty, hfallback⟩ => ⟨hfallback, fun dbUID db' hdb' h => ?_⟩
      have hmem := mem_eligibleDBs.mpr ⟨dbUID, hdb', h⟩
      rw [(selectPriority_filter_eq_nil_iff _ _ _).mp hempty] at hmem
      cases hmem
  . exact .inl (mem_eligibleDBs.mp (mem_of_mem_selectPriority hdb))

theorem mayServe_of_mem_selectedDBs (hprimary : cd.dbs[cd.proxy.spec.masterDBUID]? = some primary)
    (hdb : db ∈ selectedDBs options cd primary) : MayServe options cd (backend db) := by
  refine ⟨primary, hprimary, (mem_selectedDBs hdb).imp ?_ ?_⟩
  . rintro ⟨dbUID, hget, h⟩
    exact ⟨dbUID, db, hget, h, rfl⟩
  . rintro ⟨rfl, hpolicy⟩
    exact ⟨rfl, hpolicy⟩

theorem backend_tcpAddr (h : HasLiteralAddress db)
    : ((tcpAddr db).ip, ((tcpAddr db).port : Int)) = backend db := by
  obtain ⟨-, n, hport, hlower, -⟩ := h
  simp only [tcpAddr, backend, hport, Option.getD_some, Prod.mk.injEq, true_and]
  omega

theorem selectedDBs_eq_nil_iff
    : selectedDBs options cd primary = []
        ↔
      options.includePrimary = false
        ∧
      options.noFallback = true
        ∧
      ∀ (dbUID : String) (db : DB), cd.dbs[dbUID]? = some db → ¬IsEligible options primary db := by
  have hnone : eligibleDBs options cd primary = []
      ↔ ∀ (dbUID : String) (db : DB), cd.dbs[dbUID]? = some db → ¬IsEligible options primary db := by
    simp only [List.eq_nil_iff_forall_not_mem, mem_eligibleDBs, not_exists, not_and]
    exact forall_comm
  rw [← hnone, ← selectPriority_filter_eq_nil_iff options.replicaPriority
    (eligibleDBs options cd primary) (isSync primary), selectedDBs]
  generalize selectPriority _ _ _ = standbys
  cases standbys <;> cases options.includePrimary <;> cases options.noFallback <;> simp

theorem poolsAgree_iff (options : ReadOnlyOptions) (resolver : Resolver)
    (order order' : VisitOrder String) (cd : ClusterData)
    (hliteral : ∀ (dbUID : String) (db : DB), cd.dbs[dbUID]? = some db → HasLiteralAddress db)
    : PoolsAgree options cd (ClusterChecker.checkReadOnly resolver options order cd)
          (KubeServicePublisher.readOnlyEndpoints options order' cd)
        ↔
      EmptyUIDUnused options cd := by
  have hchecker (primary : DB) (hprimary : cd.dbs[cd.proxy.spec.masterDBUID]? = some primary)
      : ClusterChecker.checkReadOnly resolver options order cd
        = (selectedDBs options cd primary).map tcpAddr := by
    have hprimaryLiteral := hliteral _ _ hprimary
    rw [ClusterChecker.checkReadOnly, hprimary]
    dsimp only
    rw [resolve_eq hprimaryLiteral]
    exact readOnlyDestinations_eq hliteral hprimaryLiteral
  cases hprimary : cd.dbs[cd.proxy.spec.masterDBUID]? with
  | none =>
    have hdestinations : ClusterChecker.checkReadOnly resolver options order cd = [] := by
      rw [ClusterChecker.checkReadOnly, hprimary]
    have hendpoints : KubeServicePublisher.readOnlyEndpoints options order' cd = [] := by
      simp [KubeServicePublisher.readOnlyEndpoints, KubeServicePublisher.primaryDB, hprimary]
    rw [hdestinations, hendpoints]
    refine iff_of_true ⟨rfl, by simp, by simp⟩ fun hempty primary hget => ?_
    rw [hempty, hget] at hprimary
    cases hprimary
  | some primary =>
    have hliteral' : ∀ db ∈ selectedDBs options cd primary, HasLiteralAddress db := by
      intro db hdb
      obtain ⟨dbUID, hget, -⟩ | ⟨rfl, -⟩ := mem_selectedDBs hdb
      . exact hliteral dbUID db hget
      . exact hliteral _ _ hprimary
    have hserve : ∀ addr ∈ (selectedDBs options cd primary).map tcpAddr,
        MayServe options cd (addr.ip, addr.port) := by
      intro addr haddr
      obtain ⟨db, hdb, rfl⟩ := List.mem_map.mp haddr
      rw [backend_tcpAddr (hliteral' db hdb)]
      exact mayServe_of_mem_selectedDBs hprimary hdb
    rw [hchecker primary hprimary]
    by_cases hempty : cd.proxy.spec.masterDBUID = ""
    . have hendpoints : KubeServicePublisher.readOnlyEndpoints options order' cd = [] := by
        simp [KubeServicePublisher.readOnlyEndpoints, KubeServicePublisher.primaryDB, hempty]
      have hunused : EmptyUIDUnused options cd ↔ selectedDBs options cd primary = [] := by
        rw [hempty] at hprimary
        rw [selectedDBs_eq_nil_iff, EmptyUIDUnused, hprimary]
        simp [hempty]
      rw [hendpoints, hunused]
      constructor
      . exact fun h => by simpa using h.same
      . exact fun h => ⟨by rw [h]; rfl, hserve, by simp⟩
    . have hprimaryDB : KubeServicePublisher.primaryDB cd = some primary := by
        rw [KubeServicePublisher.primaryDB, if_neg hempty, hprimary]
      rw [readOnlyEndpoints_eq hliteral (hliteral _ _ hprimary) hprimaryDB]
      refine iff_of_true ⟨?_, hserve, fun endpoint hendpoint => ?_⟩ (fun h => absurd h hempty)
      . rw [List.map_map, List.map_map]
        exact List.map_congr_left fun db hdb => backend_tcpAddr (hliteral' db hdb)
      . obtain ⟨db, hdb, rfl⟩ := List.mem_map.mp hendpoint
        exact mayServe_of_mem_selectedDBs hprimary hdb

/--
The proxies and the publisher agree on the read-only backends of all cluster data without a database
under the empty UID, and so on those of every stored version.
-/
theorem pools_agree (options : ReadOnlyOptions) (resolver : Resolver)
    (order order' : VisitOrder String)
    : (∀ (cd : ClusterData),
        (∀ (dbUID : String) (db : DB), cd.dbs[dbUID]? = some db → HasLiteralAddress db)
          →
        "" ∉ cd.dbs
          →
        PoolsAgree options cd (ClusterChecker.checkReadOnly resolver options order cd)
          (KubeServicePublisher.readOnlyEndpoints options order' cd))
        ∧
      ∀ (cd : ClusterData),
        commitSystem.Reachable cd
          →
        (∀ (dbUID : String) (db : DB), cd.dbs[dbUID]? = some db → HasLiteralAddress db)
          →
        PoolsAgree options cd (ClusterChecker.checkReadOnly resolver options order cd)
          (KubeServicePublisher.readOnlyEndpoints options order' cd) := by
  have hagree (cd : ClusterData)
      (hliteral : ∀ (dbUID : String) (db : DB), cd.dbs[dbUID]? = some db → HasLiteralAddress db)
      (hunused : "" ∉ cd.dbs)
      : PoolsAgree options cd (ClusterChecker.checkReadOnly resolver options order cd)
          (KubeServicePublisher.readOnlyEndpoints options order' cd) := by
    apply (poolsAgree_iff options resolver order order' cd hliteral).mpr
    intro _ primary hprimary
    rw [Std.ExtTreeMap.mem_iff_isSome_getElem?, hprimary] at hunused
    exact absurd rfl hunused
  exact ⟨hagree, fun cd hreach hliteral =>
    hagree cd hliteral (provisioned_of_commits hreach).ne_empty⟩

section Sample

def sampleListening (uid : String) (generation : Int) (listenAddress : String) (xLogPos : Nat)
    : PostgresState :=
  { sampleState uid generation with listenAddress, port := "5432", xLogPos }

def sampleListeningPair : ClusterData :=
  sampleChecked 5 2 [sampleInfo 5 "k1" (some (sampleListening "d" 3 "10.0.0.1" 1000)),
    sampleInfo 5 "k2" (some (sampleListening "dd" 2 "fd00::2" 900))]
    (sampleReplicated { initMode := some .new })

theorem sampleListeningPair_selects
    : sampleListeningPair.dbs.toList.map
        (fun entry => (entry.1, entry.2.status.listenAddress, entry.2.status.port))
        = [("d", "10.0.0.1", "5432"), ("dd", "fd00::2", "5432")]
        ∧
      (KubeServicePublisher.readOnlyEndpoints { maxLag := 100 } .stored
        sampleListeningPair).length = 1 := by
  decide +kernel

theorem hasLiteralAddress_sampleListeningPair (dbUID : String) (db : DB)
    (hdb : sampleListeningPair.dbs[dbUID]? = some db) : HasLiteralAddress db := by
  have hmem := List.mem_map_of_mem
    (f := fun entry : String × DB => (entry.1, entry.2.status.listenAddress, entry.2.status.port))
    (Std.ExtTreeMap.mem_toList_iff_getElem?_eq_some.mpr hdb)
  rw [sampleListeningPair_selects.1] at hmem
  simp only [List.mem_cons, List.not_mem_nil, or_false, Prod.mk.injEq] at hmem
  obtain ⟨-, haddress, hport⟩ | ⟨-, haddress, hport⟩ := hmem
  . exact ⟨by rw [haddress]; decide +kernel, 5432, by rw [hport]; decide +kernel, by decide, by decide⟩
  . exact ⟨by rw [haddress]; decide +kernel, 5432, by rw [hport]; decide +kernel, by decide, by decide⟩

theorem pools_agree_sample
    : PoolsAgree { maxLag := 100 } sampleListeningPair
        (ClusterChecker.checkReadOnly ⟨fun _ => none, fun _ => none⟩ { maxLag := 100 } .stored
          sampleListeningPair)
        (KubeServicePublisher.readOnlyEndpoints { maxLag := 100 } .stored sampleListeningPair)
        ∧
      (KubeServicePublisher.readOnlyEndpoints { maxLag := 100 } .stored
        sampleListeningPair).length = 1 := by
  have hreach : commitSystem.Reachable sampleListeningPair :=
    reachable_sampleChecked (by decide +kernel) reachable_sampleReplicated
  exact ⟨(pools_agree _ _ _ _).2 _ hreach hasLiteralAddress_sampleListeningPair,
    sampleListeningPair_selects.2⟩

def samplePools : ClusterData where
  formatVersion := 1
  cluster := { uid := "cluster", generation := 1, spec := {}, status := { phase := .normal } }
  keepers := ∅
  dbs := ((∅ : FinMap String DB).insert "" {
      uid := ""
      generation := 1
      spec := { keeperUID := "keeper1", initMode := .none, role := .master }
      status := {
        listenAddress := "10.0.0.1"
        port := "5432"
        currentGeneration := 1
        healthy := true
        xLogPos := 1000
      }
    }).insert "standby" {
      uid := "standby"
      generation := 1
      spec := { keeperUID := "keeper2", initMode := .none, role := .standby }
      status := {
        listenAddress := "fd00::2"
        port := "5432"
        currentGeneration := 1
        healthy := true
        xLogPos := 900
      }
    }
  proxy := { spec := { masterDBUID := "" } }

/--
With a master that has no UID the proxies select the standby and the publisher nothing.
-/
theorem proxies_select_without_master
    : (∀ (dbUID : String) (db : DB), samplePools.dbs[dbUID]? = some db → HasLiteralAddress db)
        ∧
      ClusterChecker.checkReadOnly ⟨fun _ => none, fun _ => none⟩ { maxLag := 100 } .stored samplePools
        = [{ ip := [0xfd00, 0, 0, 0, 0, 0, 0, 2], port := 5432 }]
        ∧
      KubeServicePublisher.readOnlyEndpoints { maxLag := 100 } .stored samplePools = [] := by
  refine ⟨?_, by decide +kernel, by decide +kernel⟩
  intro dbUID db h
  simp only [samplePools, Std.ExtTreeMap.getElem?_insert, compare_eq_iff_eq] at h
  split at h
  . cases h
    exact ⟨by decide +kernel, 5432, by decide +kernel, by decide, by decide⟩
  split at h
  . cases h
    exact ⟨by decide +kernel, 5432, by decide +kernel, by decide, by decide⟩
  . simp at h

end Sample

end Pools

end ReadOnly
end Hysteron
