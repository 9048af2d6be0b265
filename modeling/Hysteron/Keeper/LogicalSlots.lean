import Hysteron.Keeper.Replication

/-!
The logical replication slots of an instance. A master creates the slots of the cluster spec and
drops the ones with a name of the cluster that the spec does not list. A standby only reports which
of them it misses, and moves the ones that it has behind the master.
-/

namespace Hysteron
namespace Keeper

structure LogicalReplicationSlot where
  name : String
  database : String := ""
  plugin : String := ""
  confirmedFlushLSN : Nat := 0
  active : Bool := false
  failover : Bool := false
  synced : Bool := false
  deriving DecidableEq

def isIgnoredLogicalSlotByMatcher (slot : LogicalReplicationSlot)
    (matchers : List ReplicationSlotMatcher) : Bool :=
  matchers.any (fun matcher =>
    (matcher.type = none || matcher.type = some .logical)
      && (matcher.name = "" || matcher.name = slot.name)
      && (matcher.database = "" || matcher.database = slot.database)
      && (matcher.plugin = "" || matcher.plugin = slot.plugin))

def desiredCurrent (desiredSlot : ManagedLogicalReplicationSlot) : LogicalReplicationSlot where
  name := desiredSlot.name
  database := desiredSlot.database
  plugin := desiredSlot.plugin

def isIgnoredDesiredSlot (desiredSlot : ManagedLogicalReplicationSlot)
    (matchers : List ReplicationSlotMatcher) : Bool :=
  isIgnoredLogicalSlotByMatcher (desiredCurrent desiredSlot) matchers

def currentByName (current : List LogicalReplicationSlot) : FinMap String LogicalReplicationSlot :=
  .ofList (current.map (fun slot => (slot.name, slot))) compare

def desiredByName (desired : List ManagedLogicalReplicationSlot)
    : FinMap String ManagedLogicalReplicationSlot :=
  .ofList (desired.map (fun slot => (slot.name, slot))) compare

def differs (currentSlot : LogicalReplicationSlot) (desiredSlot : ManagedLogicalReplicationSlot)
    : Bool :=
  currentSlot.database ≠ desiredSlot.database || currentSlot.plugin ≠ desiredSlot.plugin

structure ManagedLogicalSlotsDecision where
  create : List ManagedLogicalReplicationSlot
  drop : List String
  mismatch : List String
  active : List String

def evaluateManagedLogicalSlotsDecision (desired : List ManagedLogicalReplicationSlot)
    (current : List LogicalReplicationSlot) (ignoredSlotMatchers : List ReplicationSlotMatcher)
    : ManagedLogicalSlotsDecision :=
  let wanted := desired.filter (fun desiredSlot =>
    !isIgnoredDesiredSlot desiredSlot ignoredSlotMatchers)
  let create := wanted.filter (fun desiredSlot =>
    !(currentByName current).contains desiredSlot.name)
  let mismatch := wanted.filter (fun desiredSlot =>
    ((currentByName current)[desiredSlot.name]?).any (differs · desiredSlot))
  -- Safety-first: clean up only reserved hysteron namespace slots.
  let unmanaged := current.filter (fun currentSlot =>
    !(desiredByName desired).contains currentSlot.name
      && ClusterSpec.isHysteronName currentSlot.name
      && !isIgnoredLogicalSlotByMatcher currentSlot ignoredSlotMatchers)
  {
    create
    mismatch := Slices.sortStrings (mismatch.map ManagedLogicalReplicationSlot.name)
    drop := Slices.sortStrings
      ((unmanaged.filter (fun slot => !slot.active)).map LogicalReplicationSlot.name)
    active := Slices.sortStrings
      ((unmanaged.filter LogicalReplicationSlot.active).map LogicalReplicationSlot.name)
  }

structure ManagedLogicalSlotReadiness where
  missing : List String
  mismatch : List String

/--
Unlike the decision of a master, this one also skips the existing slots that a matcher ignores.
-/
def evaluateManagedLogicalSlotReadiness (desired : List ManagedLogicalReplicationSlot)
    (current : List LogicalReplicationSlot) (ignoredSlotMatchers : List ReplicationSlotMatcher)
    : ManagedLogicalSlotReadiness :=
  let wanted := desired.filter (fun desiredSlot =>
    !isIgnoredDesiredSlot desiredSlot ignoredSlotMatchers)
  let missing := wanted.filter (fun desiredSlot =>
    !(currentByName current).contains desiredSlot.name)
  let mismatch := wanted.filter (fun desiredSlot =>
    ((currentByName current)[desiredSlot.name]?).any (fun currentSlot =>
      !isIgnoredLogicalSlotByMatcher currentSlot ignoredSlotMatchers
        && differs currentSlot desiredSlot))
  {
    missing := Slices.sortStrings (missing.map ManagedLogicalReplicationSlot.name)
    mismatch := Slices.sortStrings (mismatch.map ManagedLogicalReplicationSlot.name)
  }

/--
What the keeper compares with the last signature that it has logged. A standby that is ready has the
empty one.
-/
def managedLogicalSlotReadinessSignature (readiness : ManagedLogicalSlotReadiness) : String :=
  "|".intercalate (Slices.sortStrings
    (readiness.missing.map ("missing:" ++ ·) ++ readiness.mismatch.map ("mismatch:" ++ ·)))

section Lemmas

variable {desired : List ManagedLogicalReplicationSlot} {current : List LogicalReplicationSlot}
  {matchers : List ReplicationSlotMatcher} {name : String}

theorem ofList_names_eq_some_iff {l : List α} {nameOf : α → String} (hnodup : (l.map nameOf).Nodup)
    {a : α}
    : (Std.ExtTreeMap.ofList (l.map (fun a => (nameOf a, a))) compare)[name]? = some a
        ↔
      a ∈ l ∧ nameOf a = name := by
  have hdistinct : (l.map (fun a => (nameOf a, a))).Pairwise
      (fun x y => ¬ compare x.1 y.1 = .eq) := by
    rw [List.pairwise_map]
    rw [List.nodup_iff_pairwise_ne, List.pairwise_map] at hnodup
    exact hnodup.imp fun h => by simpa using h
  constructor
  . intro h
    have hmem : name ∈ (Std.ExtTreeMap.ofList (l.map (fun a => (nameOf a, a))) compare) := by
      rw [Std.ExtTreeMap.mem_iff_isSome_getElem?, h]
      rfl
    simp only [Std.ExtTreeMap.mem_ofList, List.map_map, List.contains_iff_mem, List.mem_map,
      Function.comp_apply] at hmem
    obtain ⟨b, hb, hname⟩ := hmem
    have hget : (Std.ExtTreeMap.ofList (l.map (fun a => (nameOf a, a))) compare)[name]? = some b :=
      Std.ExtTreeMap.getElem?_ofList_of_mem (k := nameOf b) (by simpa using hname) hdistinct
        (List.mem_map.mpr ⟨b, hb, rfl⟩)
    rw [hget] at h
    cases h
    exact ⟨hb, hname⟩
  . rintro ⟨ha, hname⟩
    exact Std.ExtTreeMap.getElem?_ofList_of_mem (k := nameOf a) (by simpa using hname) hdistinct
      (List.mem_map.mpr ⟨a, ha, rfl⟩)

theorem currentByName_eq_some_iff
    (hcurrent : (current.map LogicalReplicationSlot.name).Nodup) {slot : LogicalReplicationSlot}
    : (currentByName current)[name]? = some slot ↔ slot ∈ current ∧ slot.name = name :=
  ofList_names_eq_some_iff hcurrent

@[simp]
theorem contains_currentByName
    : (currentByName current).contains name = false ↔ ∀ slot ∈ current, slot.name ≠ name := by
  simp [currentByName, Std.ExtTreeMap.contains_ofList]

@[simp]
theorem contains_desiredByName
    : (desiredByName desired).contains name = false ↔ ∀ slot ∈ desired, slot.name ≠ name := by
  simp [desiredByName, Std.ExtTreeMap.contains_ofList]

theorem mem_decision_create {slot : ManagedLogicalReplicationSlot}
    : slot ∈ (evaluateManagedLogicalSlotsDecision desired current matchers).create
        ↔
      slot ∈ desired
        ∧
      isIgnoredDesiredSlot slot matchers = false
        ∧
      ∀ currentSlot ∈ current, currentSlot.name ≠ slot.name := by
  simp only [evaluateManagedLogicalSlotsDecision, List.mem_filter, Bool.not_eq_true', and_assoc,
    contains_currentByName]

theorem mem_decision_mismatch (hcurrent : (current.map LogicalReplicationSlot.name).Nodup)
    : name ∈ (evaluateManagedLogicalSlotsDecision desired current matchers).mismatch
        ↔
      ∃ slot ∈ desired,
        slot.name = name
          ∧
        isIgnoredDesiredSlot slot matchers = false
          ∧
        ∃ currentSlot ∈ current, currentSlot.name = name ∧ differs currentSlot slot = true := by
  simp only [evaluateManagedLogicalSlotsDecision, Slices.mem_sortStrings, List.mem_map,
    List.mem_filter, Bool.not_eq_true', Option.any_eq_true,
    currentByName_eq_some_iff hcurrent]
  constructor
  . rintro ⟨slot, ⟨⟨hmem, hignored⟩, currentSlot, ⟨hcur, hname⟩, hdiffers⟩, rfl⟩
    exact ⟨slot, hmem, rfl, hignored, currentSlot, hcur, hname, hdiffers⟩
  . rintro ⟨slot, hmem, rfl, hignored, currentSlot, hcur, hname, hdiffers⟩
    exact ⟨slot, ⟨⟨hmem, hignored⟩, currentSlot, ⟨hcur, hname⟩, hdiffers⟩, rfl⟩

def UnmanagedLogicalSlot (desired : List ManagedLogicalReplicationSlot)
    (matchers : List ReplicationSlotMatcher) (slot : LogicalReplicationSlot) : Prop :=
  (∀ desiredSlot ∈ desired, desiredSlot.name ≠ slot.name)
    ∧
  ClusterSpec.isHysteronName slot.name = true
    ∧
  isIgnoredLogicalSlotByMatcher slot matchers = false

theorem mem_decision_drop
    : name ∈ (evaluateManagedLogicalSlotsDecision desired current matchers).drop
        ↔
      ∃ slot ∈ current,
        slot.name = name ∧ slot.active = false ∧ UnmanagedLogicalSlot desired matchers slot := by
  simp only [evaluateManagedLogicalSlotsDecision, Slices.mem_sortStrings, List.mem_map,
    List.mem_filter, Bool.and_eq_true, Bool.not_eq_true', UnmanagedLogicalSlot,
    contains_desiredByName]
  grind

theorem mem_decision_active
    : name ∈ (evaluateManagedLogicalSlotsDecision desired current matchers).active
        ↔
      ∃ slot ∈ current,
        slot.name = name ∧ slot.active = true ∧ UnmanagedLogicalSlot desired matchers slot := by
  simp only [evaluateManagedLogicalSlotsDecision, Slices.mem_sortStrings, List.mem_map,
    List.mem_filter, Bool.and_eq_true, Bool.not_eq_true', UnmanagedLogicalSlot,
    contains_desiredByName]
  grind

theorem readiness_missing
    : (evaluateManagedLogicalSlotReadiness desired current matchers).missing
        =
      Slices.sortStrings ((evaluateManagedLogicalSlotsDecision desired current matchers).create.map
        ManagedLogicalReplicationSlot.name) := rfl

theorem mem_readiness_mismatch (hcurrent : (current.map LogicalReplicationSlot.name).Nodup)
    : name ∈ (evaluateManagedLogicalSlotReadiness desired current matchers).mismatch
        ↔
      ∃ slot ∈ desired,
        slot.name = name
          ∧
        isIgnoredDesiredSlot slot matchers = false
          ∧
        ∃ currentSlot ∈ current,
          currentSlot.name = name
            ∧
          isIgnoredLogicalSlotByMatcher currentSlot matchers = false
            ∧
          differs currentSlot slot = true := by
  simp only [evaluateManagedLogicalSlotReadiness, Slices.mem_sortStrings, List.mem_map,
    List.mem_filter, Bool.not_eq_true', Option.any_eq_true, currentByName_eq_some_iff hcurrent,
    Bool.and_eq_true]
  constructor
  . rintro ⟨slot, ⟨⟨hmem, hignored⟩, currentSlot, ⟨hcur, hname⟩, hunignored, hdiffers⟩, rfl⟩
    exact ⟨slot, hmem, rfl, hignored, currentSlot, hcur, hname, hunignored, hdiffers⟩
  . rintro ⟨slot, hmem, rfl, hignored, currentSlot, hcur, hname, hunignored, hdiffers⟩
    exact ⟨slot, ⟨⟨hmem, hignored⟩, currentSlot, ⟨hcur, hname⟩, hunignored, hdiffers⟩, rfl⟩

end Lemmas

end Keeper
end Hysteron
