import Hysteron.Keeper.Settings

/-!
The physical replication slots of an instance. The keeper manages the ones of the followers of its
database and the additional ones of the cluster spec. A slot with a name of the cluster that it does
not manage is dropped, at once or after the time for which the slots of former members are retained.
-/

namespace Hysteron
namespace Keeper

structure PhysicalReplicationSlot where
  name : String
  active : Bool := false
  hasXmin : Bool := false
  deriving DecidableEq

def nameFromHysteronName (name : String) : String :=
  if ClusterSpec.isHysteronName name then
    String.ofList (name.toList.drop ClusterSpec.hysteronPrefix.length)
  else
    name

def isIgnoredPhysicalSlotByMatcher (slotName : String) (matchers : List ReplicationSlotMatcher)
    : Bool :=
  matchers.any (fun matcher =>
    (matcher.type = none || matcher.type = some .physical)
      && (matcher.name = "" || matcher.name = slotName)
      && matcher.database = "" && matcher.plugin = "")

def isIgnoredSlot (slot : String) (ignoredReplSlots : List String)
    (matchers : List ReplicationSlotMatcher) : Bool :=
  ignoredReplSlots.contains slot || isIgnoredPhysicalSlotByMatcher slot matchers

def managedReplicationSlots (uid : String) (followersUIDs additionalReplSlots : List String)
    (ignoredReplSlots : List String) (matchers : List ReplicationSlotMatcher) : FinSet String :=
  let followerSlots := (followersUIDs.filter (· ≠ uid)).map hysteronName
  let additionalSlots := additionalReplSlots.map hysteronName
  .ofList ((followerSlots ++ additionalSlots).filter
    (fun slot => !isIgnoredSlot slot ignoredReplSlots matchers)) compare

inductive SlotDecision where
  | ttlDisabled
  | awaitingOrphanTracking
  | notTrackedOrphan
  | ttlNotElapsed
  | slotStateMissing
  | slotActive
  | slotHasXmin
  | ttlElapsed
  deriving DecidableEq

def SlotDecision.shouldDrop : SlotDecision → Bool
  | .ttlDisabled | .notTrackedOrphan | .ttlElapsed => true
  | .awaitingOrphanTracking | .ttlNotElapsed | .slotStateMissing | .slotActive | .slotHasXmin => false

/--
What becomes of an unmanaged slot. The sentinel tracks since when it is an orphan. The slot of a known
database that is not tracked yet is kept, any other slot that is not tracked is dropped at once.
-/
def shouldDropUnmanagedHysteronSlot (slot : String) (memberSlotTTL : Duration)
    (orphanMemberSlots : FinMap String Time)
    (physicalSlotState : FinMap String PhysicalReplicationSlot) (knownDBUIDs : List String)
    (now : Time) : SlotDecision :=
  if memberSlotTTL ≤ 0 then
    .ttlDisabled
  else if ClusterSpec.isHysteronName slot && knownDBUIDs.contains (nameFromHysteronName slot)
      && !orphanMemberSlots.contains slot then
    .awaitingOrphanTracking
  else
    match orphanMemberSlots[slot]? with
    | none => .notTrackedOrphan
    | some orphanSince =>
      if now - orphanSince < memberSlotTTL then
        .ttlNotElapsed
      else
        match physicalSlotState[slot]? with
        | none => .slotStateMissing
        | some slotState =>
          if slotState.active then
            .slotActive
          else if slotState.hasXmin then
            .slotHasXmin
          else
            .ttlElapsed

def unmanagedReplicationSlots (curReplSlots : List String) (db : DB) : List String :=
  let ignoredReplSlots := db.spec.ignoreReplicationSlots.elems
  let matchers := db.spec.ignoreReplicationSlotMatchers.elems
  let internalReplSlots := managedReplicationSlots db.uid db.spec.followers.elems
    db.spec.additionalReplicationSlots.elems ignoredReplSlots matchers
  curReplSlots.filter (fun slot =>
    ClusterSpec.isHysteronName slot && !isIgnoredSlot slot ignoredReplSlots matchers
      && !internalReplSlots.contains slot)

def createReplicationSlots (createOK : String → Bool) : List String → List String × Bool
  | [] => ([], true)
  | slot :: slots =>
    if createOK slot then
      let (requested, ok) := createReplicationSlots createOK slots
      (slot :: requested, ok)
    else
      ([slot], false)

/--
The slots whose drop and whose creation have been requested, and whether there was an error. A drop
that fails is no error.
-/
structure SlotRequests where
  dropped : List String
  created : List String
  ok : Bool
  deriving DecidableEq

def updateReplSlots (now : Time) (order : VisitOrder String) (createOK : String → Bool)
    (curReplSlots : List String) (db : DB) (memberSlotTTL : Duration)
    (physicalSlotState : FinMap String PhysicalReplicationSlot) (knownDBUIDs : List String)
    : SlotRequests :=
  let dropped := (unmanagedReplicationSlots curReplSlots db).filter (fun slot =>
    (shouldDropUnmanagedHysteronSlot slot memberSlotTTL (db.status.orphanMemberSlots.getD ∅)
      physicalSlotState knownDBUIDs now).shouldDrop)
  let internalReplSlots := managedReplicationSlots db.uid db.spec.followers.elems
    db.spec.additionalReplicationSlots.elems db.spec.ignoreReplicationSlots.elems
    db.spec.ignoreReplicationSlotMatchers.elems
  let missing := (order.visit internalReplSlots.toList).filter (!curReplSlots.contains ·)
  let (created, ok) := createReplicationSlots createOK missing
  { dropped, created, ok }

/--
The part of the refresh that concerns the physical slots. Slots that cannot be listed are taken for
missing.
-/
def refreshReplicationSlots (now : Time) (order : VisitOrder String) (createOK : String → Bool)
    (listed : Option (List PhysicalReplicationSlot)) (cspec : DefSpec) (db : DB)
    (dbs : FinMap String DB) : SlotRequests :=
  let physicalSlots := listed.getD []
  let physicalSlotState := physicalSlots.foldl (fun state slot => state.insert slot.name slot) ∅
  updateReplSlots now order createOK (physicalSlots.map PhysicalReplicationSlot.name) db
    (cspec.memberReplicationSlotTTL.getD 0) physicalSlotState dbs.keys

section Lemmas

variable {slot uid : String} {db : DB} {now : Time} {curReplSlots : List String}

theorem hysteronName_injective {name name' : String} (h : hysteronName name = hysteronName name')
    : name = name' := by
  have hchars := congrArg String.toList h
  simp only [hysteronName, String.toList_append, List.append_cancel_left_eq] at hchars
  exact String.toList_inj.mp hchars

@[simp]
theorem isHysteronName_hysteronName (name : String)
    : ClusterSpec.isHysteronName (hysteronName name) = true := by
  simp [ClusterSpec.isHysteronName, hysteronName, List.isPrefixOf_iff_prefix]

theorem mem_managedReplicationSlots {followersUIDs additionalReplSlots ignoredReplSlots : List String}
    {matchers : List ReplicationSlotMatcher}
    : slot ∈ managedReplicationSlots uid followersUIDs additionalReplSlots ignoredReplSlots matchers
        ↔
      ((∃ followerUID ∈ followersUIDs, followerUID ≠ uid ∧ hysteronName followerUID = slot)
        ∨
      (∃ name ∈ additionalReplSlots, hysteronName name = slot))
        ∧
      isIgnoredSlot slot ignoredReplSlots matchers = false := by
  simp [managedReplicationSlots, and_assoc, or_and_right]

theorem not_mem_unmanagedReplicationSlots (hfollower : uid ∈ db.spec.followers.elems)
    (hne : uid ≠ db.uid) : hysteronName uid ∉ unmanagedReplicationSlots curReplSlots db := by
  intro hmem
  simp only [unmanagedReplicationSlots, List.mem_filter, Bool.and_eq_true, Bool.not_eq_true'] at hmem
  obtain ⟨-, ⟨-, hignored⟩, hunmanaged⟩ := hmem
  have hmanaged : hysteronName uid ∈ managedReplicationSlots db.uid db.spec.followers.elems
      db.spec.additionalReplicationSlots.elems db.spec.ignoreReplicationSlots.elems
      db.spec.ignoreReplicationSlotMatchers.elems :=
    mem_managedReplicationSlots.mpr ⟨.inl ⟨uid, hfollower, hne, rfl⟩, hignored⟩
  rw [← Std.ExtTreeSet.contains_iff_mem, hunmanaged] at hmanaged
  cases hmanaged

theorem shouldDrop_of_tracked {memberSlotTTL : Duration} {orphanMemberSlots : FinMap String Time}
    {physicalSlotState : FinMap String PhysicalReplicationSlot} {knownDBUIDs : List String}
    {orphanSince : Time} (httl : 0 < memberSlotTTL)
    (htracked : orphanMemberSlots[slot]? = some orphanSince)
    : (shouldDropUnmanagedHysteronSlot slot memberSlotTTL orphanMemberSlots physicalSlotState
        knownDBUIDs now).shouldDrop = true
        ↔
      orphanSince + memberSlotTTL ≤ now
        ∧
      ∃ (slotState : PhysicalReplicationSlot),
        physicalSlotState[slot]? = some slotState
          ∧
        slotState.active = false
          ∧
        slotState.hasXmin = false := by
  have hcontains : orphanMemberSlots.contains slot = true := by
    rw [Std.ExtTreeMap.contains_eq_isSome_getElem?, htracked]
    rfl
  unfold shouldDropUnmanagedHysteronSlot
  rw [if_neg (not_le.mpr httl), hcontains, Bool.not_true, Bool.and_false, if_neg Bool.false_ne_true,
    htracked]
  dsimp only
  split
  . next helapsed =>
    simp only [SlotDecision.shouldDrop, Bool.false_eq_true, false_iff, not_and]
    intro hle
    linarith
  . next helapsed =>
    have helapsed : orphanSince + memberSlotTTL ≤ now := by linarith
    cases physicalSlotState[slot]? with
    | none => simp [SlotDecision.shouldDrop]
    | some slotState =>
      cases hactive : slotState.active <;> cases hxmin : slotState.hasXmin <;>
        simp [SlotDecision.shouldDrop, helapsed, hactive, hxmin]

theorem mem_dropped {order : VisitOrder String} {createOK : String → Bool}
    {listed : Option (List PhysicalReplicationSlot)} {cspec : DefSpec} {dbs : FinMap String DB}
    (h : slot ∈ (refreshReplicationSlots now order createOK listed cspec db dbs).dropped)
    : slot ∈ unmanagedReplicationSlots ((listed.getD []).map PhysicalReplicationSlot.name) db
        ∧
      (shouldDropUnmanagedHysteronSlot slot (cspec.memberReplicationSlotTTL.getD 0)
        (db.status.orphanMemberSlots.getD ∅)
        ((listed.getD []).foldl (fun state slot => state.insert slot.name slot) ∅)
        dbs.keys now).shouldDrop = true :=
  List.mem_filter.mp h

theorem mem_of_physicalSlotState {physicalSlots : List PhysicalReplicationSlot}
    {slotState : PhysicalReplicationSlot}
    (h : (physicalSlots.foldl (fun (state : FinMap String PhysicalReplicationSlot) slot =>
      state.insert slot.name slot) ∅)[slot]? = some slotState)
    : slotState ∈ physicalSlots ∧ slotState.name = slot := by
  induction physicalSlots using List.reverseRecOn with
  | nil => simp at h
  | append_singleton physicalSlots last ih =>
    rw [List.foldl_append, List.foldl_cons, List.foldl_nil, Std.ExtTreeMap.getElem?_insert] at h
    split at h
    . next heq =>
      cases h
      exact ⟨by simp, by simpa using heq⟩
    . obtain ⟨hmem, hname⟩ := ih h
      exact ⟨List.mem_append_left _ hmem, hname⟩

end Lemmas

end Keeper
end Hysteron
