import Hysteron.Keeper.LogicalSlots

/-!
What the keeper does to the replication slots of its instance, physical ones and logical ones, and
what is left when all its requests succeed.
-/

namespace Hysteron
namespace Keeper

section Physical

variable {now : Time} {order : VisitOrder String} {createOK dropOK : String → Bool}
  {curReplSlots knownDBUIDs : List String} {db : DB} {memberSlotTTL : Duration}
  {physicalSlotState : FinMap String PhysicalReplicationSlot} {slot : String}

def WantedSlot (db : DB) (slot : String) : Prop :=
  ((∃ followerUID ∈ db.spec.followers.elems, followerUID ≠ db.uid ∧ slot = hysteronName followerUID)
    ∨
  ∃ name ∈ db.spec.additionalReplicationSlots.elems, slot = hysteronName name)
    ∧
  slot ∉ db.spec.ignoreReplicationSlots.elems
    ∧
  isIgnoredPhysicalSlotByMatcher slot db.spec.ignoreReplicationSlotMatchers.elems = false

/--
The rules about former members that protect a slot: it is the one of a known database and not
tracked as an orphan, or it is tracked and its time is not over, or the instance does not list it,
or it is in use.
-/
def ProtectedByTTL (now : Time) (db : DB) (memberSlotTTL : Duration)
    (physicalSlotState : FinMap String PhysicalReplicationSlot) (knownDBUIDs : List String)
    (slot : String) : Prop :=
  0 < memberSlotTTL
    ∧
  match (db.status.orphanMemberSlots.getD ∅)[slot]? with
  | none => ∃ uid ∈ knownDBUIDs, slot = hysteronName uid
  | some orphanSince =>
    now < orphanSince + memberSlotTTL
      ∨
    ∀ (slotState : PhysicalReplicationSlot), physicalSlotState[slot]? = some slotState →
      slotState.active = true ∨ slotState.hasXmin = true

def KeptSlot (now : Time) (db : DB) (memberSlotTTL : Duration)
    (physicalSlotState : FinMap String PhysicalReplicationSlot) (knownDBUIDs : List String)
    (slot : String) : Prop :=
  ClusterSpec.isHysteronName slot = false
    ∨
  slot ∈ db.spec.ignoreReplicationSlots.elems
    ∨
  isIgnoredPhysicalSlotByMatcher slot db.spec.ignoreReplicationSlotMatchers.elems = true
    ∨
  ProtectedByTTL now db memberSlotTTL physicalSlotState knownDBUIDs slot

def slotsAfter (dropOK createOK : String → Bool) (curReplSlots : List String) (r : SlotRequests)
    : List String :=
  curReplSlots.filter (fun slot => !(r.dropped.contains slot && dropOK slot))
    ++ r.created.filter createOK

theorem mem_managed_iff_wantedSlot
    : slot ∈ managedReplicationSlots db.uid db.spec.followers.elems
        db.spec.additionalReplicationSlots.elems db.spec.ignoreReplicationSlots.elems
        db.spec.ignoreReplicationSlotMatchers.elems
        ↔
      WantedSlot db slot := by
  rw [mem_managedReplicationSlots, WantedSlot]
  simp only [isIgnoredSlot, Bool.or_eq_false_iff, List.contains_eq_mem, decide_eq_false_iff_not,
    eq_comm (a := slot)]

theorem eq_hysteronName_iff {uid : String} (h : ClusterSpec.isHysteronName slot = true)
    : nameFromHysteronName slot = uid ↔ slot = hysteronName uid := by
  obtain ⟨rest, hrest⟩ := List.isPrefixOf_iff_prefix.mp h
  have hname : nameFromHysteronName slot = String.ofList rest := by
    rw [nameFromHysteronName, if_pos h, ← hrest]
    congr 1
  constructor
  . rintro rfl
    apply String.toList_inj.mp
    rw [hname, ← hrest, hysteronName, String.toList_append, String.toList_ofList]
  . rintro rfl
    rw [nameFromHysteronName, if_pos h]
    simp [hysteronName, String.length]

theorem shouldDrop_eq_false_iff (h : ClusterSpec.isHysteronName slot = true)
    : (shouldDropUnmanagedHysteronSlot slot memberSlotTTL (db.status.orphanMemberSlots.getD ∅)
        physicalSlotState knownDBUIDs now).shouldDrop = false
        ↔
      ProtectedByTTL now db memberSlotTTL physicalSlotState knownDBUIDs slot := by
  unfold ProtectedByTTL
  by_cases httl : 0 < memberSlotTTL
  . cases htracked : (db.status.orphanMemberSlots.getD ∅)[slot]? with
    | none =>
      unfold shouldDropUnmanagedHysteronSlot
      have hcontains : (db.status.orphanMemberSlots.getD ∅).contains slot = false := by
        rw [Std.ExtTreeMap.contains_eq_isSome_getElem?, htracked]
        rfl
      rw [if_neg (not_le.mpr httl), hcontains, h, htracked]
      simp only [Bool.true_and, Bool.not_false, Bool.and_true, List.contains_eq_mem,
        decide_eq_true_eq, httl, true_and]
      have hknown : nameFromHysteronName slot ∈ knownDBUIDs
          ↔
          ∃ uid ∈ knownDBUIDs, slot = hysteronName uid := by
        simp only [← eq_hysteronName_iff h, exists_eq_right']
      split
      . next hmem => simpa [SlotDecision.shouldDrop] using hknown.mp hmem
      . next hmem =>
        have hunknown := mt hknown.mpr hmem
        simpa [SlotDecision.shouldDrop] using hunknown
    | some orphanSince =>
      rw [← Bool.not_eq_true, shouldDrop_of_tracked httl htracked]
      simp only [httl, true_and, not_and_or, not_le, not_exists, ← Bool.not_eq_true, not_not]
      grind
  . have hdrop : (shouldDropUnmanagedHysteronSlot slot memberSlotTTL
        (db.status.orphanMemberSlots.getD ∅) physicalSlotState knownDBUIDs now) = .ttlDisabled := by
      rw [shouldDropUnmanagedHysteronSlot, if_pos (not_lt.mp httl)]
    rw [hdrop]
    simp [SlotDecision.shouldDrop, httl]

theorem mem_unmanagedReplicationSlots
    : slot ∈ unmanagedReplicationSlots curReplSlots db
        ↔
      slot ∈ curReplSlots
        ∧
      ClusterSpec.isHysteronName slot = true
        ∧
      slot ∉ db.spec.ignoreReplicationSlots.elems
        ∧
      isIgnoredPhysicalSlotByMatcher slot db.spec.ignoreReplicationSlotMatchers.elems = false
        ∧
      ¬ WantedSlot db slot := by
  rw [← mem_managed_iff_wantedSlot, ← Std.ExtTreeSet.contains_iff_mem, Bool.not_eq_true]
  simp only [unmanagedReplicationSlots, List.mem_filter, Bool.and_eq_true, Bool.not_eq_true',
    isIgnoredSlot, Bool.or_eq_false_iff, List.contains_eq_mem, decide_eq_false_iff_not, and_assoc]

theorem mem_updateReplSlots_dropped
    : slot ∈ (updateReplSlots now order createOK curReplSlots db memberSlotTTL physicalSlotState
        knownDBUIDs).dropped
        ↔
      slot ∈ unmanagedReplicationSlots curReplSlots db
        ∧
      ¬ ProtectedByTTL now db memberSlotTTL physicalSlotState knownDBUIDs slot := by
  simp only [updateReplSlots, List.mem_filter, and_congr_right_iff]
  intro hmem
  rw [← shouldDrop_eq_false_iff (mem_unmanagedReplicationSlots.mp hmem).2.1, Bool.not_eq_false]

theorem mem_of_createReplicationSlots {slots : List String}
    (h : slot ∈ (createReplicationSlots createOK slots).1) : slot ∈ slots := by
  induction slots with
  | nil => exact h
  | cons first rest ih =>
    unfold createReplicationSlots at h
    split at h
    . obtain rfl | h := List.mem_cons.mp h
      . exact List.mem_cons_self
      . exact List.mem_cons_of_mem _ (ih h)
    . obtain rfl := List.mem_singleton.mp h
      exact List.mem_cons_self

theorem createReplicationSlots_of_ok {slots : List String}
    (h : (createReplicationSlots createOK slots).2 = true)
    : (createReplicationSlots createOK slots).1 = slots ∧ ∀ slot ∈ slots, createOK slot = true := by
  induction slots with
  | nil => exact ⟨rfl, by simp⟩
  | cons first rest ih =>
    unfold createReplicationSlots at h ⊢
    split at h
    . next hfirst =>
      rw [if_pos hfirst]
      obtain ⟨heq, hall⟩ := ih h
      exact ⟨congrArg (first :: ·) heq, List.forall_mem_cons.mpr ⟨hfirst, hall⟩⟩
    . cases h

def missingReplicationSlots (order : VisitOrder String) (curReplSlots : List String) (db : DB)
    : List String :=
  (order.visit (managedReplicationSlots db.uid db.spec.followers.elems
    db.spec.additionalReplicationSlots.elems db.spec.ignoreReplicationSlots.elems
    db.spec.ignoreReplicationSlotMatchers.elems).toList).filter (!curReplSlots.contains ·)

theorem mem_missingReplicationSlots
    : slot ∈ missingReplicationSlots order curReplSlots db
        ↔
      WantedSlot db slot ∧ slot ∉ curReplSlots := by
  rw [← mem_managed_iff_wantedSlot, missingReplicationSlots, List.mem_filter,
    VisitOrder.mem_visit, Std.ExtTreeSet.mem_toList]
  simp

theorem wantedSlot_of_mem_created
    (h : slot ∈ (updateReplSlots now order createOK curReplSlots db memberSlotTTL physicalSlotState
      knownDBUIDs).created)
    : WantedSlot db slot ∧ slot ∉ curReplSlots :=
  mem_missingReplicationSlots.mp (mem_of_createReplicationSlots h)

theorem mem_slotsAfter_iff
    (hok : (updateReplSlots now order createOK curReplSlots db memberSlotTTL physicalSlotState
      knownDBUIDs).ok = true)
    (hdropped : ∀ slot ∈ (updateReplSlots now order createOK curReplSlots db memberSlotTTL
      physicalSlotState knownDBUIDs).dropped, dropOK slot = true)
    : slot ∈ slotsAfter dropOK createOK curReplSlots (updateReplSlots now order createOK
        curReplSlots db memberSlotTTL physicalSlotState knownDBUIDs)
        ↔
      WantedSlot db slot
        ∨
      slot ∈ curReplSlots
        ∧
      KeptSlot now db memberSlotTTL physicalSlotState knownDBUIDs slot := by
  have hcreated : (slot ∈ (updateReplSlots now order createOK curReplSlots db memberSlotTTL
      physicalSlotState knownDBUIDs).created ∧ createOK slot = true)
      ↔
      WantedSlot db slot ∧ slot ∉ curReplSlots := by
    obtain ⟨heq, hall⟩ := createReplicationSlots_of_ok hok
    have hmissing : slot ∈ missingReplicationSlots order curReplSlots db
        ↔
        WantedSlot db slot ∧ slot ∉ curReplSlots := mem_missingReplicationSlots
    rw [← hmissing]
    constructor
    . rintro ⟨hmem, -⟩
      exact mem_of_createReplicationSlots hmem
    . intro hmem
      exact ⟨(congrArg (slot ∈ ·) heq).mpr hmem, hall slot hmem⟩
  have hkept : (slot ∈ curReplSlots ∧ ¬ (slot ∈ (updateReplSlots now order createOK curReplSlots db
      memberSlotTTL physicalSlotState knownDBUIDs).dropped ∧ dropOK slot = true))
      ↔
      slot ∈ curReplSlots
        ∧
      (WantedSlot db slot ∨ KeptSlot now db memberSlotTTL physicalSlotState knownDBUIDs slot) := by
    refine and_congr_right fun hmem => ?_
    have hdrop : (slot ∈ (updateReplSlots now order createOK curReplSlots db memberSlotTTL
        physicalSlotState knownDBUIDs).dropped ∧ dropOK slot = true)
        ↔
        slot ∈ (updateReplSlots now order createOK curReplSlots db memberSlotTTL
          physicalSlotState knownDBUIDs).dropped :=
      and_iff_left_of_imp (hdropped slot)
    rw [hdrop, mem_updateReplSlots_dropped, mem_unmanagedReplicationSlots, KeptSlot]
    simp only [hmem, true_and, ← Bool.not_eq_true]
    tauto
  rw [slotsAfter, List.mem_append, List.mem_filter, List.mem_filter, hcreated]
  simp only [Bool.not_eq_true', ← Bool.not_eq_true (_ && _), Bool.and_eq_true, List.contains_eq_mem,
    decide_eq_true_eq]
  rw [hkept]
  tauto

/--
A drop is requested only for an existing slot of the cluster that is neither wanted nor ignored, a
creation only for a wanted slot that does not exist. If all requests succeed, the instance has the
wanted slots and the ones that have to be kept.
-/
theorem updateReplSlots_reconciles (now : Time) (order : VisitOrder String)
    (createOK dropOK : String → Bool) (curReplSlots : List String) (db : DB)
    (memberSlotTTL : Duration) (physicalSlotState : FinMap String PhysicalReplicationSlot)
    (knownDBUIDs : List String)
    : let requests := updateReplSlots now order createOK curReplSlots db memberSlotTTL
        physicalSlotState knownDBUIDs
      (∀ slot ∈ requests.dropped,
        slot ∈ curReplSlots
          ∧
        ClusterSpec.isHysteronName slot = true
          ∧
        slot ∉ db.spec.ignoreReplicationSlots.elems
          ∧
        isIgnoredPhysicalSlotByMatcher slot db.spec.ignoreReplicationSlotMatchers.elems = false
          ∧
        ¬ WantedSlot db slot)
        ∧
      (∀ slot ∈ requests.created, WantedSlot db slot ∧ slot ∉ curReplSlots)
        ∧
      (∀ slot ∈ requests.dropped, slot ∉ requests.created)
        ∧
      (requests.ok = true →
        (∀ slot ∈ requests.dropped, dropOK slot = true) →
        (∀ slot ∈ requests.created, createOK slot = true) →
        ∀ (slot : String),
          slot ∈ slotsAfter dropOK createOK curReplSlots requests
            ↔
          WantedSlot db slot
            ∨
          slot ∈ curReplSlots
            ∧
          KeptSlot now db memberSlotTTL physicalSlotState knownDBUIDs slot) := by
  intro requests
  have hdrop : ∀ slot ∈ requests.dropped, slot ∈ unmanagedReplicationSlots curReplSlots db :=
    fun slot hslot => (mem_updateReplSlots_dropped.mp hslot).1
  refine ⟨?_, ?_, ?_, ?_⟩
  . intro slot hslot
    exact mem_unmanagedReplicationSlots.mp (hdrop slot hslot)
  . intro slot hslot
    exact wantedSlot_of_mem_created hslot
  . intro slot hslot hcreated
    have hexists := (mem_unmanagedReplicationSlots.mp (hdrop slot hslot)).1
    exact (wantedSlot_of_mem_created hcreated).2 hexists
  . intro hok hdropped _ slot
    exact mem_slotsAfter_iff hok hdropped

end Physical

section Logical

variable {desired : List ManagedLogicalReplicationSlot} {current : List LogicalReplicationSlot}
  {matchers : List ReplicationSlotMatcher}

structure ReadinessAgrees (desired : List ManagedLogicalReplicationSlot)
    (current : List LogicalReplicationSlot) (matchers : List ReplicationSlotMatcher)
    (decision : ManagedLogicalSlotsDecision) (readiness : ManagedLogicalSlotReadiness) : Prop where
  disjoint : [decision.create.map ManagedLogicalReplicationSlot.name, decision.mismatch,
    decision.drop, decision.active].Pairwise List.Disjoint
  drop : ∀ (name : String),
    name ∈ decision.drop
      ↔
    ∃ slot ∈ current,
      slot.name = name ∧ slot.active = false ∧ UnmanagedLogicalSlot desired matchers slot
  missing : ∀ (name : String),
    name ∈ readiness.missing ↔ name ∈ decision.create.map ManagedLogicalReplicationSlot.name
  mismatch : ∀ (name : String), name ∈ readiness.mismatch ↔ name ∈ decision.mismatch
  ready : managedLogicalSlotReadinessSignature readiness = ""
    ↔
    decision.create = [] ∧ decision.mismatch = []

def MatchersAgree (desired : List ManagedLogicalReplicationSlot)
    (current : List LogicalReplicationSlot) (matchers : List ReplicationSlotMatcher) : Prop :=
  ∀ desiredSlot ∈ desired, ∀ currentSlot ∈ current,
    currentSlot.name = desiredSlot.name →
    differs currentSlot desiredSlot = true →
    isIgnoredLogicalSlotByMatcher currentSlot matchers = true →
    isIgnoredDesiredSlot desiredSlot matchers = true

theorem disjoint_decision (hcurrent : (current.map LogicalReplicationSlot.name).Nodup)
    : [(evaluateManagedLogicalSlotsDecision desired current matchers).create.map
          ManagedLogicalReplicationSlot.name,
        (evaluateManagedLogicalSlotsDecision desired current matchers).mismatch,
        (evaluateManagedLogicalSlotsDecision desired current matchers).drop,
        (evaluateManagedLogicalSlotsDecision desired current matchers).active].Pairwise
      List.Disjoint := by
  simp only [List.pairwise_cons, List.mem_cons, List.not_mem_nil, or_false, forall_eq_or_imp,
    forall_eq, List.Pairwise.nil, and_true, IsEmpty.forall_iff, implies_true]
  refine ⟨⟨?_, ?_, ?_⟩, ⟨?_, ?_⟩, ?_⟩
  . intro name hcreate hmismatch
    obtain ⟨slot, hslot, rfl⟩ := List.mem_map.mp hcreate
    obtain ⟨-, -, -, -, currentSlot, hcur, hname, -⟩ :=
      (mem_decision_mismatch hcurrent).mp hmismatch
    exact (mem_decision_create.mp hslot).2.2 currentSlot hcur hname
  . intro name hcreate hdrop
    obtain ⟨slot, hslot, rfl⟩ := List.mem_map.mp hcreate
    obtain ⟨currentSlot, hcur, hname, -⟩ := mem_decision_drop.mp hdrop
    exact (mem_decision_create.mp hslot).2.2 currentSlot hcur hname
  . intro name hcreate hactive
    obtain ⟨slot, hslot, rfl⟩ := List.mem_map.mp hcreate
    obtain ⟨currentSlot, hcur, hname, -⟩ := mem_decision_active.mp hactive
    exact (mem_decision_create.mp hslot).2.2 currentSlot hcur hname
  . intro name hmismatch hdrop
    obtain ⟨slot, hslot, hname, -⟩ := (mem_decision_mismatch hcurrent).mp hmismatch
    obtain ⟨currentSlot, -, rfl, -, hunmanaged, -⟩ := mem_decision_drop.mp hdrop
    exact hunmanaged slot hslot hname
  . intro name hmismatch hactive
    obtain ⟨slot, hslot, hname, -⟩ := (mem_decision_mismatch hcurrent).mp hmismatch
    obtain ⟨currentSlot, -, rfl, -, hunmanaged, -⟩ := mem_decision_active.mp hactive
    exact hunmanaged slot hslot hname
  . intro name hdrop hactive
    obtain ⟨slot, hslot, rfl, hidle, -⟩ := mem_decision_drop.mp hdrop
    obtain ⟨slot', hslot', hname, hactive, -⟩ := mem_decision_active.mp hactive
    have heq : slot' = slot := List.inj_on_of_nodup_map hcurrent hslot' hslot hname
    rw [heq, hidle] at hactive
    cases hactive

theorem intercalate_eq_empty_iff {sep : String} {parts : List String}
    (hparts : ∀ part ∈ parts, part ≠ "") : sep.intercalate parts = "" ↔ parts = [] := by
  constructor
  . intro h
    cases parts with
    | nil => rfl
    | cons part parts =>
      have hchars : (sep.intercalate (part :: parts)).toList = [] := by rw [h]; rfl
      rw [String.toList_intercalate] at hchars
      cases parts with
      | nil => simp_all
      | cons second rest => simp_all
  . rintro rfl
    rfl

theorem sortStrings_eq_nil_iff {a : List String} : Slices.sortStrings a = [] ↔ a = [] := by
  rw [← List.length_eq_zero_iff, ← List.length_eq_zero_iff, Slices.sortStrings,
    List.length_insertionSort]

theorem signature_eq_empty_iff {readiness : ManagedLogicalSlotReadiness}
    : managedLogicalSlotReadinessSignature readiness = ""
        ↔
      readiness.missing = [] ∧ readiness.mismatch = [] := by
  rw [managedLogicalSlotReadinessSignature, intercalate_eq_empty_iff, sortStrings_eq_nil_iff,
    List.append_eq_nil_iff, List.map_eq_nil_iff, List.map_eq_nil_iff]
  intro part hpart
  simp only [Slices.mem_sortStrings, List.mem_append, List.mem_map] at hpart
  obtain ⟨slot, -, rfl⟩ | ⟨slot, -, rfl⟩ := hpart <;> simp

theorem mismatch_iff_of_matchersAgree (hcurrent : (current.map LogicalReplicationSlot.name).Nodup)
    (h : MatchersAgree desired current matchers) (name : String)
    : name ∈ (evaluateManagedLogicalSlotReadiness desired current matchers).mismatch
        ↔
      name ∈ (evaluateManagedLogicalSlotsDecision desired current matchers).mismatch := by
  rw [mem_readiness_mismatch hcurrent, mem_decision_mismatch hcurrent]
  constructor
  . rintro ⟨slot, hslot, hname, hwanted, currentSlot, hcur, hcurname, -, hdiffers⟩
    exact ⟨slot, hslot, hname, hwanted, currentSlot, hcur, hcurname, hdiffers⟩
  . rintro ⟨slot, hslot, hname, hwanted, currentSlot, hcur, hcurname, hdiffers⟩
    have hunignored : isIgnoredLogicalSlotByMatcher currentSlot matchers = false := by
      by_contra hignored
      rw [Bool.not_eq_false] at hignored
      have := h slot hslot currentSlot hcur (hcurname.trans hname.symm) hdiffers hignored
      rw [hwanted] at this
      cases this
    exact ⟨slot, hslot, hname, hwanted, currentSlot, hcur, hcurname, hunignored, hdiffers⟩

/--
The decision and the readiness agree exactly if the matchers treat the desired and the existing
version of a slot alike.
-/
theorem readinessAgrees_iff_matchersAgree (desired : List ManagedLogicalReplicationSlot)
    (current : List LogicalReplicationSlot) (matchers : List ReplicationSlotMatcher)
    (hcurrent : (current.map LogicalReplicationSlot.name).Nodup)
    : ReadinessAgrees desired current matchers
        (evaluateManagedLogicalSlotsDecision desired current matchers)
        (evaluateManagedLogicalSlotReadiness desired current matchers)
        ↔
      MatchersAgree desired current matchers := by
  constructor
  . intro h slot hslot currentSlot hcur hname hdiffers hignored
    by_contra hwanted
    rw [Bool.not_eq_true] at hwanted
    have hmismatch := (mem_decision_mismatch hcurrent).mpr
      ⟨slot, hslot, rfl, hwanted, currentSlot, hcur, hname, hdiffers⟩
    obtain ⟨-, -, -, -, currentSlot', hcur', hname', hunignored, -⟩ :=
      (mem_readiness_mismatch hcurrent).mp ((h.mismatch slot.name).mpr hmismatch)
    have heq := List.inj_on_of_nodup_map hcurrent hcur' hcur (hname'.trans hname.symm)
    rw [heq, hignored] at hunignored
    cases hunignored
  . intro h
    have hmismatch := mismatch_iff_of_matchersAgree hcurrent h
    have hready : (evaluateManagedLogicalSlotReadiness desired current matchers).mismatch = []
        ↔
        (evaluateManagedLogicalSlotsDecision desired current matchers).mismatch = [] := by
      simp only [List.eq_nil_iff_forall_not_mem, hmismatch]
    exact {
      disjoint := disjoint_decision hcurrent
      drop := fun name => mem_decision_drop
      missing := by simp [readiness_missing]
      mismatch := hmismatch
      ready := by
        rw [signature_eq_empty_iff, hready, readiness_missing, sortStrings_eq_nil_iff,
          List.map_eq_nil_iff]
    }

def orders : ManagedLogicalReplicationSlot where
  name := "hysteron_orders"
  database := "app"
  plugin := "pgoutput"

def ordersWithOtherPlugin : LogicalReplicationSlot where
  name := "hysteron_orders"
  database := "app"
  plugin := "wal2json"

theorem readinessAgrees_iff_matchersAgree_sample
    : ([ordersWithOtherPlugin].map LogicalReplicationSlot.name).Nodup
        ∧
      ReadinessAgrees [orders] [ordersWithOtherPlugin] []
        (evaluateManagedLogicalSlotsDecision [orders] [ordersWithOtherPlugin] [])
        (evaluateManagedLogicalSlotReadiness [orders] [ordersWithOtherPlugin] []) := by
  refine ⟨by simp, (readinessAgrees_iff_matchersAgree _ _ _ (by simp)).mpr ?_⟩
  intro _ _ _ _ _ _ hignored
  simp [isIgnoredLogicalSlotByMatcher] at hignored

/--
A matcher on the plugin of the existing slot hides the mismatch from the standby only.
-/
theorem standby_ready_with_mismatch
    : (evaluateManagedLogicalSlotsDecision [orders] [ordersWithOtherPlugin]
        [{ plugin := "wal2json" }]).mismatch = ["hysteron_orders"]
        ∧
      managedLogicalSlotReadinessSignature (evaluateManagedLogicalSlotReadiness [orders]
        [ordersWithOtherPlugin] [{ plugin := "wal2json" }]) = "" := by
  decide +kernel

end Logical

end Keeper
end Hysteron
