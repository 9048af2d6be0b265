import Hysteron.Keeper.SlotAdvance
import Mathlib.Logic.Relation

/-!
How long the worker leaves a logical slot alone after it has failed to move it, whatever the ticks of
the keeper plan in the meantime.
-/

namespace Hysteron
namespace Keeper

variable {s s' : AdvanceState} {key : String} {limit : Time}

inductive EarlyStep (limit : Time) : AdvanceState → AdvanceState → Prop where
  | tick (tick : SlotTick) (hnow : tick.enqueuedAt < limit)
    (hkept : ∀ (db : DB), tick.db = some db → tick.refreshPath db ≠ .reset)
    (s : AdvanceState) : EarlyStep limit s (tick.refresh s)
  | worker (step : WorkerStep)
    (hnow : ∀ (order : VisitOrder String) (now : Time), step = .select order now → now < limit)
    {s s' : AdvanceState} (hrun : step.run s = some s') : EarlyStep limit s s'

structure Waits (key : String) (limit : Time) (s : AdvanceState) : Prop where
  retryAfter : ∃ (next : Time), s.retryAfter[key]? = some next ∧ limit ≤ next
  selected : ∀ (op : QueuedLogicalSlotAdvanceOperation) (now : Time), s.worker ≠ .selected key op now
  requested : ∀ (op : QueuedLogicalSlotAdvanceOperation) (now : Time),
    s.worker ≠ .requested key op now

theorem getElem?_pruneLogicalSlotAdvanceRetryAfter {retryAfter : FinMap String Time} {now next : Time}
    (h : retryAfter[key]? = some next) (hnow : now < next)
    : (pruneLogicalSlotAdvanceRetryAfter retryAfter now)[key]? = some next :=
  (FinMap.getElem?_filter_eq_some _ _ _ _).mpr ⟨h, by simpa using hnow⟩

theorem Waits.refresh (h : Waits key limit s) {tick : SlotTick} (hnow : tick.enqueuedAt < limit)
    (hkept : ∀ (db : DB), tick.db = some db → tick.refreshPath db ≠ .reset)
    : Waits key limit (tick.refresh s) := by
  obtain ⟨next, hnext, hle⟩ := h.retryAfter
  unfold SlotTick.refresh
  split
  . exact h
  . next db hdb =>
    split
    . exact h
    . next hreset => exact absurd hreset (hkept db hdb)
    . unfold enqueueLogicalSlotAdvanceOperations
      split
      . exact h
      . exact ⟨⟨next, getElem?_pruneLogicalSlotAdvanceRetryAfter hnext (hnow.trans_le hle), hle⟩,
          h.selected, h.requested⟩

theorem Waits.select (h : Waits key limit s) {now : Time} (hnow : now < limit)
    (order : VisitOrder String) : Waits key limit (selectLogicalSlotAdvance order now s) := by
  obtain ⟨next, hnext, hle⟩ := h.retryAfter
  have hkept := getElem?_pruneLogicalSlotAdvanceRetryAfter hnext (hnow.trans_le hle)
  unfold selectLogicalSlotAdvance
  split
  . exact ⟨⟨next, hnext, hle⟩, by simp, by simp⟩
  . dsimp only
    split
    . exact ⟨⟨next, hkept, hle⟩, by simp, by simp⟩
    . next selected op hselected =>
      refine ⟨⟨next, hkept, hle⟩, ?_, by simp⟩
      intro op' now' heq
      obtain ⟨found, hfound, hop⟩ := Option.bind_eq_some_iff.mp hselected
      obtain ⟨_, -, hpair⟩ := Option.map_eq_some_iff.mp hop
      have hattempt := List.find?_some hfound
      cases hpair
      cases heq
      rw [shouldAttemptLogicalSlotAdvance, hkept] at hattempt
      exact absurd (of_decide_eq_true hattempt) (not_le.mpr (hnow.trans_le hle))

theorem Waits.run (h : Waits key limit s) {step : WorkerStep} (hrun : step.run s = some s')
    (hnow : ∀ (order : VisitOrder String) (now : Time), step = .select order now → now < limit)
    : Waits key limit s' := by
  unfold WorkerStep.run at hrun
  split at hrun
  . split at hrun
    . cases hrun
      exact ⟨h.retryAfter, by simp, by simp⟩
    . cases hrun
  . next order now =>
    split at hrun
    . cases hrun
      exact h.select (hnow order now rfl) order
    . cases hrun
  . split at hrun
    . next selected op now hworker =>
      cases hrun
      refine ⟨h.retryAfter, by simp, ?_⟩
      intro op' now' heq
      cases heq
      exact h.selected op now hworker
    . cases hrun
  . split at hrun
    . next ok requested op now hworker =>
      cases hrun
      refine ⟨?_, by simp, by simp⟩
      obtain ⟨next, hnext, hle⟩ := h.retryAfter
      have hne : requested ≠ key := by
        rintro rfl
        exact h.requested op now hworker
      refine ⟨next, ?_, hle⟩
      dsimp only
      split <;> simp [Std.ExtTreeMap.getElem?_erase, Std.ExtTreeMap.getElem?_insert, hne, hnext]
    . cases hrun

/--
A slot that could not be moved is not requested again before the delay has passed since it was taken
from the queue, in every interleaving of the worker with ticks that do not empty the queue.
-/
theorem failed_slot_waits (s s₁ s₂ : AdvanceState) (key : String)
    (op : QueuedLogicalSlotAdvanceOperation) (now : Time)
    (hworker : s.worker = .requested key op now)
    (hfailed : (WorkerStep.answer false).run s = some s₁)
    (hrun : Relation.ReflTransGen (EarlyStep (now + retryDelay)) s₁ s₂)
    : ∀ (op' : QueuedLogicalSlotAdvanceOperation) (now' : Time),
        s₂.worker ≠ .requested key op' now' := by
  have hwaits : Waits key (now + retryDelay) s₂ := by
    induction hrun with
    | refl =>
      simp only [WorkerStep.run, hworker, Option.some.injEq] at hfailed
      subst hfailed
      exact ⟨⟨now + retryDelay, by simp, le_rfl⟩, by simp, by simp⟩
    | tail _ hstep ih =>
      cases hstep with
      | tick tick hnow hkept => exact ih.refresh hnow hkept
      | worker step hnow hstep => exact ih.run hstep hnow
  exact hwaits.requested

def sampleAdvance : QueuedLogicalSlotAdvanceOperation where
  name := "a"
  database := "b"
  desiredLSN := 7
  replayLSN := 7
  targetLSN := 7

def sampleInFlight : AdvanceState where
  pending := (∅ : FinMap String QueuedLogicalSlotAdvanceOperation).insert "a@b" sampleAdvance
  worker := .requested "a@b" sampleAdvance 0

theorem failed_slot_waits_sample
    : ∃ (s₁ s₂ : AdvanceState),
        (WorkerStep.answer false).run sampleInFlight = some s₁
          ∧
        (WorkerStep.select .stored 1).run s₁ = some s₂
          ∧
        s₂.worker ≠ .requested "a@b" sampleAdvance 0 := by
  refine ⟨_, _, rfl, rfl, ?_⟩
  refine failed_slot_waits sampleInFlight _ _ "a@b" sampleAdvance 0 rfl rfl (.single ?_) _ _
  refine .worker (.select .stored 1) ?_ rfl
  intro order now heq
  cases heq
  decide

end Keeper
end Hysteron
