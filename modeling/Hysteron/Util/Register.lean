import Hysteron.Util.TransitionSystem

/-!
A shared register and clients that read it, decide, and write. A write is a compare-and-swap on the
value that was read, which is tried again from the read on when the register has changed, or an
unconditional one. The answer to a write can get lost, after which the client does not know whether
it happened.
-/

namespace Hysteron
namespace Register

universe u v w x

inductive Attempt (V : Type v) (E : Type w) where
  | fail (e : E)
  | done
  | swap (next : V)
  | put (next : V)

/--
A client: how often it starts from the read, and what it does then. `Ω` is what it finds apart from
the register.
-/
structure Program (Ω : Type u) (V : Type v) (E : Type w) where
  tries : Nat
  attempt : Ω → Option V → Attempt V E

inductive Outcome (E : Type w) where
  | success
  | failed (e : E)
  | readFailed
  | conflict
  | unclear

inductive Mode where
  | swap (left : Nat)
  | put

def Mode.attempt {V : Type v} {E : Type w} (next : V) : Mode → Attempt V E
  | .swap _ => .swap next
  | .put => .put next

inductive Client (Ω : Type u) (V : Type v) (E : Type w) where
  | ready (left : Nat)
  | writing (env : Ω) (read : Option V) (next : V) (mode : Mode)
  | returned (outcome : Outcome E)

structure Write (κ : Type x) (Ω : Type u) (V : Type v) where
  writer : κ
  env : Ω
  read : Option V
  replaced : Option V
  next : V

structure State (κ : Type x) (Ω : Type u) (V : Type v) (E : Type w) where
  value : Option V
  client : κ → Client Ω V E
  writes : List (Write κ Ω V)

variable {κ : Type x} {Ω : Type u} {V : Type v} {E : Type w} [DecidableEq κ]

def State.setClient (s : State κ Ω V E) (k : κ) (c : Client Ω V E) : State κ Ω V E :=
  { s with client := Function.update s.client k c }

def State.write (s : State κ Ω V E) (k : κ) (env : Ω) (read : Option V) (next : V)
    : State κ Ω V E :=
  { s with
    value := some next
    writes := { writer := k, env, read, replaced := s.value, next } :: s.writes
  }

def Attempt.client (env : Ω) (read : Option V) (left : Nat) : Attempt V E → Client Ω V E
  | .fail e => .returned (.failed e)
  | .done => .returned .success
  | .swap next => .writing env read next (.swap left)
  | .put next => .writing env read next .put

inductive Step (program : κ → Program Ω V E) : State κ Ω V E → State κ Ω V E → Prop where
  | attempted {s : State κ Ω V E} (k : κ) (env : Ω) (left : Nat)
    (h : s.client k = .ready (left + 1))
    : Step program s (s.setClient k (((program k).attempt env s.value).client env s.value left))
  | readFailed {s : State κ Ω V E} (k : κ) (left : Nat) (h : s.client k = .ready (left + 1))
    : Step program s (s.setClient k (.returned .readFailed))
  | exhausted {s : State κ Ω V E} (k : κ) (h : s.client k = .ready 0)
    : Step program s (s.setClient k (.returned .conflict))
  | written {s : State κ Ω V E} (k : κ) (env : Ω) (read : Option V) (next : V) (mode : Mode)
    (answered : Bool) (h : s.client k = .writing env read next mode)
    (hallowed : mode = .put ∨ s.value = read)
    : Step program s ((s.write k env read next).setClient k
        (.returned (if answered then .success else .unclear)))
  | rejected {s : State κ Ω V E} (k : κ) (env : Ω) (read : Option V) (next : V) (left : Nat)
    (h : s.client k = .writing env read next (.swap left)) (hmodified : s.value ≠ read)
    : Step program s (s.setClient k (.ready left))
  | lost {s : State κ Ω V E} (k : κ) (env : Ω) (read : Option V) (next : V) (mode : Mode)
    (h : s.client k = .writing env read next mode)
    : Step program s (s.setClient k (.returned .unclear))

def system (program : κ → Program Ω V E) : TransitionSystem (State κ Ω V E) where
  init s := s.client = (fun k => .ready (program k).tries) ∧ s.writes = []
  step := Step program

def Chained (first : Option V) : Option V → List (Write κ Ω V) → Prop
  | last, [] => last = first
  | last, w :: writes => last = some w.next ∧ Chained first w.replaced writes

def writesOf (k : κ) (writes : List (Write κ Ω V)) : List (Write κ Ω V) :=
  writes.filter (fun w => w.writer = k)

def Client.maxWrites : Client Ω V E → Nat
  | .returned .success => 1
  | .returned .unclear => 1
  | _ => 0

structure Accounted (program : κ → Program Ω V E) (s : State κ Ω V E) : Prop where
  decided : ∀ (k : κ) (env : Ω) (read : Option V) (next : V) (mode : Mode),
    s.client k = .writing env read next mode →
      (program k).attempt env read = mode.attempt next
  exact : ∀ w ∈ s.writes,
    ((program w.writer).attempt w.env w.read = .swap w.next ∧ w.replaced = w.read)
      ∨
    (program w.writer).attempt w.env w.read = .put w.next
  chained : ∃ (first : Option V), Chained first s.value s.writes
  counted : ∀ (k : κ), (writesOf k s.writes).length ≤ (s.client k).maxWrites

variable {program : κ → Program Ω V E} {s s' : State κ Ω V E} {k : κ}

@[simp]
theorem setClient_value (c : Client Ω V E) : (s.setClient k c).value = s.value := rfl

@[simp]
theorem setClient_writes (c : Client Ω V E) : (s.setClient k c).writes = s.writes := rfl

theorem setClient_client (c : Client Ω V E) (k' : κ)
    : (s.setClient k c).client k' = if k' = k then c else s.client k' := by
  simp [State.setClient, Function.update_apply]

theorem Attempt.client_eq_writing {a : Attempt V E} {env env' : Ω} {read read' : Option V}
    {left : Nat} {next : V} {mode : Mode} (h : a.client env read left = .writing env' read' next mode)
    : env' = env ∧ read' = read ∧ a = mode.attempt next := by
  cases a <;> cases h <;> exact ⟨rfl, rfl, rfl⟩

theorem Accounted.setClient {c : Client Ω V E} (h : Accounted program s)
    (hdecided : ∀ (env : Ω) (read : Option V) (next : V) (mode : Mode),
      c = .writing env read next mode → (program k).attempt env read = mode.attempt next)
    (hbefore : (s.client k).maxWrites = 0) : Accounted program (s.setClient k c) where
  decided := by
    intro k' env read next mode hwriting
    rw [setClient_client] at hwriting
    split at hwriting
    . next heq =>
      subst heq
      exact hdecided env read next mode hwriting
    . exact h.decided k' env read next mode hwriting
  exact := h.exact
  chained := h.chained
  counted := by
    intro k'
    have hcounted := h.counted k'
    rw [setClient_client]
    split
    . next heq =>
      subst heq
      rw [hbefore] at hcounted
      exact Nat.le_trans hcounted (Nat.zero_le _)
    . exact hcounted

theorem Accounted.written {env : Ω} {read : Option V} {next : V} {mode : Mode} {o : Outcome E}
    (h : Accounted program s) (hwriting : s.client k = .writing env read next mode)
    (hallowed : mode = .put ∨ s.value = read)
    (ho : (Client.returned o : Client Ω V E).maxWrites = 1)
    : Accounted program ((s.write k env read next).setClient k (.returned o)) where
  decided := by
    intro k' env' read' next' mode' hwriting'
    rw [setClient_client] at hwriting'
    split at hwriting'
    . cases hwriting'
    . exact h.decided k' env' read' next' mode' hwriting'
  exact := by
    intro w hw
    have hdecided := h.decided k env read next mode hwriting
    cases List.mem_cons.mp hw with
    | inr hold => exact h.exact w hold
    | inl hnew =>
      subst hnew
      cases mode with
      | put => exact .inr hdecided
      | swap left =>
        left
        refine ⟨hdecided, ?_⟩
        cases hallowed with
        | inl hput => cases hput
        | inr hsame => exact hsame
  chained := by
    obtain ⟨first, hchained⟩ := h.chained
    exact ⟨first, rfl, hchained⟩
  counted := by
    intro k'
    have hcounted := h.counted k'
    rw [setClient_client]
    by_cases heq : k' = k
    . subst heq
      rw [if_pos rfl, ho]
      rw [hwriting] at hcounted
      simpa [State.write, writesOf, Client.maxWrites] using hcounted
    . rw [if_neg heq]
      have hother : writesOf k' (s.write k env read next).writes = writesOf k' s.writes := by
        simp [State.write, writesOf, Ne.symm heq]
      rw [setClient_writes, hother]
      exact hcounted

theorem accounted_inductive : (system program).Inductive (Accounted program) where
  init := by
    rintro s ⟨hclient, hwrites⟩
    constructor
    . intro k env read next mode hwriting
      rw [hclient] at hwriting
      cases hwriting
    . simp [hwrites]
    . exact ⟨s.value, by rw [hwrites]; rfl⟩
    . simp [hwrites, writesOf]
  step := by
    intro s s' h hstep
    cases hstep with
    | attempted k env left hready =>
      apply h.setClient
      . intro env' read' next mode hwriting
        obtain ⟨rfl, rfl, hattempt⟩ := Attempt.client_eq_writing hwriting
        exact hattempt
      . rw [hready]
        rfl
    | readFailed k left hready =>
      apply h.setClient
      . intros
        contradiction
      . rw [hready]
        rfl
    | exhausted k hready =>
      apply h.setClient
      . intros
        contradiction
      . rw [hready]
        rfl
    | written k env read next mode answered hwriting hallowed =>
      apply h.written hwriting hallowed
      cases answered <;> rfl
    | rejected k env read next left hwriting hmodified =>
      apply h.setClient
      . intros
        contradiction
      . rw [hwriting]
        rfl
    | lost k env read next mode hwriting =>
      apply h.setClient
      . intros
        contradiction
      . rw [hwriting]
        rfl

end Register
end Hysteron
