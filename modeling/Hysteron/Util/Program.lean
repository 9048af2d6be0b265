import Mathlib.Tactic

/-!
Programs that change a state step by step and can stop early, with rules of pre- and postconditions
for them. A program also tells the states that it goes through, since whoever interrupts it finds one
of them.
-/

namespace Hysteron

universe u v w x

/--
The states after each change, in their order, the last of all states, and the result or the reason to
stop.
-/
structure Outcome (σ : Type u) (ε : Type v) (α : Type w) where
  visited : List σ
  final : σ
  result : Except ε α

def Program (σ : Type u) (ε : Type v) (α : Type w) := σ → Outcome σ ε α

namespace Program

variable {σ : Type u} {ε : Type v} {α : Type w} {β : Type w}

def get : Program σ ε σ := fun s => ⟨[], s, .ok s⟩

def modify (f : σ → σ) : Program σ ε PUnit.{w + 1} := fun s => ⟨[f s], f s, .ok ⟨⟩⟩

def exit (e : ε) : Program σ ε α := fun s => ⟨[], s, .error e⟩

instance : Monad (Program σ ε) where
  pure a := fun s => ⟨[], s, .ok a⟩
  bind m f := fun s =>
    match m s with
    | ⟨visited, s', .error e⟩ => ⟨visited, s', .error e⟩
    | ⟨visited, s', .ok a⟩ =>
      match f a s' with
      | ⟨visited', s'', result⟩ => ⟨visited ++ visited', s'', result⟩

section Equations

variable {m : Program σ ε α} {f : α → Program σ ε β} {s s' : σ}

@[simp]
theorem pure_apply (a : α) : (pure a : Program σ ε α) s = ⟨[], s, .ok a⟩ := rfl

@[simp]
theorem get_apply : (get : Program σ ε σ) s = ⟨[], s, .ok s⟩ := rfl

@[simp]
theorem modify_apply (g : σ → σ) : (modify g : Program σ ε PUnit) s = ⟨[g s], g s, .ok ⟨⟩⟩ := rfl

@[simp]
theorem exit_apply (e : ε) : (exit e : Program σ ε α) s = ⟨[], s, .error e⟩ := rfl

theorem bind_of_ok {a : α} {visited : List σ} (h : m s = ⟨visited, s', .ok a⟩)
    : (m >>= f) s
        =
      ⟨visited ++ (f a s').visited, (f a s').final, (f a s').result⟩ := by
  simp only [bind, h]

theorem bind_of_error {e : ε} {visited : List σ} (h : m s = ⟨visited, s', .error e⟩)
    : (m >>= f) s = ⟨visited, s', .error e⟩ := by
  simp only [bind, h]

theorem bind_result_ok {b : β} (h : ((m >>= f) s).result = .ok b)
    : ∃ a : α,
        (m s).result = .ok a
          ∧
        (f a (m s).final).result = .ok b
          ∧
        ((m >>= f) s).final = (f a (m s).final).final := by
  rcases hrun : m s with ⟨visited, s', result⟩
  cases result with
  | error e =>
    rw [bind_of_error hrun] at h
    cases h
  | ok a =>
    rw [bind_of_ok hrun] at h ⊢
    exact ⟨a, rfl, h, rfl⟩

end Equations

/--
From every state with the precondition, all states that the program goes through have the property
`I`, and a result comes with the postcondition.
-/
def Triple (I P : σ → Prop) (m : Program σ ε α) (Q : α → σ → Prop) : Prop :=
  ∀ (s : σ), I s → P s →
    (∀ s' ∈ (m s).visited, I s')
      ∧
    I (m s).final
      ∧
    ∀ (a : α), (m s).result = .ok a → Q a (m s).final

namespace Triple

variable {I P P' : σ → Prop} {m : Program σ ε α} {Q Q' : α → σ → Prop}

theorem pure {a : α} (h : ∀ (s : σ), I s → P s → Q a s) : Triple I P (pure a : Program σ ε α) Q := by
  intro s hI hP
  refine ⟨by simp, hI, ?_⟩
  rintro _ ⟨rfl⟩
  exact h s hI hP

theorem exit {e : ε} : Triple I P (exit e : Program σ ε α) Q := by
  intro s hI hP
  refine ⟨by simp, hI, ?_⟩
  intro a ha
  cases ha

theorem get {Q : σ → σ → Prop} (h : ∀ (s : σ), I s → P s → Q s s)
    : Triple I P (get : Program σ ε σ) Q := by
  intro s hI hP
  refine ⟨by simp, hI, ?_⟩
  rintro _ ⟨rfl⟩
  exact h s hI hP

theorem modify {f : σ → σ} {Q : PUnit → σ → Prop}
    (h : ∀ (s : σ), I s → P s → I (f s) ∧ Q ⟨⟩ (f s))
    : Triple I P (modify f : Program σ ε PUnit) Q := by
  intro s hI hP
  obtain ⟨hkeep, hpost⟩ := h s hI hP
  refine ⟨by simpa using hkeep, hkeep, ?_⟩
  rintro _ ⟨rfl⟩
  exact hpost

theorem bind {f : α → Program σ ε β} {R : β → σ → Prop} (hm : Triple I P m Q)
    (hf : ∀ (a : α), Triple I (Q a) (f a) R) : Triple I P (m >>= f) R := by
  intro s hI hP
  obtain ⟨hvisited, hfinal, hresult⟩ := hm s hI hP
  rcases hrun : m s with ⟨visited, s', result⟩
  rw [hrun] at hvisited hfinal hresult
  cases result with
  | error e =>
    rw [bind_of_error hrun]
    refine ⟨hvisited, hfinal, ?_⟩
    intro b hb
    cases hb
  | ok a =>
    rw [bind_of_ok hrun]
    obtain ⟨hvisited', hfinal', hresult'⟩ := hf a s' hfinal (hresult a rfl)
    refine ⟨?_, hfinal', hresult'⟩
    intro s'' hs''
    cases List.mem_append.mp hs'' with
    | inl h => exact hvisited s'' h
    | inr h => exact hvisited' s'' h

theorem read {β : Type u} {f : σ → Program σ ε β} {R : β → σ → Prop}
    (h : ∀ (s₀ : σ), I s₀ → P s₀ → Triple I (fun s => s = s₀) (f s₀) R)
    : Triple I P (Program.get >>= f) R := by
  intro s hI hP
  exact h s hI hP s hI rfl

theorem assume {p : Prop} (h : p → Triple I P m Q) : Triple I (fun s => p ∧ P s) m Q := by
  intro s hI hP
  exact h hP.1 s hI hP.2

theorem exists_pre {ι : Sort x} {P : ι → σ → Prop} (h : ∀ (i : ι), Triple I (P i) m Q)
    : Triple I (fun s => ∃ i, P i s) m Q := by
  rintro s hI ⟨i, hP⟩
  exact h i s hI hP

theorem visited (h : Triple I P m Q) {s s' : σ} (hI : I s) (hP : P s)
    (hs' : s' ∈ s :: (m s).visited) : I s' := by
  cases List.mem_cons.mp hs' with
  | inl hsame =>
    rw [hsame]
    exact hI
  | inr hvisited => exact (h s hI hP).1 s' hvisited

theorem and (h : Triple I P m Q) (h' : Triple I P' m Q')
    : Triple I (fun s => P s ∧ P' s) m (fun a s => Q a s ∧ Q' a s) := by
  rintro s hI ⟨hP, hP'⟩
  obtain ⟨hvisited, hfinal, hresult⟩ := h s hI hP
  exact ⟨hvisited, hfinal, fun a ha => ⟨hresult a ha, (h' s hI hP').2.2 a ha⟩⟩

theorem weaken (h : Triple I P m Q) (hpre : ∀ (s : σ), I s → P' s → P s)
    (hpost : ∀ (a : α) (s : σ), I s → Q a s → Q' a s) : Triple I P' m Q' := by
  intro s hI hP
  obtain ⟨hvisited, hfinal, hresult⟩ := h s hI (hpre s hI hP)
  refine ⟨hvisited, hfinal, ?_⟩
  intro a ha
  exact hpost a _ hfinal (hresult a ha)

end Triple

def Keeps {γ : Type x} (view : σ → γ) (m : Program σ ε α) : Prop :=
  ∀ (c : γ), Triple (fun s => view s = c) (fun _ => True) m (fun _ _ => True)

namespace Keeps

variable {γ : Type x} {view : σ → γ} {m : Program σ ε α}

theorem pure {a : α} : Keeps view (pure a : Program σ ε α) := by
  intro c
  exact Triple.pure fun _ _ _ => trivial

theorem exit {e : ε} : Keeps view (exit e : Program σ ε α) := by
  intro c
  exact Triple.exit

theorem get {view : σ → γ} : Keeps view (get : Program σ ε σ) := by
  intro c
  exact Triple.get fun _ _ _ => trivial

theorem modify {f : σ → σ} (h : ∀ (s : σ), view (f s) = view s)
    : Keeps view (modify f : Program σ ε PUnit) := by
  intro c
  apply Triple.modify
  intro s hs _
  exact ⟨(h s).trans hs, trivial⟩

theorem bind {f : α → Program σ ε β} (hm : Keeps view m) (hf : ∀ (a : α), Keeps view (f a))
    : Keeps view (m >>= f) := by
  intro c
  exact (hm c).bind fun a => hf a c

theorem final_eq (h : Keeps view m) (s : σ) : view (m s).final = view s :=
  (h (view s) s rfl trivial).2.1

theorem triple {I P : σ → Prop} (h : Keeps view m)
    (hI : ∀ (s s' : σ), view s' = view s → I s → I s')
    (hP : ∀ (s s' : σ), view s' = view s → P s → P s') : Triple I P m (fun _ s => P s) := by
  intro s hIs hPs
  obtain ⟨hvisited, hfinal, -⟩ := h (view s) s rfl trivial
  refine ⟨?_, hI s _ hfinal hIs, ?_⟩
  . intro s' hs'
    exact hI s s' (hvisited s' hs') hIs
  . intro a _
    exact hP s _ hfinal hPs

end Keeps
end Program
end Hysteron
