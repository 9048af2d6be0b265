import Mathlib

/-!
Finite maps with extensional equality, and loops over them whose visiting order is not determined.

The maps are `Std.ExtTreeMap`s over a lawful order, so that two maps with the same lookups are
equal. A loop over such a map may visit the keys in any order. A `VisitOrder` is one such choice,
and the lemmas below say what a loop computes independently of the choice.
-/

abbrev FinMap (α : Type u) (β : Type v) [Ord α] := Std.ExtTreeMap α β compare

abbrev FinSet (α : Type u) [Ord α] := Std.ExtTreeSet α compare

structure VisitOrder (α : Type u) where
  visit : List α → List α
  perm : ∀ (keys : List α), (visit keys).Perm keys

namespace VisitOrder

def stored : VisitOrder α := ⟨id, fun _ => .refl _⟩

def reversed : VisitOrder α := ⟨List.reverse, List.reverse_perm⟩

@[simp]
theorem mem_visit (order : VisitOrder α) {keys : List α} : a ∈ order.visit keys ↔ a ∈ keys :=
  (order.perm keys).mem_iff

theorem nodup_visit (order : VisitOrder α) {keys : List α} (h : keys.Nodup)
    : (order.visit keys).Nodup :=
  (order.perm keys).nodup_iff.mpr h

end VisitOrder

namespace FinMap

variable {α : Type u} {β : Type v} [Ord α] [Std.TransOrd α] [Std.LawfulEqOrd α]

def valuesIn (order : VisitOrder α) (m : FinMap α β) : List β :=
  (order.visit m.keys).filterMap (fun (k : α) => m[k]?)

theorem mem_valuesIn (order : VisitOrder α) (m : FinMap α β) (v : β)
    : v ∈ valuesIn order m ↔ ∃ (k : α), m[k]? = some v := by
  simp only [valuesIn, List.mem_filterMap, VisitOrder.mem_visit, Std.ExtTreeMap.mem_keys]
  constructor
  . rintro ⟨k, -, h⟩
    exact ⟨k, h⟩
  . rintro ⟨k, h⟩
    refine ⟨k, ?_, h⟩
    rw [Std.ExtTreeMap.mem_iff_isSome_getElem?]
    simp [h]

theorem map_valuesIn (order : VisitOrder α) (m : FinMap α β) (key : β → α)
    (hkey : ∀ (k : α) (v : β), m[k]? = some v → key v = k)
    : (valuesIn order m).map key = order.visit m.keys := by
  have hmem (k : α) (hk : k ∈ order.visit m.keys) : ∃ (v : β), m[k]? = some v := by
    rw [VisitOrder.mem_visit, Std.ExtTreeMap.mem_keys,
      Std.ExtTreeMap.mem_iff_isSome_getElem?] at hk
    exact Option.isSome_iff_exists.mp hk
  unfold valuesIn
  generalize order.visit m.keys = l at hmem
  induction l with
  | nil => rfl
  | cons k l ih =>
    obtain ⟨v, hv⟩ := hmem k List.mem_cons_self
    rw [List.filterMap_cons_some hv]
    rw [List.map_cons]
    rw [hkey k v hv]
    rw [ih (fun k' hk' => hmem k' (List.mem_cons_of_mem _ hk'))]

theorem nodup_map_valuesIn (order : VisitOrder α) (m : FinMap α β) (key : β → α)
    (hkey : ∀ (k : α) (v : β), m[k]? = some v → key v = k)
    : ((valuesIn order m).map key).Nodup := by
  rw [map_valuesIn order m key hkey]
  exact order.nodup_visit Std.ExtTreeMap.nodup_keys

omit [Std.LawfulEqOrd α] in
theorem perm_valuesIn (order order' : VisitOrder α) (m : FinMap α β)
    : (valuesIn order m).Perm (valuesIn order' m) :=
  ((order.perm m.keys).trans (order'.perm m.keys).symm).filterMap _

def values (m : FinMap α β) : List β := valuesIn .stored m

theorem mem_values (m : FinMap α β) (v : β) : v ∈ values m ↔ ∃ (k : α), m[k]? = some v :=
  mem_valuesIn .stored m v

def anyValue (m : FinMap α β) (p : β → Bool) : Bool := (values m).any p

theorem anyValue_iff (m : FinMap α β) (p : β → Bool)
    : anyValue m p = true ↔ ∃ (k : α) (v : β), m[k]? = some v ∧ p v = true := by
  simp only [anyValue, List.any_eq_true, mem_values]
  constructor
  . rintro ⟨v, ⟨k, hk⟩, hv⟩
    exact ⟨k, v, hk, hv⟩
  . rintro ⟨k, v, hk, hv⟩
    exact ⟨v, ⟨k, hk⟩, hv⟩

theorem anyValue_eq_false_iff (m : FinMap α β) (p : β → Bool)
    : anyValue m p = false ↔ ∀ (k : α) (v : β), m[k]? = some v → p v = false := by
  rw [← Bool.not_eq_true, anyValue_iff]
  simp

theorem getElem?_foldl_insert_list {l : List (α × β)}
    (hl : l.Pairwise (fun x y => ¬ compare x.1 y.1 = .eq)) (m : FinMap α β) (a : α)
    : (∀ (v : β), (a, v) ∈ l → (l.foldl (fun m kv => m.insert kv.1 kv.2) m)[a]? = some v)
        ∧
      ((∀ (v : β), (a, v) ∉ l) → (l.foldl (fun m kv => m.insert kv.1 kv.2) m)[a]? = m[a]?) := by
  induction l generalizing m with
  | nil => simp
  | cons kv l ih =>
    obtain ⟨hkv, hl⟩ := List.pairwise_cons.mp hl
    obtain ⟨hmem, hnot⟩ := ih hl (m.insert kv.1 kv.2)
    rw [List.foldl_cons]
    constructor
    . intro v hv
      obtain rfl | hv := List.mem_cons.mp hv
      . rw [hnot (fun v' hv' => hkv (a, v') hv' Std.ReflCmp.compare_self)]
        exact Std.ExtTreeMap.getElem?_insert_self
      . exact hmem v hv
    . intro h
      rw [hnot (fun v hv => h v (List.mem_cons_of_mem kv hv)), Std.ExtTreeMap.getElem?_insert]
      split
      . next heq =>
        rw [Std.LawfulEqCmp.compare_eq_iff_eq] at heq
        exact absurd (heq ▸ List.mem_cons_self) (h kv.2)
      . rfl

theorem getElem?_foldl_insert (dst src : FinMap α β) (a : α)
    : (src.foldl (fun m k v => m.insert k v) dst)[a]? = src[a]?.or dst[a]? := by
  rw [Std.ExtTreeMap.foldl_eq_foldl_toList]
  obtain ⟨hmem, hnot⟩ := getElem?_foldl_insert_list
    (Std.ExtTreeMap.distinct_keys_toList (t := src)) dst a
  simp only [Std.ExtTreeMap.mem_toList_iff_getElem?_eq_some] at hmem hnot
  cases hv : src[a]? with
  | none => exact hnot (by simp [hv])
  | some v => exact hmem v hv

theorem getElem?_foldl_insertIfNew [DecidableEq α] (skip : α → Bool) (v : β) (l : List α)
    (m : FinMap α β) (a : α)
    : (l.foldl (fun m k => if skip k then m else m.insertIfNew k v) m)[a]?
        =
      (m[a]?).or (if a ∈ l ∧ skip a = false then some v else none) := by
  induction l generalizing m with
  | nil => simp
  | cons k l ih =>
    rw [List.foldl_cons, ih]
    by_cases hskip : skip k = true
    . rw [if_pos hskip]
      by_cases heq : a = k
      . simp [heq, hskip]
      . simp [heq]
    . rw [if_neg hskip, Std.ExtTreeMap.getElem?_insertIfNew]
      by_cases heq : a = k
      . subst heq
        cases hget : m[a]? with
        | none =>
          have hnew : a ∉ m := by simp [Std.ExtTreeMap.mem_iff_isSome_getElem?, hget]
          simp [hnew, hskip]
        | some w =>
          have hmem : a ∈ m := by simp [Std.ExtTreeMap.mem_iff_isSome_getElem?, hget]
          simp [hmem]
      . have hne : ¬ k = a := fun h => heq h.symm
        simp [hne, heq]

theorem getElem?_filter_eq_some (m : FinMap α β) (p : α → β → Bool) (a : α) (v : β)
    : (m.filter p)[a]? = some v ↔ m[a]? = some v ∧ p a v = true := by
  rw [Std.ExtTreeMap.getElem?_filter']
  rw [Option.filter_eq_some_iff]

section Fold

variable {σ : Type w} {γ : Type x}

omit [Std.TransOrd α] in
theorem foldl_toList_get (get : σ → α → γ) (step : σ → α → β → σ) (upd : α → β → γ → γ)
    (l : List (α × β)) (hl : (l.map Prod.fst).Nodup)
    (hsame : ∀ s, ∀ e ∈ l, get (step s e.1 e.2) e.1 = upd e.1 e.2 (get s e.1))
    (hother : ∀ s, ∀ e ∈ l, ∀ k, k ≠ e.1 → get (step s e.1 e.2) k = get s k) (s : σ) (k : α)
    : get (l.foldl (fun s e => step s e.1 e.2) s) k
        =
      match l.find? (fun e => compare e.1 k = .eq) with
      | some e => upd e.1 e.2 (get s k)
      | none => get s k
    := by
  induction l generalizing s with
  | nil => rfl
  | cons e l ih =>
    have hnotin : e.1 ∉ l.map Prod.fst := (List.nodup_cons.mp hl).1
    rw [List.foldl_cons]
    rw [ih (List.nodup_cons.mp hl).2 (fun s e he => hsame s e (List.mem_cons_of_mem _ he))
      (fun s e he => hother s e (List.mem_cons_of_mem _ he))]
    by_cases hk : e.1 = k
    . subst hk
      have hnone : l.find? (fun e' => compare e'.1 e.1 = .eq) = none := by
        rw [List.find?_eq_none]
        intro e' he' heq
        have : e'.1 = e.1 := by simpa using heq
        exact hnotin (this ▸ List.mem_map_of_mem he')
      rw [hnone]
      simp [hsame s e List.mem_cons_self]
    . rw [List.find?_cons]
      have : compare e.1 k ≠ .eq := by simpa using hk
      simp only [this, decide_false]
      rw [hother s e List.mem_cons_self k (fun h => hk h.symm)]

theorem foldl_get (get : σ → α → γ) (step : σ → α → β → σ) (upd : α → β → γ → γ) (m : FinMap α β)
    (hsame : ∀ s k v, m[k]? = some v → get (step s k v) k = upd k v (get s k))
    (hother : ∀ s k v k', m[k]? = some v → k' ≠ k → get (step s k v) k' = get s k') (s : σ) (k : α)
    : get (m.foldl step s) k
        =
      match m[k]? with
      | some v => upd k v (get s k)
      | none => get s k
    := by
  rw [Std.ExtTreeMap.foldl_eq_foldl_toList]
  rw [foldl_toList_get get step upd]
  . cases hfind : m.toList.find? (fun e => compare e.1 k = .eq) with
    | none =>
      cases hm : m[k]? with
      | none => rfl
      | some v =>
        have hmem := Std.ExtTreeMap.mem_toList_iff_getElem?_eq_some.mpr hm
        rw [List.find?_eq_none] at hfind
        exact absurd (by simp) (hfind _ hmem)
    | some e =>
      have hmem := List.mem_of_find?_eq_some hfind
      have heq : e.1 = k := by simpa using List.find?_some hfind
      have hm : m[e.1]? = some e.2 := Std.ExtTreeMap.mem_toList_iff_getElem?_eq_some.mp hmem
      rw [← heq]
      rw [hm]
  . rw [Std.ExtTreeMap.map_fst_toList_eq_keys]
    exact Std.ExtTreeMap.nodup_keys
  . intro s e he
    exact hsame s e.1 e.2 (Std.ExtTreeMap.mem_toList_iff_getElem?_eq_some.mp he)
  . intro s e he k hk
    exact hother s e.1 e.2 k (Std.ExtTreeMap.mem_toList_iff_getElem?_eq_some.mp he) hk

omit [Std.LawfulEqOrd α] in
theorem foldl_rel (R : σ → σ → Prop) (hrefl : ∀ (s : σ), R s s)
    (htrans : ∀ {s s' s'' : σ}, R s s' → R s' s'' → R s s'') (step : σ → α → β → σ) (m : FinMap α β)
    (h : ∀ s k v, R s (step s k v)) (s : σ) : R s (m.foldl step s) := by
  rw [Std.ExtTreeMap.foldl_eq_foldl_toList]
  generalize m.toList = l
  induction l generalizing s with
  | nil => exact hrefl s
  | cons e l ih =>
    rw [List.foldl_cons]
    exact htrans (h s e.1 e.2) (ih _)

omit [Std.LawfulEqOrd α] in
theorem foldl_keeps (get : σ → γ) (step : σ → α → β → σ) (m : FinMap α β)
    (h : ∀ s k v, get (step s k v) = get s) (s : σ) : get (m.foldl step s) = get s :=
  foldl_rel (fun s s' => get s' = get s) (fun _ => rfl) (fun h h' => h'.trans h) step m h s

end Fold

def omitEmpty (m : Option (FinMap α β)) : Option (FinMap α β) :=
  m.filter (fun m => !m.isEmpty)

omit [Std.TransOrd α] [Std.LawfulEqOrd α] in
@[simp]
theorem omitEmpty_omitEmpty (m : Option (FinMap α β)) : omitEmpty (omitEmpty m) = omitEmpty m := by
  simp [omitEmpty]

omit [Std.LawfulEqOrd α] in
@[simp]
theorem getD_omitEmpty (m : Option (FinMap α β)) : (omitEmpty m).getD ∅ = m.getD ∅ := by
  cases m with
  | none => rfl
  | some m =>
    by_cases hempty : m.isEmpty = true
    . have heq : m = ∅ := Std.ExtTreeMap.isEmpty_iff.mp hempty
      subst heq
      rfl
    . rw [omitEmpty, Option.filter_some, if_pos (by simpa using hempty)]

section Count

variable {m m' : FinMap α β} {p q : α → Bool}

def countKeys (m : FinMap α β) (p : α → Bool) : Nat := (m.keys.filter p).length

theorem countKeys_le_add {l : List α}
    (h : ∀ a ∈ m, p a = true → (a ∈ m' ∧ q a = true) ∨ a ∈ l)
    : countKeys m p ≤ countKeys m' q + l.length := by
  have hnodup : (m.keys.filter p).Nodup := Std.ExtTreeMap.nodup_keys.filter _
  have hsub : m.keys.filter p ⊆ m'.keys.filter q ++ l := by
    intro a hmem
    rw [List.mem_filter, Std.ExtTreeMap.mem_keys] at hmem
    rw [List.mem_append, List.mem_filter, Std.ExtTreeMap.mem_keys]
    exact h a hmem.1 hmem.2
  have hle := (List.subperm_of_subset hnodup hsub).length_le
  rw [List.length_append] at hle
  exact hle

theorem countKeys_le (h : ∀ a ∈ m, p a = true → a ∈ m' ∧ q a = true)
    : countKeys m p ≤ countKeys m' q :=
  countKeys_le_add (l := []) (fun a hmem hp => .inl (h a hmem hp))

theorem countKeys_congr (h : ∀ a, (a ∈ m ∧ p a = true) ↔ (a ∈ m' ∧ q a = true))
    : countKeys m p = countKeys m' q :=
  Nat.le_antisymm (countKeys_le (fun a hmem hp => (h a).mp ⟨hmem, hp⟩))
    (countKeys_le (fun a hmem hq => (h a).mpr ⟨hmem, hq⟩))

theorem countKeys_eq_length {l : List α} (hnodup : l.Nodup)
    (h : ∀ a, (a ∈ m ∧ p a = true) ↔ a ∈ l) : countKeys m p = l.length := by
  apply List.Perm.length_eq
  rw [List.perm_ext_iff_of_nodup (Std.ExtTreeMap.nodup_keys.filter _) hnodup]
  intro a
  rw [List.mem_filter, Std.ExtTreeMap.mem_keys]
  exact h a

theorem countKeys_or (h : ∀ a ∈ m, p a = true → q a = false)
    : countKeys m (fun a => p a || q a) = countKeys m p + countKeys m q := by
  have hall : ∀ a ∈ m.keys, p a = true → q a = false :=
    fun a hmem => h a (Std.ExtTreeMap.mem_keys.mp hmem)
  unfold countKeys
  generalize m.keys = keys at hall
  induction keys with
  | nil => rfl
  | cons a keys ih =>
    have ih := ih (fun b hmem => hall b (List.mem_cons_of_mem a hmem))
    have ha := hall a List.mem_cons_self
    cases hp : p a <;> cases hq : q a <;> simp_all <;> omega

theorem mem_filter_iff {f : α → β → Bool} (h : ∀ a v, m[a]? = some v → f a v = p a) (a : α)
    : a ∈ m.filter f ↔ a ∈ m ∧ p a = true := by
  rw [Std.ExtTreeMap.mem_iff_isSome_getElem?, Std.ExtTreeMap.mem_iff_isSome_getElem?,
    Option.isSome_iff_exists, Option.isSome_iff_exists]
  simp only [getElem?_filter_eq_some]
  constructor
  . rintro ⟨v, hv, hf⟩
    exact ⟨⟨v, hv⟩, (h a v hv).symm.trans hf⟩
  . rintro ⟨⟨v, hv⟩, hp⟩
    exact ⟨v, hv, (h a v hv).trans hp⟩

theorem size_filter_filter {f g : α → β → Bool} (hf : ∀ a v, m[a]? = some v → f a v = p a)
    (hg : ∀ a v, m[a]? = some v → g a v = q a)
    : ((m.filter f).filter g).size = countKeys m (fun a => p a && q a) := by
  rw [← Std.ExtTreeMap.length_keys, eq_comm]
  apply countKeys_eq_length Std.ExtTreeMap.nodup_keys
  intro a
  have hfiltered (a : α) (v : β) (hv : (m.filter f)[a]? = some v) : g a v = q a :=
    hg a v ((getElem?_filter_eq_some _ _ _ _).mp hv).1
  rw [Std.ExtTreeMap.mem_keys, mem_filter_iff hfiltered, mem_filter_iff hf, Bool.and_eq_true,
    and_assoc]

end Count

end FinMap

namespace FinSet

variable {α : Type u} [Ord α] [Std.TransOrd α] [Std.LawfulEqOrd α]

theorem mem_filter (t : FinSet α) (p : α → Bool) (a : α)
    : a ∈ t.filter p ↔ a ∈ t ∧ p a = true := by
  rw [Std.ExtTreeSet.mem_filter]
  simp

end FinSet
