import Hysteron.Store.Kubernetes

/-!
The swap on a Kubernetes object against the compare-and-swap register that it stands for. It writes
only over the previous value, at most once, and both kinds of objects behave the same. A change of the
value by somebody else is reported as such only when the call reads the object again.
-/

namespace Hysteron
namespace Kube

universe u

variable {ρ : Type u} {kind : Kind} {p : Put ρ} {s s' : State ρ} {o : Object ρ}

theorem secret_attempt_eq (p : Put ρ) (o : Object ρ)
    : Kind.secret.attempt p (some o)
        =
      if o.get kubeClusterDataKey = p.previous then some (.update (p.updated o)) else none := by
  simp only [Kind.attempt, atomicPutSecretClusterData]
  rcases Option.eq_none_or_eq_some p.previous with hprevious | ⟨previous, hprevious⟩ <;>
    rcases Option.eq_none_or_eq_some (o.get kubeClusterDataKey) with hcur | ⟨curcd, hcur⟩
  . simp [hprevious, hcur]
  . simp [hprevious, hcur]
  . simp [hprevious, hcur]
  . by_cases heq : previous = curcd
    . simp [hprevious, hcur, heq]
    . simp [hprevious, hcur, heq, Ne.symm heq]

theorem configMap_attempt_eq (p : Put ρ) (o : Object ρ)
    : Kind.configMap.attempt p (some o) = Kind.secret.attempt p (some o) := by
  simp only [Kind.attempt, atomicPutConfigMapClusterData, atomicPutSecretClusterData, Object.get]
  rcases Option.eq_none_or_eq_some p.previous with hprevious | ⟨previous, hprevious⟩ <;>
    rcases Option.eq_none_or_eq_some o.data with hdata | ⟨data, hdata⟩ <;>
      simp [hprevious, hdata]

theorem attempt_eq (kind : Kind) (p : Put ρ) (object : Option (Object ρ))
    : kind.attempt p object
        =
      if value object = p.previous then
        match object with
        | none =>
          some (.create p.clusterLabels ((∅ : FinMap String String).insert kubeClusterDataKey p.cdj))
        | some o => some (.update (p.updated o))
      else
        none := by
  cases object with
  | none =>
    have hcreate : kind.attempt p none = p.createRequest := by cases kind <;> rfl
    rw [hcreate]
    unfold Put.createRequest value
    cases p.previous <;> simp
  | some o =>
    have hvalue : value (some o) = o.get kubeClusterDataKey := rfl
    rw [hvalue]
    cases kind with
    | configMap => rw [configMap_attempt_eq, secret_attempt_eq]
    | secret => rw [secret_attempt_eq]

theorem kinds_agree (p : Put ρ) (s : State ρ) : s.request .configMap p = s.request .secret p := by
  unfold State.request
  rw [attempt_eq, attempt_eq]

theorem attempt_eq_some {object : Option (Object ρ)} {request : Request ρ}
    (h : kind.attempt p object = some request)
    : value object = p.previous
        ∧
      match object with
      | none =>
        request
          = .create p.clusterLabels ((∅ : FinMap String String).insert kubeClusterDataKey p.cdj)
      | some o => request = .update (p.updated o) := by
  rw [attempt_eq] at h
  split at h
  . next heq =>
    refine ⟨heq, ?_⟩
    cases object <;> cases h <;> rfl
  . cases h

structure Swapped (p : Put ρ) (before : Option (Object ρ)) (after : Object ρ) : Prop where
  previous : value before = p.previous
  value : after.get kubeClusterDataKey = some p.cdj
  data : ∀ (key : String), key ≠ kubeClusterDataKey →
    after.get key = before.bind (fun o => o.get key)
  labels : ∀ (key : String), key ≠ kubeClusterLabel →
    after.labels.bind (fun l => l[key]?) = before.bind (fun o => o.labels.bind (fun l => l[key]?))
  rest : ∀ (o : Object ρ), before = some o → after.rest = o.rest

theorem getElem?_copyLabels (labels : FinMap String String) (p : Put ρ) {key : String}
    (hne : key ≠ kubeClusterLabel)
    : (copyLabels labels p.clusterLabels)[key]? = labels[key]? := by
  have hnone : p.clusterLabels[key]? = none := by
    simp [Put.clusterLabels, Ne.symm hne]
  unfold copyLabels
  rw [FinMap.foldl_get (fun (l : FinMap String String) k => l[k]?) _ (fun _ v _ => some v)]
  . rw [hnone]
  . intro l k v _
    simp
  . intro l k v k' _ hne'
    simp [Std.ExtTreeMap.getElem?_insert, Ne.symm hne']

theorem swapped_updated (hprevious : value (some o) = p.previous) (version : Nat)
    : Swapped p (some o) { p.updated o with resourceVersion := version } where
  previous := hprevious
  value := by simp [Put.updated, Object.get]
  data := by
    intro key hne
    cases hdata : o.data <;>
      simp [Put.updated, Object.get, Std.ExtTreeMap.getElem?_insert, Ne.symm hne, hdata]
  labels := by
    intro key hne
    cases hlabels : o.labels <;> simp [Put.updated, getElem?_copyLabels _ p hne, hlabels]
  rest := by
    rintro _ ⟨rfl⟩
    rfl

theorem swapped_created (hprevious : p.previous = none) (version : Nat)
    : Swapped p none {
        resourceVersion := version
        labels := some p.clusterLabels
        data := some ((∅ : FinMap String String).insert kubeClusterDataKey p.cdj)
        rest := p.fresh
      } where
  previous := by
    rw [hprevious]
    rfl
  value := by simp [Object.get]
  data := by
    intro key hne
    simp [Object.get, Ne.symm hne]
  labels := by
    intro key hne
    simp [Put.clusterLabels, Ne.symm hne]
  rest := by
    intro o ho
    cases ho

/--
A pending request was decided on an object that is still there if its resource version is, and the
call has written exactly when it has returned without an error.
-/
structure Consistent (kind : Kind) (p : Put ρ) (s : State ρ) : Prop where
  version : ∀ (o : Object ρ), s.object = some o → o.resourceVersion ≤ s.version
  decided : ∀ (got : Option (Object ρ)) (request : Request ρ) (left : Nat),
    s.call = .requested got request left →
      kind.attempt p got = some request
        ∧
      ∀ (o : Object ρ), got = some o →
        o.resourceVersion ≤ s.version
          ∧
        ∀ (current : Object ρ), s.object = some current →
          current.resourceVersion = o.resourceVersion → current = o
  wrote : match s.wrote with
    | none => s.call ≠ .returned .ok
    | some (before, after) => s.call = .returned .ok ∧ Swapped p before after

inductive Requested (kind : Kind) (p : Put ρ) (s : State ρ) : State ρ → Prop where
  | decided (left : Nat) (request : Request ρ) (hcall : s.call = .start left)
    (hattempt : kind.attempt p s.object = some request)
    : Requested kind p s { s with call := .requested s.object request (left - 1) }
  | modified (left : Nat) (hcall : s.call = .start left) (hattempt : kind.attempt p s.object = none)
    : Requested kind p s { s with call := .returned .errKeyModified }
  | notFound (got : Option (Object ρ)) (object : Object ρ) (left : Nat)
    (hcall : s.call = .requested got (.update object) left) (hobject : s.object = none)
    : Requested kind p s { s with call := .returned .notFound }
  | conflict (got : Option (Object ρ)) (object current : Object ρ) (left : Nat)
    (hcall : s.call = .requested got (.update object) left) (hobject : s.object = some current)
    (hstale : current.resourceVersion ≠ object.resourceVersion)
    : Requested kind p s { s with call := if left = 0 then .returned .conflict else .start left }
  | alreadyExists (got : Option (Object ρ)) (labels data : FinMap String String) (left : Nat)
    (current : Object ρ) (hcall : s.call = .requested got (.create labels data) left)
    (hobject : s.object = some current)
    : Requested kind p s { s with call := .returned .alreadyExists }
  | updated (got : Option (Object ρ)) (object current : Object ρ) (left : Nat)
    (hcall : s.call = .requested got (.update object) left) (hobject : s.object = some current)
    (hversion : current.resourceVersion = object.resourceVersion)
    : Requested kind p s (s.store object)
  | created (got : Option (Object ρ)) (labels data : FinMap String String) (left : Nat)
    (hcall : s.call = .requested got (.create labels data) left) (hobject : s.object = none)
    : Requested kind p s (s.store {
        resourceVersion := 0, labels := some labels, data := some data, rest := p.fresh })
  | idle (result : PutResult) (hcall : s.call = .returned result) : Requested kind p s s

theorem request_cases (kind : Kind) (p : Put ρ) (s : State ρ)
    : Requested kind p s (s.request kind p) := by
  unfold State.request
  split
  . next left hcall =>
    split
    . next hattempt => exact .modified left hcall hattempt
    . next request hattempt => exact .decided left request hcall hattempt
  . next got request left hcall =>
    unfold State.answer
    cases request with
    | update object =>
      dsimp only
      split
      . next hobject => exact .notFound got object left hcall hobject
      . next current hobject =>
        split
        . next hstale => exact .conflict got object current left hcall hobject hstale
        . next hversion => exact .updated got object current left hcall hobject (by simpa using hversion)
    | create labels data =>
      dsimp only
      split
      . next hobject => exact .created got labels data left hcall hobject
      . next current hobject => exact .alreadyExists got labels data left current hcall hobject
  . next result hcall => exact .idle result hcall

theorem Consistent.setCall {call : Progress ρ} (h : Consistent kind p s)
    (hold : s.call ≠ .returned .ok) (hok : call ≠ .returned .ok)
    (hdecided : ∀ (got : Option (Object ρ)) (request : Request ρ) (left : Nat),
      call = .requested got request left → got = s.object ∧ kind.attempt p got = some request)
    : Consistent kind p { s with call } where
  version := h.version
  decided := by
    intro got request left hcall
    obtain ⟨rfl, hattempt⟩ := hdecided got request left hcall
    refine ⟨hattempt, ?_⟩
    intro o ho
    refine ⟨h.version o ho, ?_⟩
    intro current hcurrent _
    rw [ho] at hcurrent
    cases hcurrent
    rfl
  wrote := by
    have hwrote := h.wrote
    cases hw : s.wrote with
    | none => exact hok
    | some w =>
      rw [hw] at hwrote
      exact absurd hwrote.1 hold

theorem consistent_store {object : Object ρ}
    (hswapped : Swapped p s.object { object with resourceVersion := s.version + 1 })
    : Consistent kind p (s.store object) where
  version := by
    rintro o ⟨rfl⟩
    exact Nat.le_refl _
  decided := by
    intro got request left hcall
    cases hcall
  wrote := ⟨rfl, hswapped⟩

theorem consistent_requested (h : Consistent kind p s) (hrequested : Requested kind p s s')
    : Consistent kind p s' := by
  cases hrequested with
  | decided left request hcall hattempt =>
    apply h.setCall
    . simp [hcall]
    . simp
    . rintro got request' left' ⟨rfl, rfl, rfl⟩
      exact ⟨rfl, hattempt⟩
  | modified left hcall =>
    apply h.setCall
    . simp [hcall]
    . simp
    . intros
      contradiction
  | notFound got object left hcall =>
    apply h.setCall
    . simp [hcall]
    . simp
    . intros
      contradiction
  | conflict got object current left hcall =>
    apply h.setCall
    . simp [hcall]
    . split <;> simp
    . intro got request left hgot
      split at hgot <;> cases hgot
  | alreadyExists got labels data left current hcall =>
    apply h.setCall
    . simp [hcall]
    . simp
    . intros
      contradiction
  | updated got object current left hcall hobject hversion =>
    obtain ⟨hattempt, hgot⟩ := h.decided got (.update object) left hcall
    obtain ⟨hprevious, hrequest⟩ := attempt_eq_some hattempt
    cases got with
    | none => cases hrequest
    | some o =>
      cases hrequest
      -- The resource version has not changed, so the object is still the one that was read.
      cases (hgot o rfl).2 current hobject hversion
      apply consistent_store
      rw [hobject]
      exact swapped_updated hprevious _
  | created got labels data left hcall hobject =>
    obtain ⟨hattempt, -⟩ := h.decided got (.create labels data) left hcall
    obtain ⟨hprevious, hrequest⟩ := attempt_eq_some hattempt
    cases got with
    | none =>
      cases hrequest
      apply consistent_store
      rw [hobject]
      exact swapped_created hprevious.symm _
    | some o => cases hrequest
  | idle => exact h

theorem consistent_inductive (kind : Kind) (p : Put ρ)
    : (system kind p).Inductive (Consistent kind p) where
  init := by
    rintro s ⟨-, hcall, hwrote, hversion⟩
    constructor
    . exact hversion
    . intro got request left hrequested
      rw [hcall] at hrequested
      cases hrequested
    . rw [hwrote, hcall]
      simp
  step := by
    intro s s' h hstep
    cases hstep with
    | request => exact consistent_requested h (request_cases kind p s)
    | foreign object hversion =>
      constructor
      . intro o ho
        exact Nat.le_of_eq (hversion o ho)
      . intro got request left hcall
        obtain ⟨hattempt, hgot⟩ := h.decided got request left hcall
        refine ⟨hattempt, ?_⟩
        intro o ho
        have hle := (hgot o ho).1
        refine ⟨Nat.le_succ_of_le hle, ?_⟩
        intro current hcurrent hsame
        have := hversion current hcurrent
        omega
      . exact h.wrote

/--
The call will see a change of the value: the value is still the previous one, or the object is read
(again), since a pending update will be rejected with attempts left.
-/
def Sees (p : Put ρ) (s : State ρ) : Prop :=
  value s.object = p.previous
    ∨
  match s.call with
  | .start _ => True
  | .requested _ (.update _) left => s.object.isSome = true ∧ left ≠ 0
  | .requested _ (.create _ _) _ => False
  | .returned _ => True

def ReportsModified (kind : Kind) (p : Put ρ) (s : State ρ) : Prop :=
  ∀ (result : PutResult),
    (∀ (before : PutResult), s.call ≠ .returned before)
      →
    (s.request kind p).call = .returned result
      →
    result ≠ .ok
      →
    value s.object ≠ p.previous
      →
    result = .errKeyModified

theorem reportsModified_iff (h : Consistent kind p s) : ReportsModified kind p s ↔ Sees p s := by
  unfold ReportsModified Sees
  by_cases hvalue : value s.object = p.previous
  . simp [hvalue]
  . simp only [hvalue, false_or, ne_eq, not_false_eq_true, true_implies]
    generalize hs' : s.request kind p = s'
    have hcases := request_cases kind p s
    rw [hs'] at hcases
    cases hcases with
    | decided left request hcall => simp [hcall]
    | modified left hcall => simp [hcall]
    | notFound got object left hcall hobject => simp [hcall, hobject]
    | conflict got object current left hcall hobject hstale =>
      by_cases hleft : left = 0 <;> simp [hcall, hobject, hleft]
    | alreadyExists got labels data left current hcall => simp [hcall]
    | updated got object current left hcall hobject hversion =>
      -- The value would be the one that was read.
      obtain ⟨hattempt, hgot⟩ := h.decided got (.update object) left hcall
      obtain ⟨hprevious, hrequest⟩ := attempt_eq_some hattempt
      cases got with
      | none => cases hrequest
      | some o =>
        cases hrequest
        cases (hgot o rfl).2 current hobject hversion
        rw [← hobject] at hprevious
        exact absurd hprevious hvalue
    | created got labels data left hcall hobject =>
      obtain ⟨hattempt, -⟩ := h.decided got (.create labels data) left hcall
      obtain ⟨hprevious, hrequest⟩ := attempt_eq_some hattempt
      cases got with
      | none =>
        rw [← hobject] at hprevious
        exact absurd hprevious hvalue
      | some o => cases hrequest
    | idle result hcall => simp [hcall]

/--
In every run, a swap that succeeds has found the previous value at the instant of its write, and has
left the new one and everything else as it was; one that fails has written nothing; and both kinds of
objects agree. An error names a change of the value exactly when the call sees it.
-/
theorem atomicPutClusterData_swaps (kind : Kind) (p : Put ρ) (s : State ρ)
    (h : (system kind p).Reachable s)
    : (s.call = .returned .ok →
        ∃ before after, s.wrote = some (before, after) ∧ Swapped p before after)
        ∧
      (∀ (result : PutResult), s.call = .returned result → result ≠ .ok → s.wrote = none)
        ∧
      s.request .configMap p = s.request .secret p
        ∧
      (ReportsModified kind p s ↔ Sees p s) := by
  have hconsistent := (consistent_inductive kind p).of_reachable h
  have hwrote := hconsistent.wrote
  refine ⟨?_, ?_, kinds_agree p s, reportsModified_iff hconsistent⟩
  . intro hok
    cases hw : s.wrote with
    | none =>
      rw [hw] at hwrote
      exact absurd hok hwrote
    | some w =>
      rw [hw] at hwrote
      exact ⟨w.1, w.2, rfl, hwrote.2⟩
  . intro result hresult hne
    cases hw : s.wrote with
    | none => rfl
    | some w =>
      rw [hw] at hwrote
      rw [hwrote.1] at hresult
      cases hresult
      exact absurd rfl hne

def samplePut : Put Unit where
  clusterName := "cluster"
  cdj := "new"
  previous := none
  attempts := 5
  fresh := ()

def sampleAbsent : State Unit where
  object := none
  version := 0
  call := .start samplePut.attempts
  wrote := none

theorem reachable_sampleAbsent (kind : Kind) : (system kind samplePut).Reachable sampleAbsent :=
  .init ⟨by decide, rfl, rfl, by simp [sampleAbsent]⟩

theorem atomicPutClusterData_swaps_sample
    : ∃ (s : State Unit),
        s.call = .returned .ok
          ∧
        ∃ before after, s.wrote = some (before, after) ∧ Swapped samplePut before after := by
  have hwritten := ((reachable_sampleAbsent .configMap).step (.request _)).step (.request _)
  exact ⟨_, rfl, (atomicPutClusterData_swaps .configMap samplePut _ hwritten).1 rfl⟩

def sampleOther : Object Unit where
  resourceVersion := 1
  labels := none
  data := some ((∅ : FinMap String String).insert kubeClusterDataKey "other")
  rest := ()

/--
Somebody else creates the object between the read and the write of a call: the call fails, but not
with the error for a changed value.
-/
theorem atomicPutClusterData_misreports
    : ∃ (kind : Kind) (p : Put Unit) (s : State Unit) (result : PutResult),
        (system kind p).Reachable s
          ∧
        (∀ (before : PutResult), s.call ≠ .returned before)
          ∧
        (s.request kind p).call = .returned result
          ∧
        result ≠ .ok
          ∧
        value s.object ≠ p.previous
          ∧
        result ≠ .errKeyModified := by
  have hread := (reachable_sampleAbsent .configMap).step (.request _)
  have hcreated := hread.step (.foreign _ (some sampleOther) (by
    rintro o ⟨rfl⟩
    rfl))
  refine ⟨.configMap, samplePut, _, .alreadyExists, hcreated, ?_, rfl, by simp, ?_, by simp⟩
  . intro before hreturned
    cases hreturned
  . simp [value, sampleOther, Object.get, samplePut]

end Kube
end Hysteron
