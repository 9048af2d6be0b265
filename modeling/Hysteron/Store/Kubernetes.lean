import Hysteron.Util.FinMap
import Hysteron.Util.TransitionSystem

/-!
The compare-and-swap of the cluster data in a Kubernetes object. It is made of a read of the object,
a comparison of the value, and an update that the API server rejects when the object has changed,
all of it in a loop that starts again after such a rejection.
-/

namespace Hysteron
namespace Kube

def kubeClusterDataKey : String := "clusterdata"

def kubeClusterLabel : String := "hysteron-cluster"

/--
A ConfigMap or a Secret. A missing map and an empty one are two values. `rest` is everything that the
store does not touch.
-/
structure Object (ρ : Type u) where
  resourceVersion : Nat
  labels : Option (FinMap String String)
  data : Option (FinMap String String)
  rest : ρ

inductive Kind where
  | configMap
  | secret
  deriving DecidableEq

/--
The arguments of a write: the store, the new value, and the value read before. The library that
retries decides how many attempts a call has.
-/
structure Put (ρ : Type u) where
  clusterName : String
  cdj : String
  previous : Option String
  attempts : Nat
  fresh : ρ

inductive Request (ρ : Type u) where
  | update (object : Object ρ)
  | create (labels data : FinMap String String)

variable {ρ : Type u}

def Put.clusterLabels (p : Put ρ) : FinMap String String :=
  (∅ : FinMap String String).insert kubeClusterLabel p.clusterName

def copyLabels (labels clusterLabels : FinMap String String) : FinMap String String :=
  clusterLabels.foldl (fun labels k v => labels.insert k v) labels

def Put.updated (p : Put ρ) (result : Object ρ) : Object ρ :=
  { result with
    labels := some (copyLabels (result.labels.getD ∅) p.clusterLabels)
    data := some ((result.data.getD ∅).insert kubeClusterDataKey p.cdj)
  }

def Put.createRequest (p : Put ρ) : Option (Request ρ) :=
  if p.previous.isSome then
    none
  else
    some (.create p.clusterLabels ((∅ : FinMap String String).insert kubeClusterDataKey p.cdj))

def atomicPutConfigMapClusterData (p : Put ρ) : Option (Object ρ) → Option (Request ρ)
  | none => p.createRequest
  | some result =>
    match p.previous with
    | none =>
      match result.data with
      | none => some (.update (p.updated result))
      | some data =>
        -- The cluster data exists but previous is nil.
        if data.contains kubeClusterDataKey then none else some (.update (p.updated result))
    | some previous =>
      match result.data with
      | none => none
      | some data =>
        match data[kubeClusterDataKey]? with
        | none => none
        | some curcd => if previous ≠ curcd then none else some (.update (p.updated result))

def Object.get (object : Object ρ) (key : String) : Option String :=
  object.data.bind (fun data => data[key]?)

def atomicPutSecretClusterData (p : Put ρ) : Option (Object ρ) → Option (Request ρ)
  | none => p.createRequest
  | some result =>
    match p.previous with
    | none =>
      if (result.get kubeClusterDataKey).isSome then none else some (.update (p.updated result))
    | some previous =>
      match result.get kubeClusterDataKey with
      | none => none
      | some curcd => if previous ≠ curcd then none else some (.update (p.updated result))

def Kind.attempt : Kind → Put ρ → Option (Object ρ) → Option (Request ρ)
  | .configMap => atomicPutConfigMapClusterData
  | .secret => atomicPutSecretClusterData

inductive PutResult where
  | ok
  | errKeyModified
  | conflict
  | alreadyExists
  | notFound
  deriving DecidableEq

inductive Progress (ρ : Type u) where
  | start (left : Nat)
  | requested (got : Option (Object ρ)) (request : Request ρ) (left : Nat)
  | returned (result : PutResult)

structure State (ρ : Type u) where
  object : Option (Object ρ)
  version : Nat
  call : Progress ρ
  wrote : Option (Option (Object ρ) × Object ρ)

def State.store (s : State ρ) (object : Object ρ) : State ρ :=
  let object := { object with resourceVersion := s.version + 1 }
  {
    object := some object
    version := s.version + 1
    call := .returned .ok
    wrote := some (s.object, object)
  }

def State.answer (p : Put ρ) (s : State ρ) (left : Nat) : Request ρ → State ρ
  | .update object =>
    match s.object with
    | none => { s with call := .returned .notFound }
    | some current =>
      if current.resourceVersion ≠ object.resourceVersion then
        { s with call := if left = 0 then .returned .conflict else .start left }
      else
        s.store object
  | .create labels data =>
    match s.object with
    | none => s.store { resourceVersion := 0, labels := some labels, data := some data, rest := p.fresh }
    | some _ => { s with call := .returned .alreadyExists }

def State.request (kind : Kind) (p : Put ρ) (s : State ρ) : State ρ :=
  match s.call with
  | .start left =>
    match kind.attempt p s.object with
    | none => { s with call := .returned .errKeyModified }
    | some request => { s with call := .requested s.object request (left - 1) }
  | .requested _ request left => s.answer p left request
  | .returned _ => s

/--
Between any two requests other clients may change or delete the object, or create it. Every change
gets a new resource version.
-/
inductive Step (kind : Kind) (p : Put ρ) : State ρ → State ρ → Prop where
  | request (s : State ρ) : Step kind p s (s.request kind p)
  | foreign (s : State ρ) (object : Option (Object ρ))
    (hversion : ∀ o, object = some o → o.resourceVersion = s.version + 1)
    : Step kind p s { s with object, version := s.version + 1 }

def system (kind : Kind) (p : Put ρ) : TransitionSystem (State ρ) where
  init s :=
    0 < p.attempts
      ∧
    s.call = .start p.attempts
      ∧
    s.wrote = none
      ∧
    ∀ o, s.object = some o → o.resourceVersion ≤ s.version
  step := Step kind p

def value (object : Option (Object ρ)) : Option String :=
  object.bind (fun o => o.get kubeClusterDataKey)

end Kube
end Hysteron
