import Hysteron.Cluster.Types
import Hysteron.Store.Kubernetes

/-!
What the stores make of the errors of their clients.
-/

namespace Hysteron

inductive ContextError where
  | deadlineExceeded
  | canceled
  deriving DecidableEq

inductive GoError where
  | context (err : ContextError)
  | other (text : String)
  /-- Formatted with `%w`, which keeps the error in the chain. -/
  | wrapped (text : String) (err : GoError)
  /-- Formatted with `%v`, which keeps the text of the error only. -/
  | formatted (text : String) (err : GoError)
  deriving DecidableEq

def GoError.isContextError : GoError → Bool
  | .context _ => true
  | .other _ => false
  | .wrapped _ err => err.isContextError
  | .formatted _ _ => false

namespace Store

inductive Backend where
  | kvBacked
  | kubernetes (kind : Kube.Kind)
  deriving DecidableEq

inductive GetAnswer where
  | value (cd : Option ClusterData)
  | failed (err : GoError)
  | malformed (err : GoError)

def Backend.getClusterData : Backend → GetAnswer → Except GoError (Option ClusterData)
  | _, .value cd => .ok cd
  | _, .malformed err => .error err
  | .kvBacked, .failed err => .error err
  | .kubernetes .configMap, .failed err =>
    .error (.formatted "failed to get latest version of configmap" err)
  | .kubernetes .secret, .failed err =>
    .error (.formatted "failed to get latest version of secret" err)

/--
What publishing an info meets. Before the write a lease is granted, or a pod is read in Kubernetes.
-/
inductive SetAnswer where
  | done
  | notPrepared (err : GoError)
  | notWritten (err : GoError)

def Backend.setProxyInfo : Backend → SetAnswer → Option GoError
  | _, .done => none
  | .kvBacked, .notPrepared err => some err
  | .kvBacked, .notWritten err => some err
  | .kubernetes _, .notPrepared err =>
    some (.wrapped "update failed" (.formatted "failed to get latest version of pod" err))
  | .kubernetes _, .notWritten err => some (.wrapped "update failed" err)

end Store
end Hysteron
