import Hysteron.Cluster.Validate
import Hysteron.Store.Errors

/-!
The checker of a proxy, which routes connections to the writable database. What a check does after
it has read the cluster data is a list of actions, since other processes see it between any two of
them.
The read-only side matters here only as far as its listener can fail to start.
-/

namespace Hysteron

structure Destination where
  dbuid : String
  addr : String
  deriving DecidableEq

inductive ListenAnswer where
  | listening
  | unresolved (err : GoError)
  | failed (err : GoError)

structure ProxyListener (δ : Type) where
  tcpProxy : Option δ := none
  deriving DecidableEq

def ProxyListener.start (idle : δ) (answer : ListenAnswer) (l : ProxyListener δ)
    : Except GoError (ProxyListener δ) :=
  if l.tcpProxy.isSome then
    .ok l
  else
    match answer with
    | .listening => .ok { tcpProxy := some idle }
    | .unresolved err => .error (.formatted "error resolving tcp addr" err)
    | .failed err => .error (.formatted "error listening on tcp addr" err)

def ProxyListener.stop (_ : ProxyListener δ) : ProxyListener δ := { tcpProxy := none }

def ProxyListener.setDestination (destination : δ) (l : ProxyListener δ) : ProxyListener δ :=
  { l with tcpProxy := l.tcpProxy.map (fun _ => destination) }

/--
A listener that is disabled is `none`.
-/
structure ClusterChecker where
  uid : String
  backend : Store.Backend
  stopListening : Bool := true
  writable : Option (ProxyListener (Option Destination)) := some {}
  readOnly : Option (ProxyListener Unit) := none
  proxyCheckInterval : Duration := 5 * second
  proxyTimeout : Duration := 15 * second

namespace ClusterChecker

def destination (c : ClusterChecker) : Option Destination :=
  c.writable.bind fun l => l.tcpProxy.getD none

def setWritableDestination (destination : Option Destination) (c : ClusterChecker)
    : ClusterChecker :=
  { c with writable := c.writable.map (ProxyListener.setDestination destination) }

def updateRuntimeConfig (proxyCheckInterval proxyTimeout : Duration) (c : ClusterChecker)
    : ClusterChecker :=
  { c with proxyCheckInterval, proxyTimeout }

def stopListeners (c : ClusterChecker) : ClusterChecker :=
  { c with
    writable := c.writable.map ProxyListener.stop
    readOnly := c.readOnly.map ProxyListener.stop
  }

inductive Action where
  | setWritableDestination (destination : Option Destination)
  /-- An error ends the check, and also makes it fail if the info is `required`. -/
  | setProxyInfo (generation : Int) (proxyTimeout : Duration) (required : Bool)
  | updateRuntimeConfig (proxyCheckInterval proxyTimeout : Duration)
  | fail (err : GoError)

def Action.apply : Action → ClusterChecker → ClusterChecker
  | .setWritableDestination destination, c => c.setWritableDestination destination
  | .setProxyInfo _ _ _, c => c
  | .updateRuntimeConfig proxyCheckInterval proxyTimeout, c =>
    c.updateRuntimeConfig proxyCheckInterval proxyTimeout
  | .fail _, c => c

/--
A proxy without a writable listener does not publish itself.
-/
def publish (c : ClusterChecker) (generation : Int) (proxyTimeout : Duration) (required : Bool)
    : List Action :=
  if c.writable.isSome then [.setProxyInfo generation proxyTimeout required] else []

def enabledDestination (c : ClusterChecker) (proxy : Proxy) (addr : String) : Option Destination :=
  if c.uid ∈ proxy.spec.enabledProxies.elems then
    some { dbuid := proxy.spec.masterDBUID, addr }
  else
    none

/--
What a check does with the cluster data that it has read. `resolve` is `net.ResolveTCPAddr`.
-/
def plan (resolve : String → String → Option String) (cd : Option ClusterData) (c : ClusterChecker)
    : List Action :=
  match cd with
  | none => [.setWritableDestination none]
  | some cd =>
    if cd.formatVersion ≠ currentCDFormatVersion then
      [.setWritableDestination none,
        .fail (.other ("unsupported clusterdata format version: " ++ toString cd.formatVersion))]
    else
      match cd.cluster.spec.validate with
      | .error e =>
        [.setWritableDestination none, .fail (.wrapped "clusterdata validation failed" (.other e))]
      | .ok () =>
        let cdProxyCheckInterval := cd.cluster.defSpec.proxyCheckInterval
        let cdProxyTimeout := cd.cluster.defSpec.proxyTimeout
        let proxyTimeout := max c.proxyTimeout cdProxyTimeout
        match cd.dbs[cd.proxy.spec.masterDBUID]? with
        | none =>
          .setWritableDestination none :: c.publish cd.proxy.generation proxyTimeout false
            ++ [.updateRuntimeConfig cdProxyCheckInterval cdProxyTimeout]
        | some db =>
          match resolve db.status.listenAddress db.status.port with
          | none => [.setWritableDestination none]
          | some addr =>
            c.publish cd.proxy.generation proxyTimeout true
              ++ [.updateRuntimeConfig cdProxyCheckInterval cdProxyTimeout,
                .setWritableDestination (c.enabledDestination cd.proxy addr)]

structure CheckAnswers where
  ctxErr : Option ContextError := none
  getClusterData : Store.GetAnswer
  listenWritable : ListenAnswer := .listening
  listenReadOnly : ListenAnswer := .listening
  resolve : String → String → Option String
  setProxyInfo : Store.SetAnswer := .done

def runActions (setProxyInfo : Option GoError)
    : List Action → ClusterChecker → ClusterChecker × Except GoError Unit
  | [], c => (c, .ok ())
  | .fail err :: _, c => (c, .error err)
  | .setProxyInfo generation proxyTimeout required :: rest, c =>
    match setProxyInfo with
    | none =>
      runActions setProxyInfo rest ((Action.setProxyInfo generation proxyTimeout required).apply c)
    | some err =>
      (c, if required then .error (.wrapped "failed to update proxyInfo" err) else .ok ())
  | .setWritableDestination destination :: rest, c =>
    runActions setProxyInfo rest ((Action.setWritableDestination destination).apply c)
  | .updateRuntimeConfig proxyCheckInterval proxyTimeout :: rest, c =>
    runActions setProxyInfo rest
      ((Action.updateRuntimeConfig proxyCheckInterval proxyTimeout).apply c)

def startListener (text : String) (idle : δ) (answer : ListenAnswer)
    : Option (ProxyListener δ) → Except GoError (Option (ProxyListener δ))
  | none => .ok none
  | some l =>
    match l.start idle answer with
    | .ok l => .ok (some l)
    | .error err => .error (.wrapped text err)

/--
The writable listener keeps running when the other one does not start.
-/
def startListeners (a : CheckAnswers) (c : ClusterChecker)
    : ClusterChecker × Except GoError Unit :=
  match startListener "failed to start writable proxy" none a.listenWritable c.writable with
  | .error err => (c, .error err)
  | .ok writable =>
    match startListener "failed to start read-only proxy" () a.listenReadOnly c.readOnly with
    | .error err => ({ c with writable }, .error err)
    | .ok readOnly => ({ c with writable, readOnly }, .ok ())

def check (a : CheckAnswers) (c : ClusterChecker) : ClusterChecker × Except GoError Unit :=
  match a.ctxErr with
  | some err => (c, .error (.context err))
  | none =>
    match c.backend.getClusterData a.getClusterData with
    | .error err => (c, .error (.wrapped "cannot get cluster data" err))
    | .ok cd =>
      match c.startListeners a with
      | (c, .error err) => (c, .error err)
      | (c, .ok ()) =>
        runActions (c.backend.setProxyInfo a.setProxyInfo) (c.plan a.resolve cd) c

/--
What the loop does after a check that failed. Only a timeout and a cancellation close the
connections.
-/
def checkFailed (err : GoError) (c : ClusterChecker) : ClusterChecker :=
  if err.isContextError then
    let c := c.setWritableDestination none
    if c.stopListening then c.stopListeners else c
  else
    c

def round (a : CheckAnswers) (c : ClusterChecker) : ClusterChecker :=
  match c.check a with
  | (c, .ok ()) => c
  | (c, .error err) => c.checkFailed err

end ClusterChecker
end Hysteron
