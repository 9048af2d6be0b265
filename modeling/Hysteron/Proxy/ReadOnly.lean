import Hysteron.Cluster.Types
import Hysteron.Util.NetAddr
import Hysteron.Util.Slices

/-!
The read-only backends, which are selected twice: by the proxies for their listeners and by the
sentinel for the Kubernetes Service.
-/

namespace Hysteron

inductive ReplicaPriority where
  | sync
  | async
  | any
  /-- Every other text, which counts as `sync`. -/
  | unknown (name : String)
  deriving DecidableEq

structure ReadOnlyOptions where
  replicaPriority : ReplicaPriority := .sync
  maxLag : Nat := 0
  noFallback : Bool := false
  includePrimary : Bool := false
  deriving DecidableEq

namespace ReadOnly

def selectPriority (priority : ReplicaPriority) (syncStandbys asyncStandbys : List α) : List α :=
  match priority with
  | .any => syncStandbys ++ asyncStandbys
  | .async => if asyncStandbys.length > 0 then asyncStandbys else syncStandbys
  | .sync => if syncStandbys.length > 0 then syncStandbys else asyncStandbys
  | .unknown _ => if syncStandbys.length > 0 then syncStandbys else asyncStandbys

def xLogLag (primaryXLogPos standbyXLogPos : Nat) : Nat :=
  if primaryXLogPos > standbyXLogPos then primaryXLogPos - standbyXLogPos else 0

def dbStatusEligible (db : DB) : Bool :=
  db.status.healthy
    && db.status.currentGeneration = db.generation
    && db.status.listenAddress ≠ ""
    && db.status.port ≠ ""

end ReadOnly

/-! ## The proxies -/

structure Resolver where
  services : List Char → Option Nat
  dns : List Char → Option NetAddr.Addr

structure ProxyDestination where
  dbuid : String
  addr : NetAddr.TCPAddr
  lag : Nat
  deriving DecidableEq

namespace ClusterChecker

def resolve (resolver : Resolver) (db : DB) : Option NetAddr.TCPAddr :=
  NetAddr.resolveTCPAddr resolver.services resolver.dns
    (NetAddr.joinHostPort db.status.listenAddress.toList db.status.port.toList)

def readOnlyDestinationFromDB (resolver : Resolver) (db : DB) (lag : Nat)
    : Option ProxyDestination :=
  (resolve resolver db).map fun addr => { dbuid := db.uid, addr, lag }

def readOnlyStandbyCandidates (resolver : Resolver) (readOnlyOptions : ReadOnlyOptions)
    (order : VisitOrder String) (cd : ClusterData) (primary : DB)
    : List ProxyDestination × List ProxyDestination :=
  let syncStandbySet := primary.status.synchronousStandbys.elems
  let dbUIDs := Slices.sortStrings (order.visit cd.dbs.keys)
  dbUIDs.foldl (fun (syncStandbys, asyncStandbys) dbUID =>
    match cd.dbs[dbUID]? with
    | none => (syncStandbys, asyncStandbys)
    | some db =>
      if db.uid = primary.uid then
        (syncStandbys, asyncStandbys)
      else if db.spec.role ≠ .standby ∨ ¬ReadOnly.dbStatusEligible db then
        (syncStandbys, asyncStandbys)
      else
        let lag := ReadOnly.xLogLag primary.status.xLogPos db.status.xLogPos
        if lag > readOnlyOptions.maxLag then
          (syncStandbys, asyncStandbys)
        else
          match readOnlyDestinationFromDB resolver db lag with
          | none => (syncStandbys, asyncStandbys)
          | some dest =>
            if db.uid ∈ syncStandbySet then
              (syncStandbys ++ [dest], asyncStandbys)
            else
              (syncStandbys, asyncStandbys ++ [dest])) ([], [])

def readOnlyDestinations (resolver : Resolver) (readOnlyOptions : ReadOnlyOptions)
    (order : VisitOrder String) (cd : ClusterData) (primary : DB) : List NetAddr.TCPAddr :=
  let (syncStandbys, asyncStandbys) :=
    readOnlyStandbyCandidates resolver readOnlyOptions order cd primary
  let selected := ReadOnly.selectPriority readOnlyOptions.replicaPriority syncStandbys asyncStandbys
  let selected :=
    if readOnlyOptions.includePrimary then
      selected ++ (readOnlyDestinationFromDB resolver primary 0).toList
    else
      selected
  let selected :=
    if selected.length = 0 ∧ !readOnlyOptions.noFallback then
      selected ++ (readOnlyDestinationFromDB resolver primary 0).toList
    else
      selected
  selected.map ProxyDestination.addr

/--
The read-only side of a check whose cluster data is valid: without an address of the writable
database all destinations are cleared.
-/
def checkReadOnly (resolver : Resolver) (readOnlyOptions : ReadOnlyOptions)
    (order : VisitOrder String) (cd : ClusterData) : List NetAddr.TCPAddr :=
  match cd.dbs[cd.proxy.spec.masterDBUID]? with
  | none => []
  | some db =>
    match resolve resolver db with
    | none => []
    | some _ => readOnlyDestinations resolver readOnlyOptions order cd db

end ClusterChecker

/-! ## The publisher -/

structure KubeEndpoint where
  address : List Nat
  port : Int
  deriving DecidableEq

namespace KubeServicePublisher

def endpointFromDB (db : DB) : Option KubeEndpoint :=
  if db.status.listenAddress = "" ∨ db.status.port = "" then
    none
  else
    match NetAddr.parseIP db.status.listenAddress.toList with
    | none => none
    | some ip =>
      match NetAddr.parseInt32 db.status.port.toList with
      | none => none
      | some port => if port ≤ 0 ∨ port > 65535 then none else some { address := ip, port }

def primaryDB (cd : ClusterData) : Option DB :=
  if cd.proxy.spec.masterDBUID = "" then none else cd.dbs[cd.proxy.spec.masterDBUID]?

def readOnlyStandbyCandidates (readOnlyOptions : ReadOnlyOptions) (order : VisitOrder String)
    (cd : ClusterData) (primary : DB) : List KubeEndpoint × List KubeEndpoint :=
  let syncStandbySet := primary.status.synchronousStandbys.elems
  let dbUIDs := Slices.sortStrings (order.visit cd.dbs.keys)
  dbUIDs.foldl (fun (syncStandbys, asyncStandbys) dbUID =>
    match cd.dbs[dbUID]? with
    | none => (syncStandbys, asyncStandbys)
    | some db =>
      if db.uid = primary.uid then
        (syncStandbys, asyncStandbys)
      else if db.spec.role ≠ .standby ∨ ¬ReadOnly.dbStatusEligible db then
        (syncStandbys, asyncStandbys)
      else
        let lag := ReadOnly.xLogLag primary.status.xLogPos db.status.xLogPos
        if lag > readOnlyOptions.maxLag then
          (syncStandbys, asyncStandbys)
        else
          match endpointFromDB db with
          | none => (syncStandbys, asyncStandbys)
          | some endpoint =>
            if db.uid ∈ syncStandbySet then
              (syncStandbys ++ [endpoint], asyncStandbys)
            else
              (syncStandbys, asyncStandbys ++ [endpoint])) ([], [])

def readOnlyEndpoints (readOnlyOptions : ReadOnlyOptions) (order : VisitOrder String)
    (cd : ClusterData) : List KubeEndpoint :=
  match primaryDB cd with
  | none => []
  | some primary =>
    let (syncStandbys, asyncStandbys) := readOnlyStandbyCandidates readOnlyOptions order cd primary
    let selected :=
      ReadOnly.selectPriority readOnlyOptions.replicaPriority syncStandbys asyncStandbys
    let selected :=
      if readOnlyOptions.includePrimary then
        selected ++ (endpointFromDB primary).toList
      else
        selected
    if selected.length = 0 ∧ !readOnlyOptions.noFallback then
      selected ++ (endpointFromDB primary).toList
    else
      selected

end KubeServicePublisher

end Hysteron
