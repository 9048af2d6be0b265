import Hysteron.Util.FinMap

/-!
The destination table of the TCP proxy. Connections to a destination end when its channel is closed.
Closing a channel twice and reading through a nil pointer are panics, which are `none` here. The calls
hold a mutex, so each of them is one step.
-/

namespace Hysteron
namespace TcpProxy

variable {Addr : Type}

structure Destination (Addr : Type) where
  addr : Addr
  /-- The channel that is closed to end the connections, as its number among all channels. -/
  closeConns : Nat

structure Proxy (Addr : Type) where
  destinations : FinMap String (Destination Addr)
  destinationOrder : List String
  nextDestination : Nat
  stopped : Bool
  made : Nat
  closed : List Nat

def new : Proxy Addr where
  destinations := ∅
  destinationOrder := []
  nextDestination := 0
  stopped := false
  made := 0
  closed := []

def closeChannels (closed channels : List Nat) : Option (List Nat) :=
  match channels with
  | [] => some closed
  | channel :: rest => if channel ∈ closed then none else closeChannels (channel :: closed) rest

/-! ## Changes of the table -/

structure Next (Addr : Type) where
  destinations : FinMap String (Destination Addr)
  order : List String
  made : Nat

/--
The loop of `SetDestinations` for one address. The text of an address is its key.
-/
def addDestination (text : Addr → String) (current : FinMap String (Destination Addr))
    (next : Next Addr) (addr : Option Addr) : Next Addr :=
  match addr with
  | none => next
  | some addr =>
    let key := text addr
    if key ∈ next.destinations then
      next
    else
      match current[key]? with
      | some existing =>
        { next with
          destinations := next.destinations.insert key existing
          order := next.order ++ [key] }
      | none =>
        { destinations := next.destinations.insert key { addr, closeConns := next.made }
          order := next.order ++ [key]
          made := next.made + 1 }

def sameDestinationSet (a b : List String) : Bool :=
  if a.length ≠ b.length then false
  else (a.zip b).all (fun pair => pair.1 == pair.2)

def removedChannels (order : VisitOrder String) (current next : FinMap String (Destination Addr))
    : List Nat :=
  (order.visit current.keys).filterMap
    (fun key => if key ∈ next then none else current[key]?.map Destination.closeConns)

def setDestinations (text : Addr → String) (order : VisitOrder String) (p : Proxy Addr)
    (addrs : List (Option Addr)) : Option (Proxy Addr) := do
  let next := addrs.foldl (addDestination text p.destinations)
    { destinations := ∅, order := [], made := p.made }
  if sameDestinationSet p.destinationOrder next.order then
    return { p with made := next.made }
  let closed ← closeChannels p.closed (removedChannels order p.destinations next.destinations)
  return { p with
    destinations := next.destinations
    destinationOrder := next.order
    nextDestination :=
      if next.order.length = 0 then 0 else p.nextDestination % next.order.length
    made := next.made
    closed }

def setDestination (text : Addr → String) (order : VisitOrder String) (p : Proxy Addr)
    (addr : Option Addr) : Option (Proxy Addr) :=
  match addr with
  | none => setDestinations text order p []
  | some addr => setDestinations text order p [some addr]

def stop (order : VisitOrder String) (p : Proxy Addr) : Option (Proxy Addr) := do
  if p.stopped then
    return p
  let closed ← closeChannels p.closed (removedChannels order p.destinations ∅)
  return { p with
    destinations := ∅
    destinationOrder := []
    nextDestination := 0
    stopped := true
    closed }

/-! ## Picks -/

/--
The destination for a new connection. What is returned is a copy with the same channel.
-/
def destination (p : Proxy Addr) : Option (Proxy Addr × Option (Destination Addr)) := do
  if p.destinationOrder.length = 0 then
    return (p, none)
  let key ← p.destinationOrder[p.nextDestination % p.destinationOrder.length]?
  let picked ← p.destinations[key]?
  return ({ p with nextDestination := (p.nextDestination + 1) % p.destinationOrder.length },
    some picked)

/-! ## Calls -/

inductive Call (Addr : Type) where
  | setDestination (addr : Option Addr)
  | setDestinations (addrs : List (Option Addr))
  | stop
  | destination

def call (text : Addr → String) (p : Proxy Addr) (order : VisitOrder String) (c : Call Addr)
    : Option (Proxy Addr × List (Option (Destination Addr))) :=
  match c with
  | .setDestination addr => (setDestination text order p addr).map (·, [])
  | .setDestinations addrs => (setDestinations text order p addrs).map (·, [])
  | .stop => (stop order p).map (·, [])
  | .destination => (destination p).map (fun (p, picked) => (p, [picked]))

def run (text : Addr → String) (p : Proxy Addr) (calls : List (VisitOrder String × Call Addr))
    : Option (Proxy Addr × List (Option (Destination Addr))) :=
  match calls with
  | [] => some (p, [])
  | (order, c) :: rest => do
    let (p, first) ← call text p order c
    let (p, others) ← run text p rest
    return (p, first ++ others)

end TcpProxy
end Hysteron
