import ResourcePool.Pool.Network
import ResourcePool.Pool.RandomInt32
import ResourcePool.Pool.RouteDistinguisher
import ResourcePool.Pool.UniqueId
import ResourcePool.Pool.VlanRange

/-! Pools of all kinds, opened by kind and asked for a resource or for their room. -/

namespace ResourcePool

/-- A pool of one of the kinds. -/
inductive Pool where
  | address (f : Family) (pool : AddressPool f)
  | network (f : Family) (pool : NetworkPool f)
  | vlan (pool : VlanPool)
  | vlanRange (pool : VlanRangePool)
  | uniqueId (pool : UniqueIdPool)
  | randomInt32 (pool : RandomInt32Pool)
  | routeDistinguisher (pool : RouteDistinguisherPool)

namespace Pool

/-- The pool of a kind in the given circumstances. -/
def ofSnapshot (kind : Kind) (s : Snapshot) : Except Error Pool :=
  match kind with
  | .address f => (AddressPool.ofSnapshot f s).map (.address f)
  | .network f => (NetworkPool.ofSnapshot f s).map (.network f)
  | .vlan => (VlanPool.ofSnapshot s).map .vlan
  | .vlanRange => (VlanRangePool.ofSnapshot s).map .vlanRange
  | .uniqueId => (UniqueIdPool.ofSnapshot s).map .uniqueId
  | .randomInt32 => (RandomInt32Pool.ofSnapshot s).map .randomInt32
  | .routeDistinguisher => .ok (.routeDistinguisher (.ofSnapshot s))

/-- Opens a pool and says so in the log. -/
def openFor (kind : Kind) (s : Snapshot) : Logged Pool := do
  .record .debug s!"Building {kind.name} strategy over {s.held.length} allocated resources"
  .quiet (ofSnapshot kind s)

/-- Claims a resource. The words are the randomness of pools that draw. -/
def allocate (pool : Pool) (input : Bag) (words : List UInt64) : Logged Bag :=
  match pool with
  | .address _ pool => pool.allocate input
  | .network _ pool => pool.allocate input
  | .vlan pool => pool.allocate input
  | .vlanRange pool => pool.allocate input
  | .uniqueId pool => pool.allocate input
  | .randomInt32 pool => pool.allocate words
  | .routeDistinguisher pool => pool.allocate input

/-- Free and utilized room. -/
def capacity : Pool → Capacity
  | .address _ pool => pool.capacity
  | .network _ pool => pool.capacity
  | .vlan pool => pool.capacity
  | .vlanRange pool => pool.capacity
  | .uniqueId pool => pool.capacity
  | .randomInt32 pool => pool.capacity
  | .routeDistinguisher pool => pool.capacity

end Pool

/-! ### Whole calls

Randomness may be scripted. A pool of random integers with a script is opened without a record; all
other pools take no notice of it. -/

namespace Snapshot

/-- Opens a pool of a kind and claims a resource from it. Without a script every random word is
zero. -/
def allocate (s : Snapshot) (kind : Kind) (script : Option (List UInt64)) : Logged Bag :=
  match kind, script with
  | .randomInt32, some words => do
    (← (RandomInt32Pool.ofSnapshot s : Except Error _)).allocate words
  | _, _ => do
    (← Pool.openFor kind s).allocate s.input []

/-- Opens a pool of a kind and reports its room. -/
def capacity (s : Snapshot) (kind : Kind) : Logged Capacity := do
  return (← Pool.openFor kind s).capacity

/-- The number of words of a script that claiming a random integer takes. -/
def wordsTaken (s : Snapshot) (words : List UInt64) : Nat :=
  match RandomInt32Pool.ofSnapshot s with
  | .ok pool => (pool.drawn words).2
  | .error _ => 0

end Snapshot

end ResourcePool
