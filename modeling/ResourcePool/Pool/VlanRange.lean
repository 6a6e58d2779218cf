import ResourcePool.Pool.Vlan

/-!
Pools of VLAN ranges. A range is given by its first and last id; ranges of any size fit anywhere, so
the first gap that is large enough is taken.
-/

namespace ResourcePool

/-- A pool of VLAN ranges, with the granted ones in the order of their ends. -/
structure VlanRangePool where
  parent : Block
  held : List Block
deriving DecidableEq

/-- First and last member of a block. -/
def Block.described (b : Block) : String := s!"{b.start}-{b.stop - 1}"

namespace VlanRangePool

/-- The block of a granted range. -/
def heldBlock (bag : Bag) : Except Error Block := do
  let first ← heldNumber "from" bag
  let last ← heldNumber "to" bag
  return ⟨first, last - first + 1⟩

def ofSnapshot (s : Snapshot) : Except Error VlanRangePool := do
  let first ← s.properties.int64 "from" .pool
  let last ← s.properties.int64 "to" .pool
  let held ← s.ofHeld heldBlock
  return ⟨⟨first.toInt, max (last.toInt - first.toInt + 1) 0⟩, sortBy Block.stop held⟩

def range (pool : VlanRangePool) : String := s!"{pool.parent.start} - {pool.parent.stop - 1}"

/-! ### Accounting -/

def utilized (pool : VlanRangePool) : Int := pool.held.foldr (fun b sum => b.size + sum) 0

def free (pool : VlanRangePool) : Int := max (pool.parent.size - pool.utilized) 0

def capacity (pool : VlanRangePool) : Capacity := .of pool.free pool.utilized

/-! ### Allocation -/

/-- The size of a request, which has to be at least one. -/
def requested (pool : VlanRangePool) (input : Bag) : Except Error Int := do
  let size ← input.int64 "desiredSize" .input
  if size.toInt < 1 then .error (.sizeTooSmall .vlanRange pool.range size.toInt 1)
  else .ok size.toInt

def refuse (pool : VlanRangePool) (size : Int) (desired : String) : NoBlock Block → Logged Bag
  | .misaligned next => .fail (.misaligned next.repr)
  | .outside => do
    .record .warn s!"Requested range {desired} lies outside {pool.range}"
    .fail (.outside .vlanRange desired s!"range: {pool.range}")
  | .overlaps holder => do
    .record .warn s!"Requested range {desired} overlaps an allocated range"
    .fail (.overlap .vlanRange desired holder.described)
  | .exhausted => do
    .record .error s!"Unable to allocate VLAN range of size {size} from {pool.range}"
    .recordAll ((Utilisation.of pool.parent.size pool.utilized).records .error)
    .fail (.exhausted .vlanRange pool.range s!"a new range of size: {size}"
      (listed (pool.held.map Block.described)))

/-- A bound of a granted range as a property. -/
def bound (n : Int) : Except Error Value :=
  match int64? n with
  | some w => .ok (.int w)
  | none => .error (.vlanTooWide n)

def grant (pool : VlanRangePool) (b : Block) : Logged Bag := do
  .record .info s!"Allocated VLAN range {b.described} from {pool.range}"
  let first ← (bound b.start : Except Error Value)
  let last ← (bound (b.stop - 1) : Except Error Value)
  return (Bag.empty.set "from" first).set "to" last

/-- Hands out the wanted range, or the first one that fits. -/
def allocate (pool : VlanRangePool) (input : Bag) : Logged Bag := do
  let size ← (pool.requested input : Except Error Int)
  .record .debug s!"Allocating VLAN range of size {size} from {pool.range}"
  let wanted ← (VlanPool.wanted? input : Except Error _)
  match chooseBlock pool.parent pool.held id size 1 (wanted.map Int64.toInt) with
  | .ok start => pool.grant ⟨start, size⟩
  | .error why =>
    pool.refuse size ((wanted.map fun w => Block.described ⟨w.toInt, size⟩).getD "") why

end VlanRangePool

end ResourcePool
