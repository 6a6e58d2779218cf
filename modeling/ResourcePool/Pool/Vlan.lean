import ResourcePool.Choice
import ResourcePool.Pool.Basic

/-! Pools of VLAN ids. A pool hands out the lowest free id of an inclusive range. -/

namespace ResourcePool

/-- A pool of VLAN ids. -/
structure VlanPool where
  first : Int64
  last : Int64
  taken : IntSet
deriving DecidableEq

/-- A VLAN id that a user asks for; as a text it has to be plain digits. -/
def readVlan (v : Value) : Except Error Int64 :=
  let id? :=
    match v with
    | .text s => (Numeral.natural? (Text.trim s.toList)).bind fun n => int64? n
    | other => other.toInt64?
  match id? with
  | some id => .ok id
  | none => .error (.notVlan v.plain)

namespace VlanPool

def ofSnapshot (s : Snapshot) : Except Error VlanPool := do
  let first ← s.properties.int64 "from" .pool
  let last ← s.properties.int64 "to" .pool
  let taken ← s.ofHeld (heldNumber "vlan")
  return ⟨first, last, .ofList taken⟩

def range (pool : VlanPool) : String := s!"{pool.first.toInt} - {pool.last.toInt}"

def total (pool : VlanPool) : Int := max (pool.last.toInt - pool.first.toInt + 1) 0

def capacity (pool : VlanPool) : Capacity := .of (pool.total - pool.taken.size) pool.taken.size

def wanted? (input : Bag) : Except Error (Option Int64) :=
  match input.get? "desiredValue" with
  | none => .ok none
  | some v => (readVlan v).map some

def grant (pool : VlanPool) (id : Int) : Logged Bag := do
  .record .info s!"Allocated VLAN {id} from {pool.range}"
  return Bag.empty.set "vlan" (.int (.ofInt id))

def refuse (pool : VlanPool) (desired : String) : NoNumber → Logged Bag
  | .outside => do
    .record .warn s!"Requested VLAN {desired} lies outside {pool.range}"
    .fail (.outside .vlan desired s!"range: {pool.range}")
  | .taken => do
    .record .warn s!"Requested VLAN {desired} is already allocated"
    .fail (.taken .vlan desired)
  | .exhausted => do
    .record .error s!"Unable to allocate VLAN from {pool.range}"
    .recordAll ((Utilisation.of pool.total pool.taken.size).records .error)
    .fail (.exhausted .vlan pool.range "a new vlan" (listed (pool.taken.elements.map Int.repr)))

/-- Hands out the wanted id, or the lowest free one. -/
def allocate (pool : VlanPool) (input : Bag) : Logged Bag := do
  .record .debug s!"Allocating VLAN from {pool.range} ({pool.taken.size} allocated)"
  let wanted ← (wanted? input : Except Error _)
  match chooseNumber pool.first.toInt pool.last.toInt pool.taken (wanted.map Int64.toInt) with
  | .ok id => pool.grant id
  | .error why => pool.refuse ((wanted.map fun id => id.toInt.repr).getD "") why

end VlanPool

end ResourcePool
