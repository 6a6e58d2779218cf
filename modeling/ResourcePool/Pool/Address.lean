import ResourcePool.Choice
import ResourcePool.Network
import ResourcePool.Pool.Basic

/-!
Pools of single addresses. A pool hands out the lowest free address of its network; when the pool or
the user says that it is a routed subnet, the first and the last address are never handed out, except
that the two longest masks have none to spare.
-/

namespace ResourcePool

/-- A pool of addresses. -/
structure AddressPool (f : Family) where
  network : Network f
  subnet : Bool
  taken : IntSet
deriving DecidableEq

/-- The network that the properties of a pool name. -/
def poolNetwork (f : Family) (properties : Bag) : Except Error (Network f) := do
  let address ← Address.read f (← properties.text "address" .pool)
  let mask ← f.checkMask (← properties.int64 "prefix" .pool).toInt
  Network.holding address mask

namespace AddressPool

variable {f : Family}

/-- The address of a granted resource. -/
def heldAddress (f : Family) (bag : Bag) : Except Error Int := do
  let a ← Address.read f (← bag.text "address" .resource)
  return a.value

def ofSnapshot (f : Family) (s : Snapshot) : Except Error (AddressPool f) := do
  let network ← poolNetwork f s.properties
  let taken ← s.ofHeld (heldAddress f)
  return ⟨network, s.properties.flag "subnet" || s.input.flag "subnet", .ofList taken⟩

/-- Whether the first and the last address are kept back. -/
def reserves (pool : AddressPool f) : Bool := pool.subnet && pool.network.mask + 1 < f.bits

/-- The lowest address that may be handed out. -/
def first (pool : AddressPool f) : Int := pool.network.block.start + if pool.reserves then 1 else 0

/-- One past the highest address that may be handed out. -/
def stop (pool : AddressPool f) : Int := pool.network.block.stop - if pool.reserves then 1 else 0

def capacity (pool : AddressPool f) : Capacity :=
  .of (pool.stop - pool.first - pool.taken.size) pool.taken.size

/-! ### Allocation -/

def opening (pool : AddressPool f) : String :=
  let subnet := (Value.bool pool.subnet).plain
  match f with
  | .v4 => s!"Allocating Ipv4 address from {pool.network.text} (subnet: {subnet}, bounds {pool.first}..{pool.stop})"
  | .v6 => s!"Allocating Ipv6 address from {pool.network.text} (subnet: {subnet})"

/-- The address the user asks for, with the text that names it. -/
def wanted? (f : Family) (input : Bag) : Except Error (Option (String × Address f)) :=
  match input.get? "desiredValue" with
  | none => .ok none
  | some _ => do
    let text ← input.text "desiredValue" .input
    return some (text, ← Address.read f text)

def grant (pool : AddressPool f) (n : Int) : Logged Bag := do
  let address ← (Address.ofInt f n : Except Error (Address f))
  .record .info s!"Allocated {(Kind.address f).noun} {address.text} from {pool.network.text}"
  return Bag.empty.set "address" (.text address.text)

/-- The text of a taken address. -/
def takenText (f : Family) (n : Int) : String :=
  match Address.ofInt f n with
  | .ok a => a.text
  | .error _ => n.repr

def refuse (pool : AddressPool f) (desired : String) : NoNumber → Logged Bag
  | .outside => do
    .record .warn s!"Requested address {desired} lies outside {pool.network.text}"
    .fail (.outside (.address f) desired pool.network.text)
  | .taken => do
    .record .warn s!"Requested address {desired} is already allocated"
    .fail (.taken (.address f) desired)
  | .exhausted => do
    .record .error s!"Unable to allocate {(Kind.address f).noun} from {pool.network.text}"
    .recordAll ((Utilisation.of (pool.stop - pool.first) pool.taken.size).records .error)
    .fail (.exhausted (.address f) pool.network.text "a new address"
      (listed (pool.taken.elements.map (takenText f))))

/-- Hands out the wanted address, or the lowest free one. -/
def allocate (pool : AddressPool f) (input : Bag) : Logged Bag := do
  .record .debug pool.opening
  let wanted ← (wanted? f input : Except Error _)
  match chooseNumber pool.first (pool.stop - 1) pool.taken (wanted.map fun w => w.2.value) with
  | .ok n => pool.grant n
  | .error why => pool.refuse ((wanted.map Prod.fst).getD "") why

end AddressPool

end ResourcePool
