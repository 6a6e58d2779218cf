import ResourcePool.Pool.Address

/-!
Pools of networks. A request for a number of addresses is met with the smallest network that holds
them, at the lowest place where such a network is free. In a pool of subnets each network grows by
two for its own first and last address; only the pool decides whether it is one.
-/

namespace ResourcePool

/-- A pool of networks, with the granted ones in the order of their ends. -/
structure NetworkPool (f : Family) where
  network : Network f
  subnet : Bool
  held : List (Network f)
deriving DecidableEq

namespace NetworkPool

variable {f : Family}

/-- The network of a granted resource. -/
def heldNetwork (f : Family) (bag : Bag) : Except Error (Network f) := do
  let address ← Address.read f (← bag.text "address" .resource)
  let mask ← f.checkMask (← bag.int64 "prefix" .resource).toInt
  Network.holding address mask

def ofSnapshot (f : Family) (s : Snapshot) : Except Error (NetworkPool f) := do
  let network ← poolNetwork f s.properties
  let held ← s.ofHeld (heldNetwork f)
  return ⟨network, s.properties.flag "subnet", sortBy (fun n => n.block.stop) held⟩

/-! ### Accounting -/

/-- The addresses the pool can hand out: those for hosts in a pool of subnets, where the two longest
masks have none, and all of them otherwise. -/
def total (pool : NetworkPool f) : Int :=
  if pool.subnet then
    if f.bits ≤ pool.network.mask + 1 then 0 else f.hosts pool.network.mask
  else pool.network.size

/-- The addresses of the granted networks, each network counted in full. -/
def utilized (pool : NetworkPool f) : Int := pool.held.foldr (fun n sum => n.size + sum) 0

def free (pool : NetworkPool f) : Int := max (pool.total - pool.utilized) 0

def capacity (pool : NetworkPool f) : Capacity := .of pool.free pool.utilized

/-! ### Allocation -/

/-- How many addresses the user asks for. -/
def desiredSize (f : Family) (input : Bag) : Except Error Int :=
  match f with
  | .v4 => (input.int64 "desiredSize" .input).map Int64.toInt
  | .v6 => input.integer "desiredSize" .input

/-- The size of a request, which has to be at least two. -/
def requested (pool : NetworkPool f) (input : Bag) : Except Error Int := do
  let size ← desiredSize f input
  if size < 2 then .error (.sizeTooSmall (.network f) pool.network.text size 2) else .ok size

/-- The addresses needed for a request. -/
def needed (pool : NetworkPool f) (requested : Int) : Int :=
  if pool.subnet then requested + 2 else requested

def exhausted (pool : NetworkPool f) (requested : Int) : Logged α := do
  .record .error s!"Unable to allocate {(Kind.network f).noun} of size {requested} from {pool.network.text}"
  .recordAll ((Utilisation.of pool.total pool.utilized).records .error)
  .fail (.exhausted (.network f) pool.network.text s!"a new prefix of size: {requested}"
    (listed (pool.held.map Network.rangeText)))

/-- The mask of the network that meets a request. -/
def maskFor (pool : NetworkPool f) (requested : Int) : Logged Nat :=
  match f.maskFor (pool.needed requested) with
  | none => pool.exhausted requested
  | some mask =>
    if pool.subnet ∧ f.bits ≤ mask + 1 then .fail (.noRoomForHosts mask) else return mask

def refuse (pool : NetworkPool f) (requested : Int) (desired : String) :
    NoBlock (Network f) → Logged Bag
  | .misaligned next => do
    .record .warn s!"Requested prefix {desired} is not a network address"
    let expected ← (Address.ofInt f next : Except Error (Address f))
    .fail (.misaligned expected.text)
  | .outside => do
    .record .warn s!"Requested prefix {desired} lies outside {pool.network.text}"
    .fail (.outside (.network f) desired pool.network.text)
  | .overlaps holder => do
    .record .warn s!"Requested prefix {desired} overlaps an allocated prefix"
    .fail (.overlap (.network f) desired holder.rangeText)
  | .exhausted => pool.exhausted requested

def grant (pool : NetworkPool f) (start : Int) (mask : Nat) : Logged Bag := do
  let address ← (Address.ofInt f start : Except Error (Address f))
  .record .info s!"Allocated {(Kind.network f).noun} {address.text}/{mask} from {pool.network.text}"
  .recordAll ((Utilisation.of pool.total (pool.utilized + f.addresses mask)).records .debug)
  return ((Bag.empty.set "address" (.text address.text)).set "prefix" (.int (.ofNat mask))).set
    "subnet" (.bool pool.subnet)

/-- Hands out the wanted network, or the lowest one that is free. -/
def allocate (pool : NetworkPool f) (input : Bag) : Logged Bag := do
  let requested ← (pool.requested input : Except Error Int)
  let mask ← pool.maskFor requested
  let size := f.addresses mask
  let subnet := (Value.bool pool.subnet).plain
  .record .debug s!"Allocating /{mask} ({size} addresses) from {pool.network.text} (subnet: {subnet})"
  let wanted ← (AddressPool.wanted? f input : Except Error _)
  let desired := (wanted.map Prod.fst).getD ""
  match chooseBlock pool.network.block pool.held Network.block size size
      (wanted.map fun w => w.2.value) with
  | .ok start => pool.grant start mask
  | .error why => pool.refuse requested s!"{desired}/{mask}" why

end NetworkPool

end ResourcePool
