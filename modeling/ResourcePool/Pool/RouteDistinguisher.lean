import ResourcePool.Address
import ResourcePool.Json.Properties
import ResourcePool.Pool.Basic

/-!
Pools of route distinguishers. The user supplies all parts of one; the pool checks that they make one
of the three types and that it has not been granted before:

* an AS number of two bytes with an assigned number of up to four,
* an IPv4 address with an assigned number of two bytes,
* an AS number of four bytes with an assigned number of two.
-/

namespace ResourcePool

/-- A pool of route distinguishers: the texts granted, and the number of all granted resources. -/
structure RouteDistinguisherPool where
  taken : List String
  count : Nat
deriving DecidableEq

/-- The three types of route distinguisher. -/
inductive RouteDistinguisher where
  | numbered (asNumber assigned : Int)
  | addressed (ipv4 : String) (assigned : Int)
deriving DecidableEq

def RouteDistinguisher.text : RouteDistinguisher → String
  | .numbered asNumber assigned => s!"{asNumber}:{assigned}"
  | .addressed ipv4 assigned => s!"{ipv4}:{assigned}"

namespace RouteDistinguisherPool

/-- A resource without a text cannot be granted twice, and it counts all the same. -/
def ofSnapshot (s : Snapshot) : RouteDistinguisherPool :=
  ⟨s.held.filterMap fun bag => (bag.text "rd" .resource).toOption, s.held.length⟩

/-- The number of values of six bytes. -/
def total : Int := 281474976710656

def capacity (pool : RouteDistinguisherPool) : Capacity := .of (total - pool.count) pool.count

/-! ### Parts -/

/-- Whether a value counts as given: an empty text, zero and `false` do not. -/
def isGiven : Value → Bool
  | .text s => s ≠ ""
  | .int n => n ≠ 0
  | .bool b => b
  | .float x => !x.isZero
  | .big _ => true

/-- The value under a key, if one is given. -/
def given? (input : Bag) (key : String) : Option Value := (input.get? key).filter isGiven

/-- A number of up to four bytes. -/
def number? (input : Bag) (key label : String) : Except Error (Option Int) :=
  match given? input key with
  | none => .ok none
  | some v => do
    let n := (← v.toInt64).toInt
    if n ≤ 0 ∨ UInt32.size ≤ n then .error (.rejected (.number label n)) else .ok (some n)

/-- The text of an IPv4 address. -/
def ipv4? (input : Bag) : Except Error (Option String) :=
  match given? input "ipv4" with
  | none => .ok none
  | some (.text s) =>
    match Address.read .v4 s with
    | .ok _ => .ok (some s)
    | .error _ => .error (.rejected (.address s))
  | some other => .error (.rejected (.address other.plain))

/-- A number of two bytes. -/
def isShort (n : Int) : Bool := n < UInt16.size

/-- Puts the parts together. -/
def combine (input : Bag) : Option Int → Option String → Option Int → Except Rejection RouteDistinguisher
  | some asNumber, some ipv4, _ => .error (.bothAdministrators asNumber ipv4)
  | some asNumber, none, some n =>
    if !isShort asNumber && !isShort n then .error (.bothWide asNumber n)
    else .ok (.numbered asNumber n)
  | none, some ipv4, some n =>
    if isShort n then .ok (.addressed ipv4 n) else .error (.wideAssigned n)
  | _, _, _ => .error (.incomplete (input.document .compact))

/-- The route distinguisher that the input describes. -/
def describe (input : Bag) : Except Error RouteDistinguisher := do
  let assigned ← number? input "assignedNumber" "assigned number"
  let asNumber ← number? input "asNumber" "AS number"
  let ipv4 ← ipv4? input
  match combine input asNumber ipv4 assigned with
  | .ok rd => .ok rd
  | .error why => .error (.rejected why)

/-! ### Allocation -/

/-- The route distinguisher of the input, unless its text has been granted. -/
def choose (pool : RouteDistinguisherPool) (input : Bag) : Except Error RouteDistinguisher := do
  let rd ← describe input
  if rd.text ∈ pool.taken then .error (.rejected (.duplicate rd.text)) else .ok rd

/-- Fails; a rejection is recorded together with the utilisation of the pool. -/
def refuse (pool : RouteDistinguisherPool) : Error → Logged Bag
  | .rejected why => do
    .record .error why.message
    .recordAll ((Utilisation.of total pool.count).records .error)
    .fail (.rejected why)
  | other => .fail other

def allocate (pool : RouteDistinguisherPool) (input : Bag) : Logged Bag :=
  match pool.choose input with
  | .ok rd => do
    .record .info s!"Allocated route distinguisher {rd.text}"
    return Bag.empty.set "rd" (.text rd.text)
  | .error e => pool.refuse e

end RouteDistinguisherPool

end ResourcePool
