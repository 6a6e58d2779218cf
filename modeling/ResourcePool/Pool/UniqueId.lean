import ResourcePool.Choice
import ResourcePool.Pool.Basic
import ResourcePool.Text.Basic

/-!
Pools of unique ids. An id is a template into which a counter and other properties of the pool are
put. The counter goes on from the highest one granted; only at the end of its scope are counters that
were given back used again.
-/

namespace ResourcePool

/-- A pool of unique ids. -/
structure UniqueIdPool where
  template : String
  first : Option Int64
  last : Option Int64
  width : Option Nat
  /-- The other properties in the order of their keys, with their texts. -/
  substitutions : List (String × String)
  taken : IntSet
deriving DecidableEq

namespace UniqueIdPool

/-- The properties that configure the counter and are never put into the template. -/
def reserved : List String := ["idFormat", "from", "to", "counterFormatWidth"]

def ofSnapshot (s : Snapshot) : Except Error UniqueIdPool := do
  let template ← s.properties.text "idFormat" .pool
  let first ← s.properties.int64? "from"
  let last ← s.properties.int64? "to"
  let width ← s.properties.int64? "counterFormatWidth"
  let others := s.properties.entries.filter fun e => !reserved.contains e.1
  let taken ← s.ofHeld (heldNumber "counter")
  return ⟨template, first, last, width.map fun w => w.toInt.toNat,
    others.map fun e => (e.1, e.2.plain), .ofList taken⟩

/-- The first counter of the scope. -/
def floor (pool : UniqueIdPool) : Int := (pool.first.map Int64.toInt).getD 0

/-- The last counter of the scope. -/
def ceiling (pool : UniqueIdPool) : Int := (pool.last.map Int64.toInt).getD greatest64

def scope (pool : UniqueIdPool) : String := s!"[{pool.floor}-{pool.ceiling}]"

/-- The number of counters; a scope without an end counts from zero. -/
def total (pool : UniqueIdPool) : Int :=
  match pool.last with
  | some last => last.toInt - pool.floor + 1
  | none => greatest64

def capacity (pool : UniqueIdPool) : Capacity := .of (pool.total - pool.taken.size) pool.taken.size

/-! ### The text of an id -/

def counterToken : List Char := "\x7bcounter\x7d".toList

/-- The token for which the text of a property is put. -/
def token (key : String) : List Char := ['\x7b'] ++ key.toList ++ ['\x7d']

/-- A number with zeros after its sign up to a width. -/
def padded (width : Nat) (n : Int) : List Char :=
  let sign := if n < 0 then ['-'] else []
  let digits := Nat.toDigits 10 n.natAbs
  sign ++ List.replicate (width - sign.length - digits.length) '0' ++ digits

def counterText (pool : UniqueIdPool) (counter : Int) : List Char :=
  padded (pool.width.getD 0) counter

/-- The template with the first occurrence of each token replaced, the counter first. -/
def render (pool : UniqueIdPool) (counter : Int) : List Char :=
  let text := Text.replaceFirst counterToken (pool.counterText counter) pool.template.toList
  pool.substitutions.foldl (fun text s => Text.replaceFirst (token s.1) s.2.toList text) text

/-! ### Allocation -/

/-- The counter after the highest one granted, or the first of the scope. -/
def next (pool : UniqueIdPool) : Int :=
  match pool.taken.max? with
  | some highest => if pool.floor ≤ highest then highest + 1 else pool.floor
  | none => pool.floor

/-- The counter of the next id: the wanted one; else the one after the highest; past the end of the
scope the lowest that is free. -/
def choose (pool : UniqueIdPool) : Option Int → Except NoNumber Int
  | some wanted => chooseNumber pool.floor pool.ceiling pool.taken (some wanted)
  | none =>
    if pool.next ≤ pool.ceiling then .ok pool.next
    else chooseNumber pool.floor pool.ceiling pool.taken none

def wanted? (input : Bag) : Except Error (Option Int64) := input.int64? "desiredValue"

def grant (pool : UniqueIdPool) (counter : Int) : Logged Bag := do
  let text := String.ofList (pool.render counter)
  .record .info s!"Allocated unique id {text} (counter {counter})"
  return (Bag.empty.set "text" (.text text)).set "counter" (.int (.ofInt counter))

def refuse (pool : UniqueIdPool) (desired : String) : NoNumber → Logged Bag
  | .outside => do
    .record .warn s!"Requested counter {desired} lies outside {pool.scope}"
    .fail (.outside .uniqueId desired s!"scope: {pool.scope}")
  | .taken => do
    .record .warn s!"Requested counter {desired} is already allocated"
    .fail (.taken .uniqueId desired)
  | .exhausted => do
    .record .error s!"Unique-id pool {pool.scope} is full"
    .fail (.exhausted .uniqueId pool.scope "a new counter" s!"{pool.taken.size} counters")

/-- Grants the id of the wanted counter, or of the next one. -/
def allocate (pool : UniqueIdPool) (input : Bag) : Logged Bag := do
  if Text.occurs counterToken pool.template.toList then
    let wanted ← (wanted? input : Except Error _)
    match pool.choose (wanted.map Int64.toInt) with
    | .ok counter => pool.grant counter
    | .error why => pool.refuse ((wanted.map fun n => n.toInt.repr).getD "") why
  else .fail .noCounter

end UniqueIdPool

end ResourcePool
