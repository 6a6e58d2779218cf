import ResourcePool.Pool

/-!
Requests. A request names a kind of pool and carries everything one call needs; its name is resolved
before anything else is looked at.
-/

namespace ResourcePool

/-- One call, as a document describes it. -/
structure Request where
  strategy : String
  properties : Bag
  held : List Bag
  input : Bag
deriving DecidableEq

namespace Request

/-- The kind of pool that a request names. -/
def kind (r : Request) : Except Error Kind := Kind.read r.strategy

def snapshot (r : Request) : Snapshot := ⟨r.properties, r.held, r.input⟩

/-- Claims a resource. -/
def allocate (r : Request) (script : Option (List UInt64)) : Logged Bag := do
  r.snapshot.allocate (← (r.kind : Except Error Kind)) script

/-- Reports the room of the pool. -/
def capacity (r : Request) : Logged Capacity := do
  r.snapshot.capacity (← (r.kind : Except Error Kind))

end Request

/-! ### Fields

A document is a set of named fields in any order, or the fields' contents in their order. Both the
request and each of its resources are read this way, from every format. -/

/-- The two names of the properties of a pool. -/
def poolNames : List String := ["poolProperties", "resourcePoolProperties"]

/-- The two names of the properties of a granted resource. -/
def resourceNames : List String := ["Properties", "properties"]

/-- The content of the field that goes by one of some names; a field given twice makes the whole
document invalid. -/
def field? (names : List String) (members : List (String × α)) : Option (Option α) :=
  match members.filter fun m => names.contains m.1 with
  | [] => some none
  | [m] => some (some m.2)
  | _ => none

end ResourcePool
