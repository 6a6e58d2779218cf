import ResourcePool.Pool

/-!
Sessions: runs of steps against one pool. What is granted is held and handed to every later call,
until it is released.
-/

namespace ResourcePool

/-- The state between two steps. -/
structure Session where
  kind : Kind
  properties : Bag
  held : List Bag
deriving DecidableEq

/-- What can be done in a session. -/
inductive Step where
  | allocate (input : Bag) (script : Option (List UInt64))
  | capacity
  | release (index : Nat)
  | add (resource : Bag)
  | replacePool (properties : Bag)

/-- What a step comes to. -/
inductive Answer where
  | allocated (result : Except Error Bag)
  | capacity (result : Except Error Capacity)
  | released (resource : Option Bag)
  | added
  | replaced

namespace Session

def start (kind : Kind) (properties : Bag) : Session := ⟨kind, properties, []⟩

/-- The circumstances of a call with some input. -/
def snapshot (s : Session) (input : Bag) : Snapshot := ⟨s.properties, s.held, input⟩

/-- The session after a claim: what was granted is held. -/
def keep (s : Session) : Except Error Bag → Session
  | .ok bag => { s with held := s.held ++ [bag] }
  | .error _ => s

/-- The answer to a step, the records it leaves and the session after it. -/
def take (s : Session) : Step → Answer × List Record × Session
  | .allocate input script =>
    let claim := (s.snapshot input).allocate s.kind script
    (.allocated claim.result, claim.records, s.keep claim.result)
  | .capacity =>
    let report := (s.snapshot .empty).capacity s.kind
    (.capacity report.result, report.records, s)
  | .release index => (.released s.held[index]?, [], { s with held := s.held.eraseIdx index })
  | .add resource => (.added, [], { s with held := s.held ++ [resource] })
  | .replacePool properties => (.replaced, [], { s with properties })

end Session

end ResourcePool
