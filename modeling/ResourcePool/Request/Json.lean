import ResourcePool.Request.Basic

/-!
Requests as JSON. A request and a resource may each be an object, or an array of the fields' contents
in their order; fields with other names are passed over without a look at them.
-/

namespace ResourcePool

/-- The members of an object whose keys are all texts. -/
def Json.members? (members : List (Option String × Json)) : Option (List (String × Json)) :=
  members.mapM fun m => m.1.map fun key => (key, m.2)

/-- The properties of a granted resource. -/
def resourceOfJson? : Json → Option Bag
  | .object members => do
    let members ← Json.members? members
    let properties ← field? resourceNames members
    Bag.ofJson? (← properties)
  | .array [properties] => Bag.ofJson? properties
  | _ => none

namespace Request

/-- A bag that may be left out. -/
def bagOfJson? : Option Json → Option Bag
  | none => some .empty
  | some j => Bag.ofJson? j

/-- A list of resources that may be left out. -/
def heldOfJson? : Option Json → Option (List Bag)
  | none => some []
  | some (.array items) => items.mapM resourceOfJson?
  | some _ => none

/-- A request of the contents of its fields. -/
def ofParts? (strategy properties held input : Option Json) : Option Request :=
  match strategy with
  | some (.text (some name)) => do
    some ⟨name, ← bagOfJson? properties, ← heldOfJson? held, ← bagOfJson? input⟩
  | _ => none

def ofJson? : Json → Option Request
  | .object members => do
    let members ← Json.members? members
    let strategy ← field? ["strategy"] members
    let properties ← field? poolNames members
    let held ← field? ["currentResources"] members
    let input ← field? ["userInput"] members
    ofParts? strategy properties held input
  | .array items =>
    if items.length ≤ 4 then ofParts? items[0]? items[1]? items[2]? items[3]? else none
  | _ => none

end Request

end ResourcePool
