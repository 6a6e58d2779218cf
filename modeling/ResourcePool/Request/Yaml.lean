import ResourcePool.Request.Basic
import ResourcePool.Yaml.Anchors

/-!
Requests as YAML. A request and a resource are mappings; where a bag or a list may stand, nothing at
all counts as an empty one. Texts are taken as they are written, whatever they look like. Fields with
other names are passed over, and so are the aliases in them.
-/

namespace ResourcePool

namespace Yaml

/-- The bag of a mapping; of two members with the same key the later counts. -/
def Anchors.bag (anchors : Anchors) (n : Node) : Reading Bag := do
  let members ← anchors.members n
  let entries ← members.mapM fun (m : String × Node) => return (m.1, ← anchors.value m.2)
  return Bag.ofList entries

/-- A bag that may be left out. -/
def Anchors.bagOrEmpty (anchors : Anchors) : Option Node → Reading Bag
  | none => return .empty
  | some n => anchors.bag n

/-- The properties of a granted resource. -/
def Anchors.resource (anchors : Anchors) (n : Node) : Reading Bag := do
  let properties ← field? resourceNames (← anchors.members n)
  match properties with
  | some n => anchors.bag n
  | none => failure

/-- A list of resources that may be left out. -/
def Anchors.held (anchors : Anchors) : Option Node → Reading (List Bag)
  | none => return []
  | some n => do (← anchors.items n).mapM anchors.resource

/-- A request, whose fields may come in any order. -/
def Anchors.request (anchors : Anchors) (n : Node) : Reading Request := do
  let members ← anchors.members n
  match ← field? ["strategy"] members with
  | none => failure
  | some strategy =>
    return ⟨← anchors.text strategy, ← anchors.bagOrEmpty (← field? poolNames members),
      ← anchors.held (← field? ["currentResources"] members),
      ← anchors.bagOrEmpty (← field? ["userInput"] members)⟩

end Yaml

/-- The request that a document describes. -/
def Request.ofYaml? (root : Yaml.Node) : Option Request :=
  (((Yaml.Anchors.ofDocument root).request root).run (Yaml.aliasLimit root)).map Prod.fst

end ResourcePool
