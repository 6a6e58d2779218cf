import ResourcePool.Yaml.Value

/-!
Reading documents with aliases. An alias stands for the node of its anchor; how many aliases may be
followed is bounded by the size of the document, so that a short one cannot stand for one out of all
proportion.
-/

namespace ResourcePool.Yaml

/-! ### Anchors -/

mutual

/-- The nodes with anchors, in the order in which they begin. -/
def anchored : Node → List (Nat × Node)
  | .alias _ => []
  | .scalar anchor tag isPlain text =>
    (anchor.map fun id => (id, Node.scalar anchor tag isPlain text)).toList
  | .sequence anchor items =>
    (anchor.map fun id => (id, Node.sequence anchor items)).toList ++ anchoredItems items
  | .mapping anchor members =>
    (anchor.map fun id => (id, Node.mapping anchor members)).toList ++ anchoredMembers members

def anchoredItems : List Node → List (Nat × Node)
  | [] => []
  | n :: rest => anchored n ++ anchoredItems rest

def anchoredMembers : List (Node × Node) → List (Nat × Node)
  | [] => []
  | (key, value) :: rest => anchored key ++ anchored value ++ anchoredMembers rest

end

/-- The nodes that aliases stand for; of two with the same number the later counts. -/
def Anchors : Type := List (Nat × Node)

def Anchors.ofDocument (root : Node) : Anchors := (anchored root).reverse

/-! ### The size of a document -/

mutual

/-- The number of marks a document is written with: one for a scalar or an alias, and one each for the
beginning and the end of a collection. -/
def size : Node → Nat
  | .alias _ | .scalar .. => 1
  | .sequence _ items => sizeOfItems items + 2
  | .mapping _ members => sizeOfMembers members + 2

def sizeOfItems : List Node → Nat
  | [] => 0
  | n :: rest => size n + sizeOfItems rest

def sizeOfMembers : List (Node × Node) → Nat
  | [] => 0
  | (key, value) :: rest => size key + size value + sizeOfMembers rest

end

/-- How many aliases may be followed while a document is read. An alias counts as often as it is read. -/
def aliasLimit (root : Node) : Nat := 100 * size root

/-! ### Reading with aliases -/

/-- Reading that may fail, and that may follow only so many aliases more. -/
abbrev Reading (α : Type) : Type := StateT Nat Option α

/-- The node itself, or the one it is an alias of. -/
def Anchors.resolve (anchors : Anchors) : Node → Reading Node
  | .alias id, left + 1 => (List.lookup id anchors).map fun n => (n, left)
  | .alias _, 0 => none
  | n, left => some (n, left)

/-- The text of a scalar. -/
def Anchors.text (anchors : Anchors) (n : Node) : Reading String := do
  match ← anchors.resolve n with
  | .scalar _ _ _ text => return String.ofList text
  | _ => failure

/-- The members of a mapping whose keys are all texts. -/
def Anchors.members (anchors : Anchors) (n : Node) : Reading (List (String × Node)) := do
  match ← anchors.resolve n with
  | .mapping _ members => members.mapM fun (m : Node × Node) => return (← anchors.text m.1, m.2)
  | .scalar _ _ true [] => return []
  | _ => failure

/-- The items of a sequence. -/
def Anchors.items (anchors : Anchors) (n : Node) : Reading (List Node) := do
  match ← anchors.resolve n with
  | .sequence _ items => return items
  | .scalar _ _ true [] => return []
  | _ => failure

/-- The value of a scalar. -/
def Anchors.value (anchors : Anchors) (n : Node) : Reading Value := do
  match ← anchors.resolve n with
  | .scalar _ tag isPlain text => ofScalar? tag isPlain text
  | _ => failure

end ResourcePool.Yaml
