import ResourcePool.Bag
import ResourcePool.Pool.Basic
import ResourcePool.Json.Basic

/-!
Property values, bags and capacities as JSON. A bag is an object of truth values, numbers and texts;
what a bag is written as reads back as the same bag, except that a large integer comes back as its
text, a floating-point number perhaps as one beside it, and one that is not finite as nothing.
-/

namespace ResourcePool

/-! ### Reading -/

namespace Value

/-- The value of a number: that of its integer, or else a finite floating-point number. Minus zero is
a floating-point number. -/
def ofNumber? (n : Json.Number) : Option Value :=
  let integer? := n.integer?.filter fun i => !(n.negative && i == 0)
  integer?.bind ofInt? <|> n.double?.map .float

def ofJson? : Json → Option Value
  | .bool b => some (.bool b)
  | .number n => ofNumber? n
  | .text (some s) => some (.text s)
  | _ => none

end Value

/-- A bag of an object's members; of two with the same key the later counts. -/
def Bag.ofJson? : Json → Option Bag
  | .object members =>
    (members.mapM fun (m : Option String × Json) => do some (← m.1, ← Value.ofJson? m.2)).map Bag.ofList
  | _ => none

/-! ### Writing -/

/-- The text of a value; integers of any size are written as texts, since numbers would not keep
their digits. -/
def Value.document : Value → List Char
  | .bool b => (if b then "true" else "false").toList
  | .int n => n.toInt.repr.toList
  | .big n => Json.quote n.repr.toList
  | .float x => x.document.toList
  | .text s => Json.quote s.toList

/-- Whether a document is written on one line or with one member a line. -/
inductive Layout where
  | compact
  | pretty
deriving DecidableEq

/-- An object of members with values that are written already. -/
def Layout.object (layout : Layout) (members : List (String × List Char)) : List Char :=
  if members = [] then ['\x7b', '\x7d']
  else
    match layout with
    | .compact =>
      let member (m : String × List Char) := Json.quote m.1.toList ++ [':'] ++ m.2
      ['\x7b'] ++ List.intercalate [','] (members.map member) ++ ['\x7d']
    | .pretty =>
      let member (m : String × List Char) :=
        [' ', ' '] ++ Json.quote m.1.toList ++ [':', ' '] ++ m.2
      ['\x7b', '\n'] ++ List.intercalate [',', '\n'] (members.map member) ++ ['\n', '\x7d']

def Bag.document (layout : Layout) (bag : Bag) : String :=
  String.ofList (layout.object (bag.entries.map fun e => (e.1, e.2.document)))

def Capacity.document (layout : Layout) (c : Capacity) : String :=
  String.ofList (layout.object
    [("freeCapacity", Json.quote c.free.repr.toList),
      ("utilizedCapacity", Json.quote c.utilized.repr.toList)])

end ResourcePool
