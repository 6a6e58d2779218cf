import ResourcePool.Yaml.Scanner

/-!
YAML documents as trees of nodes, read from their tokens. A node may carry an anchor and another may
be an alias of it; anchors are numbered in the order in which their names first appear, so that an
anchor given again under an old name takes the number that the next new name would get.
-/

namespace ResourcePool.Yaml

/-- A node of a document. -/
inductive Node where
  | scalar (anchor : Option Nat) (tag : Option Octets) (isPlain : Bool) (text : List Char)
  | sequence (anchor : Option Nat) (items : List Node)
  | mapping (anchor : Option Nat) (members : List (Node × Node))
  | alias (anchor : Nat)

/-- The node of nothing: an empty plain scalar. -/
def Node.empty : Node := .scalar none none true []

/-! ### Properties of nodes -/

/-- What has been declared so far: handles of tags with what they stand for, and names of anchors
with their numbers. -/
structure Context where
  handles : List (List Char × Octets)
  anchors : List (List Char × Nat)

/-- The handles that every document has. -/
def Context.ofHandles (handles : List (List Char × Octets)) : Context :=
  ⟨handles ++ [(['!'], octets ['!']), (['!', '!'], octets "tag:yaml.org,2002:".toList)], []⟩

/-- Declares an anchor: the number of names known so far is its number. -/
def Context.declare (c : Context) (name : List Char) : Context × Nat :=
  let id := c.anchors.length
  ({ c with anchors := (name, id) :: c.anchors.filter fun a => a.1 ≠ name }, id)

/-- The tag of a handle and a suffix. -/
def Context.tag? (c : Context) (handle : List Char) (suffix : Octets) : Option Octets :=
  if handle = [] then some suffix else (c.handles.lookup handle).map (· ++ suffix)

/-- An anchor and a tag, either of which may come first or be absent. -/
def properties (ts : List Token) : Option (List Char) × Option (List Char × Octets) × List Token :=
  match ts with
  | .anchor a :: .tag h s :: rest => (some a, some (h, s), rest)
  | .tag h s :: .anchor a :: rest => (some a, some (h, s), rest)
  | .anchor a :: rest => (some a, none, rest)
  | .tag h s :: rest => (none, some (h, s), rest)
  | rest => (none, none, rest)

/-! ### Reading -/

/-- What reading a part of a document gives: the part, the context after it and the tokens left. -/
structure Parsed (α : Type) where
  value : α
  context : Context
  rest : List Token

/-- No node where one could be. -/
def nothing (c : Context) (rest : List Token) : Parsed Node := ⟨.empty, c, rest⟩

/-- Where a node stands: in a flow collection, in a block, or as key or value of a block mapping,
where the entries of a sequence need no indentation. -/
inductive Position where
  | flow
  | block
  | member
deriving DecidableEq

def endsEntry (t : Option Token) : Bool := t == some .blockEntry || t == some .blockEnd

def endsIndentless (t : Option Token) : Bool :=
  endsEntry t || t == some .key || t == some .value

def endsMember (t : Option Token) : Bool := t == some .key || t == some .value || t == some .blockEnd

def endsFlowItem (t : Option Token) : Bool := t == some .flowEntry || t == some .flowSequenceEnd

def endsFlowMember (t : Option Token) : Bool := t == some .flowEntry || t == some .flowMappingEnd

mutual

/-- Reads a node. The depth of the calls is bounded by twice the number of tokens, since at least one
token is taken in any two calls. -/
def node? : Nat → Position → Context → List Token → Option (Parsed Node)
  | 0, _, _, _ => none
  | fuel + 1, position, c, ts =>
    match ts with
    | .alias name :: rest => (c.anchors.lookup name).map fun id => ⟨.alias id, c, rest⟩
    | _ =>
      let (name, given, ts) := properties ts
      let tag : Option (Option Octets) :=
        match given with
        | none => some none
        | some (handle, suffix) => (c.tag? handle suffix).map some
      match tag with
      | none => none
      | some tag =>
        let (c, anchor) :=
          match name with
          | none => (c, none)
          | some name => let (c, id) := c.declare name; (c, some id)
        let sequence (p : Parsed (List Node)) : Parsed Node := ⟨.sequence anchor p.value, p.context, p.rest⟩
        let mapping (p : Parsed (List (Node × Node))) : Parsed Node :=
          ⟨.mapping anchor p.value, p.context, p.rest⟩
        match ts, position with
        | .blockEntry :: _, .member => (indentless? fuel c ts).map sequence
        | .scalar isPlain text :: rest, _ => some ⟨.scalar anchor tag isPlain text, c, rest⟩
        | .flowSequence :: rest, _ => (flowItems? fuel true c rest).map sequence
        | .flowMapping :: rest, _ => (flowMembers? fuel true c rest).map mapping
        | .blockSequence :: rest, .block | .blockSequence :: rest, .member =>
          (blockItems? fuel c rest).map sequence
        | .blockMapping :: rest, .block | .blockMapping :: rest, .member =>
          (blockMembers? fuel c rest).map mapping
        | rest, _ => if name.isSome || given.isSome then some ⟨.scalar anchor tag true [], c, rest⟩ else none

/-- Reads a node unless something else comes first. -/
def nodeUnless? : Nat → (Option Token → Bool) → Position → Context → List Token → Option (Parsed Node)
  | 0, _, _, _, _ => none
  | fuel + 1, ends, position, c, ts =>
    if ends ts.head? then some (nothing c ts) else node? fuel position c ts

/-- Reads the entries of a block sequence. -/
def blockItems? : Nat → Context → List Token → Option (Parsed (List Node))
  | 0, _, _ => none
  | fuel + 1, c, ts =>
    match ts with
    | .blockEntry :: rest => do
      let item ← nodeUnless? fuel endsEntry .block c rest
      let items ← blockItems? fuel item.context item.rest
      some { items with value := item.value :: items.value }
    | .blockEnd :: rest => some ⟨[], c, rest⟩
    | _ => none

/-- Reads the entries of a sequence that is not indented. -/
def indentless? : Nat → Context → List Token → Option (Parsed (List Node))
  | 0, _, _ => none
  | fuel + 1, c, ts =>
    match ts with
    | .blockEntry :: rest => do
      let item ← nodeUnless? fuel endsIndentless .block c rest
      let items ← indentless? fuel item.context item.rest
      some { items with value := item.value :: items.value }
    | rest => some ⟨[], c, rest⟩

/-- Reads the members of a block mapping. -/
def blockMembers? : Nat → Context → List Token → Option (Parsed (List (Node × Node)))
  | 0, _, _ => none
  | fuel + 1, c, ts =>
    match ts with
    | .key :: rest => do
      let key ← nodeUnless? fuel endsMember .member c rest
      let value ← blockValue? fuel key.context key.rest
      let members ← blockMembers? fuel value.context value.rest
      some { members with value := (key.value, value.value) :: members.value }
    | .blockEnd :: rest => some ⟨[], c, rest⟩
    | _ => none

/-- Reads the value of a member, if it has one. -/
def blockValue? : Nat → Context → List Token → Option (Parsed Node)
  | 0, _, _ => none
  | fuel + 1, c, ts =>
    match ts with
    | .value :: rest => nodeUnless? fuel endsMember .member c rest
    | rest => some (nothing c rest)

/-- Reads the items of a flow sequence; a key makes a mapping of one member. -/
def flowItems? : Nat → Bool → Context → List Token → Option (Parsed (List Node))
  | 0, _, _, _ => none
  | fuel + 1, first, c, ts =>
    match (if first then some ts else if ts.head? = some .flowEntry then some (ts.drop 1)
      else if ts.head? = some .flowSequenceEnd then some ts else none) with
    | none => none
    | some (.flowSequenceEnd :: rest) => some ⟨[], c, rest⟩
    | some (.key :: rest) => do
      let member ← pair? fuel c rest
      let items ← flowItems? fuel false member.context member.rest
      some { items with value := .mapping none [member.value] :: items.value }
    | some ts => do
      let item ← node? fuel .flow c ts
      let items ← flowItems? fuel false item.context item.rest
      some { items with value := item.value :: items.value }

/-- Reads a member that is an item of a sequence. Where its key is missing, a token is passed over. -/
def pair? : Nat → Context → List Token → Option (Parsed (Node × Node))
  | 0, _, _ => none
  | fuel + 1, c, ts => do
    let missing := ts.head? = some .value || endsFlowItem ts.head?
    let key : Parsed Node ← if missing then some (nothing c (ts.drop 1)) else node? fuel .flow c ts
    let value : Parsed Node ←
      match key.rest with
      | .value :: rest => nodeUnless? fuel endsFlowItem .flow key.context rest
      | rest => some (nothing key.context rest)
    some ⟨(key.value, value.value), value.context, value.rest⟩

/-- Reads the members of a flow mapping; a node without a key's mark is a key without a value. -/
def flowMembers? : Nat → Bool → Context → List Token → Option (Parsed (List (Node × Node)))
  | 0, _, _, _ => none
  | fuel + 1, first, c, ts =>
    match (if first then some ts else if ts.head? = some .flowEntry then some (ts.drop 1)
      else if ts.head? = some .flowMappingEnd then some ts else none) with
    | none => none
    | some (.flowMappingEnd :: rest) => some ⟨[], c, rest⟩
    | some (.key :: rest) => do
      let key : Parsed Node ←
        if rest.head? = some .value || endsFlowMember rest.head? then some (nothing c rest)
        else node? fuel .flow c rest
      let value : Parsed Node ←
        match key.rest with
        | .value :: rest => nodeUnless? fuel endsFlowMember .flow key.context rest
        | rest => some (nothing key.context rest)
      let members ← flowMembers? fuel false value.context value.rest
      some { members with value := (key.value, value.value) :: members.value }
    | some ts => do
      let key ← node? fuel .flow c ts
      let members ← flowMembers? fuel false key.context key.rest
      some { members with value := (key.value, .empty) :: members.value }

end

/-! ### Documents -/

/-- The directives at the front: at most one version, and handles that are all different. -/
def directives? (version : Bool) (handles : List (List Char × Octets)) :
    List Token → Option (List (List Char × Octets) × List Token)
  | .version major minor :: rest =>
    if version ∨ major ≠ 1 ∨ ¬ (minor = 1 ∨ minor = 2) then none else directives? true handles rest
  | .tagDirective handle start :: rest =>
    if handles.any fun h => h.1 = handle then none
    else directives? version (handles ++ [(handle, start)]) rest
  | rest => some (handles, rest)

def endsDocument (t : Option Token) : Bool :=
  match t with
  | none | some (.version ..) | some (.tagDirective ..) | some .documentStart | some .documentEnd => true
  | _ => false

/-- The node of a document that begins with directives or its mark. -/
def markedDocument? (ts : List Token) : Option (Parsed Node) :=
  match directives? false [] ts with
  | some (handles, .documentStart :: rest) =>
    nodeUnless? (2 * rest.length + 4) endsDocument .block (.ofHandles handles) rest
  | _ => none

/-- Whether nothing but marks of a document's end is left. -/
def nothingLeft (ts : List Token) : Bool := ts.all (· == .documentEnd)

/-- The only document of a list of tokens. -/
def document? (ts : List Token) : Option Node :=
  let parsed :=
    match ts.head? with
    | none => some (nothing (.ofHandles []) [])
    | some (.version ..) | some (.tagDirective ..) | some .documentStart => markedDocument? ts
    | _ => node? (2 * ts.length + 4) .block (.ofHandles []) ts
  match parsed with
  | some p => if nothingLeft p.rest then some p.value else none
  | none => none

/-- The document that a text spells. -/
def read? (cs : List Char) : Option Node := (tokens? cs).bind document?

end ResourcePool.Yaml
