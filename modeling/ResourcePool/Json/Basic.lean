import ResourcePool.Json.Token

/-!
JSON documents as trees, read from their tokens. The reader keeps the open arrays and objects on a
stack and takes one token after the other, so that no nesting is too deep for it.
-/

namespace ResourcePool

/-- A JSON document. -/
inductive Json where
  | null
  | bool (b : Bool)
  | number (n : Json.Number)
  | text (s : Option String)
  | array (items : List Json)
  | object (members : List (Option String × Json))

namespace Json

/-- An array or object that has been opened, with its parts so far, the last one first. -/
inductive Frame where
  | array (items : List Json)
  | object (members : List (Option String × Json)) (key : Option String)

/-- What may come next. -/
inductive Expected where
  | value
  | firstItem
  | firstKey
  | key
  | colon
  | next
  | nothing (document : Json)

/-- The state between two tokens. -/
structure Reader where
  frames : List Frame
  expected : Expected

namespace Reader

def start : Reader := ⟨[], .value⟩

/-- Puts a finished value where it belongs. -/
def put (frames : List Frame) (v : Json) : Reader :=
  match frames with
  | [] => ⟨[], .nothing v⟩
  | .array items :: outer => ⟨.array (v :: items) :: outer, .next⟩
  | .object members key :: outer => ⟨.object ((key, v) :: members) none :: outer, .next⟩

/-- A token where a value has to begin. -/
def value? (frames : List Frame) : Token → Option Reader
  | .null => some (put frames .null)
  | .bool b => some (put frames (.bool b))
  | .number n => some (put frames (.number n))
  | .text s => some (put frames (.text s))
  | .openArray => some ⟨.array [] :: frames, .firstItem⟩
  | .openObject => some ⟨.object [] none :: frames, .firstKey⟩
  | _ => none

/-- A token where the innermost array or object may end. -/
def close? : List Frame → Token → Option Reader
  | .array items :: outer, .closeArray => some (put outer (.array items.reverse))
  | .object members _ :: outer, .closeObject => some (put outer (.object members.reverse))
  | _, _ => none

/-- A token where a key has to stand. -/
def key? : List Frame → Token → Option Reader
  | .object members _ :: outer, .text s => some ⟨.object members s :: outer, .colon⟩
  | _, _ => none

/-- A comma after a value. -/
def comma? : List Frame → Token → Option Reader
  | .array items :: outer, .comma => some ⟨.array items :: outer, .value⟩
  | .object members key :: outer, .comma => some ⟨.object members key :: outer, .key⟩
  | _, _ => none

/-- Takes one token. -/
def take? (r : Reader) (t : Token) : Option Reader :=
  match r.expected with
  | .value => value? r.frames t
  | .firstItem => close? r.frames t <|> value? r.frames t
  | .firstKey => close? r.frames t <|> key? r.frames t
  | .key => key? r.frames t
  | .colon => if t = .colon then some ⟨r.frames, .value⟩ else none
  | .next => close? r.frames t <|> comma? r.frames t
  | .nothing _ => none

end Reader

/-- The document of a list of tokens. -/
def ofTokens? (tokens : List Token) : Option Json :=
  match tokens.foldlM Reader.take? Reader.start with
  | some ⟨_, .nothing v⟩ => some v
  | _ => none

/-- The document that a text spells. -/
def read? (cs : List Char) : Option Json :=
  (tokens? cs).bind ofTokens?

end Json

end ResourcePool
