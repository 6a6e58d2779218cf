import ResourcePool.Yaml.Scalar

/-!
The tokens of a YAML stream. Most tokens stand for characters; those that open and close blocks stand
for changes of indentation, and a key that is not marked gets its token when its colon is found, at
the place where it began.
-/

namespace ResourcePool.Yaml

/-- Octets of a tag, which need not be those of a text. -/
abbrev Octets := List UInt8

inductive Token where
  | version (major minor : Nat)
  | tagDirective (handle : List Char) (start : Octets)
  | documentStart
  | documentEnd
  | blockSequence
  | blockMapping
  | blockEnd
  | flowSequence
  | flowSequenceEnd
  | flowMapping
  | flowMappingEnd
  | blockEntry
  | flowEntry
  | key
  | value
  | alias (name : List Char)
  | anchor (name : List Char)
  | tag (handle : List Char) (suffix : Octets)
  | scalar (isPlain : Bool) (text : List Char)
deriving DecidableEq

/-! ### Names and tags -/

/-- The characters that may follow the name of an anchor. -/
def endsName (c : Char) : Bool :=
  isGap c || c == '?' || c == ':' || c == ',' || c == ']' || c == '\x7d' || c == '%' || c == '@' ||
    c == '\x60'

/-- The name of an anchor or alias, after its indicator. -/
def name? (gs : List Glyph) : Option (List Char × List Glyph) :=
  let (name, rest) := span isWord gs
  if name ≠ [] ∧ endsName (here rest) then some (name, rest) else none

/-- The characters of tags, other than the percent sign of an escape. -/
def isTagChar (verbatim : Bool) (c : Char) : Bool :=
  isWord c || ";/?:@&=+$.!~*'()".toList.contains c || (verbatim && ",[]".toList.contains c)

/-- The octets of a text. -/
def octets (cs : List Char) : Octets := cs.flatMap String.utf8EncodeChar

/-- The octet of a percent sign and two hexadecimal digits. -/
def octet? (gs : List Glyph) : Option UInt8 :=
  if here gs = '%' then (Numeral.hexadecimal? [ahead 1 gs, ahead 2 gs]).map UInt8.ofNat else none

/-- The number of octets of a character, by its first one. -/
def octetCount? (first : UInt8) : Option Nat :=
  if first < 0x80 then some 1
  else if first / 0x20 = 0x6 then some 2
  else if first / 0x10 = 0xE then some 3
  else if first / 0x08 = 0x1E then some 4
  else none

/-- Whether an octet may follow the first one of a character. -/
def isFollowing (octet : UInt8) : Bool := octet / 0x40 == 2

/-- The octets that a row of escapes gives for one character. Whether they make one up is not asked. -/
def escapedOctets? (gs : List Glyph) : Option Octets := do
  let first ← octet? gs
  let count ← octetCount? first
  let more ← (List.range (count - 1)).mapM fun i =>
    (octet? (gs.drop (3 * (i + 1)))).filter isFollowing
  some (first :: more)

/-- The octets of a tag, as far as it goes. -/
def tagText? (verbatim : Bool) (gs : List Glyph) : Option (Octets × List Glyph) :=
  match gs with
  | [] => some ([], [])
  | g :: rest =>
    if g.char = '%' then
      match escapedOctets? (g :: rest) with
      | none => none
      | some escaped =>
        (tagText? verbatim (rest.drop (3 * escaped.length - 1))).map fun (text, rest) =>
          (escaped ++ text, rest)
    else if isTagChar verbatim g.char then
      (tagText? verbatim rest).map fun (text, rest) => (octets [g.char] ++ text, rest)
    else some ([], g :: rest)
termination_by gs.length
decreasing_by all_goals simp only [List.length_cons, List.length_drop]; omega

/-- A tag that may not be empty. -/
def someTagText? (verbatim : Bool) (gs : List Glyph) : Option (Octets × List Glyph) :=
  match tagText? verbatim gs with
  | some ([], _) => none
  | found => found

/-- A zero octet ends a tag, whatever follows it. -/
def cut (text : Octets) : Octets := text.takeWhile (· ≠ 0)

/-- An exclamation mark, a name and perhaps another mark. -/
def handle? (gs : List Glyph) : Option (List Char × List Glyph) :=
  if here gs ≠ '!' then none
  else
    let (name, rest) := span isWord (gs.drop 1)
    if here rest = '!' then some (['!'] ++ name ++ ['!'], rest.drop 1) else some ('!' :: name, rest)

/-- Whether a handle is more than the lone mark and ends with one. -/
def isWholeHandle (handle : List Char) : Bool := 1 < handle.length && handle.getLast? == some '!'

/-- A tag: given in full between angle brackets, by a handle and a suffix, or by a suffix alone. -/
def tag? (gs : List Glyph) : Option (Token × List Glyph) :=
  if ahead 1 gs = '<' then
    match someTagText? true (gs.drop 2) with
    | some (text, rest) => if here rest = '>' then some (.tag [] (cut text), rest.drop 1) else none
    | none => none
  else
    match handle? gs with
    | none => none
    | some (handle, rest) =>
      if isWholeHandle handle then
        (someTagText? false rest).map fun (suffix, rest) => (.tag handle (cut suffix), rest)
      else
        (tagText? false rest).map fun (text, rest) =>
          let suffix := cut (octets (handle.drop 1) ++ text)
          (if suffix = [] then .tag [] (octets ['!']) else .tag ['!'] suffix, rest)

/-- A tag in its place: a gap has to follow, or a comma in a flow collection. -/
def tagInPlace? (flow : Bool) (gs : List Glyph) : Option (Token × List Glyph) :=
  match tag? gs with
  | some (t, rest) =>
    if isGap (here rest) || (flow && here rest == ',') then some (t, rest) else none
  | none => none

/-! ### Directives -/

/-- A number of at most nine digits. -/
def versionNumber? (gs : List Glyph) : Option (Nat × List Glyph) :=
  let (digits, rest) := span Char.isDigit gs
  if digits ≠ [] ∧ digits.length ≤ 9 then some (Nat.ofDigitChars 10 digits 0, rest) else none

def versionDirective? (gs : List Glyph) : Option (Token × List Glyph) := do
  let (major, gs) ← versionNumber? (dropBlanks gs)
  if here gs = '.' then
    let (minor, gs) ← versionNumber? (gs.drop 1)
    some (.version major minor, gs)
  else none

def tagDirective? (gs : List Glyph) : Option (Token × List Glyph) := do
  let (handle, gs) ← handle? (dropBlanks gs)
  if handle = ['!'] ∨ isWholeHandle handle then
    if isBlank (here gs) then
      let (start, gs) ← someTagText? true (dropBlanks gs)
      if isGap (here gs) then some (.tagDirective handle (cut start), gs) else none
    else none
  else none

/-- A directive with its line; other directives than the two are not known. -/
def directive? (gs : List Glyph) : Option (Token × List Glyph) := do
  let (name, gs) := span isWord (gs.drop 1)
  let (t, gs) ←
    if !isGap (here gs) then none
    else if name = "YAML".toList then versionDirective? gs
    else if name = "TAG".toList then tagDirective? gs
    else none
  let gs ← endLine? gs
  some (t, gs)

end ResourcePool.Yaml
