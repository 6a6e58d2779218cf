import ResourcePool.Yaml.Token

/-!
From glyphs to tokens. The state keeps the indentation of the open blocks and, for each flow
collection that is open, the token that may turn out to be a key. Such a key has to be followed by a
colon in the same line and within 1024 bytes; one that stands where a new member of a block has
to begin must be.
-/

namespace ResourcePool.Yaml

/-- A token that may turn out to be a key: its number and its place. -/
structure PossibleKey where
  required : Bool
  number : Nat
  line : Nat
  column : Nat
  index : Nat

/-- The state between two tokens. The tokens stand in reverse; of the keys the first belongs to the
innermost collection and the last to the blocks around all of them. -/
structure Scanner where
  rest : List Glyph
  tokens : List Token
  count : Nat
  indent : Int
  indents : List Int
  keys : List (Option PossibleKey)
  keyAllowed : Bool

namespace Scanner

def start (gs : List Glyph) : Scanner := ⟨gs, [], 0, -1, [], [none], true⟩

/-- Whether a flow collection is open. -/
def inFlow (s : Scanner) : Bool := 1 < s.keys.length

def push (s : Scanner) (t : Token) : Scanner :=
  { s with tokens := t :: s.tokens, count := s.count + 1 }

/-- Puts a token before the one with a given number. -/
def insert (s : Scanner) (number : Nat) (t : Token) : Scanner :=
  { s with tokens := s.tokens.insertIdx (s.count - number) t, count := s.count + 1 }

/-- Goes ahead by so many characters. -/
def skip (s : Scanner) (n : Nat) : Scanner := { s with rest := s.rest.drop n }

/-! ### Keys -/

/-- Whether a possible key can still be one. -/
def PossibleKey.isFresh (key : PossibleKey) (gs : List Glyph) : Bool :=
  key.line == line gs && index gs ≤ key.index + 1024

/-- Gives up one possible key; a required one must not be. -/
def giveUp? : Option PossibleKey → Option (Option PossibleKey)
  | some key => if key.required then none else some none
  | none => some none

/-- Gives up the possible keys that have become stale. -/
def dropStale? (s : Scanner) : Option Scanner := do
  let keys ← s.keys.mapM fun (key : Option PossibleKey) =>
    if key.any fun key => !PossibleKey.isFresh key s.rest then giveUp? key else some key
  some { s with keys }

/-- Gives up the possible key of the innermost collection. -/
def dropKey? (s : Scanner) : Option Scanner :=
  match s.keys with
  | key :: outer => (giveUp? key).map fun key => { s with keys := key :: outer }
  | [] => some s

/-- Notes that the token to come may be a key. -/
def noteKey? (s : Scanner) : Option Scanner :=
  if s.keyAllowed then do
    let required := !s.inFlow && s.indent == column s.rest
    let key : PossibleKey := ⟨required, s.count, line s.rest, column s.rest, index s.rest⟩
    let s ← s.dropKey?
    some { s with keys := some key :: s.keys.drop 1 }
  else some s

def allowKey (s : Scanner) (allowed : Bool) : Scanner := { s with keyAllowed := allowed }

/-! ### Indentation -/

/-- Opens a block that begins at a column, if it is indented further than the innermost one. The
token goes before the one with the given number, or last. -/
def openBlock (s : Scanner) (column : Nat) (number : Option Nat) (t : Token) : Scanner :=
  if !s.inFlow && s.indent < column then
    let s := { s with indents := s.indent :: s.indents, indent := column }
    match number with
    | some number => s.insert number t
    | none => s.push t
  else s

/-- Closes the innermost of the blocks whose indentation is given, and so on outward, as long as they
are indented further than a column. -/
def closeOuter (column : Int) (s : Scanner) : List Int → Scanner
  | [] => s
  | outer :: rest =>
    if s.indent > column then closeOuter column (({ s with indent := outer, indents := rest }).push .blockEnd) rest
    else s

/-- Closes the blocks that are indented further than a column. -/
def closeBlocks (s : Scanner) (column : Int) : Scanner :=
  if s.inFlow then s else closeOuter column s s.indents

/-! ### Tokens -/

/-- Ends all blocks and keys, as each document and directive does. -/
def endBlocks? (s : Scanner) : Option Scanner := do
  let s ← (s.closeBlocks (-1)).dropKey?
  some (s.allowKey false)

def openFlow? (s : Scanner) (t : Token) : Option Scanner := do
  let s ← s.noteKey?
  some ((({ s with keys := none :: s.keys }).allowKey true).skip 1 |>.push t)

def closeFlow? (s : Scanner) (t : Token) : Option Scanner := do
  let s ← s.dropKey?
  let keys := if s.inFlow then s.keys.drop 1 else s.keys
  some ((({ s with keys }).allowKey false).skip 1 |>.push t)

def flowEntry? (s : Scanner) : Option Scanner := do
  let s ← s.dropKey?
  some ((s.allowKey true).skip 1 |>.push .flowEntry)

/-- Begins a block with an entry or a marked key, where one may begin. -/
def beginMember? (s : Scanner) (t : Token) : Option Scanner :=
  if s.inFlow then some s
  else if s.keyAllowed then some (s.openBlock (column s.rest) none t)
  else none

def blockEntry? (s : Scanner) : Option Scanner := do
  let s ← s.beginMember? .blockSequence
  let s ← s.dropKey?
  some ((s.allowKey true).skip 1 |>.push .blockEntry)

def key? (s : Scanner) : Option Scanner := do
  let s ← s.beginMember? .blockMapping
  let s ← s.dropKey?
  some ((s.allowKey !s.inFlow).skip 1 |>.push .key)

/-- A colon: it makes a key of what may be one, and belongs to a marked key otherwise. -/
def value? (s : Scanner) : Option Scanner := do
  let s ←
    match s.keys with
    | some key :: outer =>
      let s := (s.insert key.number .key).openBlock key.column (some key.number) .blockMapping
      some (({ s with keys := none :: outer }).allowKey false)
    | _ => do
      let s ← s.beginMember? .blockMapping
      some (s.allowKey !s.inFlow)
  some (s.skip 1 |>.push .value)

/-- A token that may be a key and is read by a function of its own. -/
def node? (s : Scanner) (read : List Glyph → Option (Token × List Glyph)) : Option Scanner := do
  let s ← s.noteKey?
  let (t, rest) ← read s.rest
  some ({ (s.allowKey false) with rest }.push t)

def blockScalar? (s : Scanner) (literal : Bool) : Option Scanner := do
  let s ← s.dropKey?
  let found ← block? literal s.indent (s.rest.drop 1)
  some (({ s with rest := found.rest }).allowKey true |>.push (.scalar false found.text))

def quotedScalar? (s : Scanner) (quote : Char) : Option Scanner :=
  s.node? fun gs => (quoted? quote (gs.drop 1)).map fun found => (.scalar false found.text, found.rest)

def plainScalar? (s : Scanner) : Option Scanner := do
  let s ← s.noteKey?
  let found ← plain? s.inFlow (s.indent + 1) s.rest
  some (({ s with rest := found.rest }).allowKey found.broken |>.push (.scalar true found.text))

/-- Whether a plain scalar may begin at a place. -/
def beginsPlain (flow : Bool) (gs : List Glyph) : Bool :=
  let c := here gs
  let d := ahead 1 gs
  !(isGap c || "-?:,[]\x7b\x7d#&*!|>'\"%@\x60".toList.contains c) || (c == '-' && !isBlank d) ||
    (!flow && (c == '?' || c == ':') && !isGap d)

/-- Goes to the next token, past blanks, comments and line ends. A tab cannot stand where a block
begins; a new line lets one begin. -/
def toToken (flow allowed comment : Bool) : List Glyph → List Glyph × Bool
  | [] => ([], allowed)
  | g :: rest =>
    let c := g.char
    if isBreak c then toToken flow (allowed || !flow) false rest
    else if isEnd c then (g :: rest, allowed)
    else if comment || c == ' ' || (c == '\t' && (flow || !allowed)) || (isMark c && g.column == 0) then
      toToken flow allowed comment rest
    else if c = '#' then toToken flow allowed true rest
    else (g :: rest, allowed)

/-- Takes the token that begins at the current place. -/
def take? (s : Scanner) : Option Scanner :=
  let gs := s.rest
  let c := here gs
  let flow := s.inFlow
  let gap := isGap (ahead 1 gs)
  if column gs = 0 ∧ c = '%' then do
    let s ← s.endBlocks?
    let (t, rest) ← directive? gs
    some ({ s with rest }.push t)
  else if isIndicator '-' gs then do some ((← s.endBlocks?).skip 3 |>.push .documentStart)
  else if isIndicator '.' gs then do some ((← s.endBlocks?).skip 3 |>.push .documentEnd)
  else if c = '[' then s.openFlow? .flowSequence
  else if c = '\x7b' then s.openFlow? .flowMapping
  else if c = ']' then s.closeFlow? .flowSequenceEnd
  else if c = '\x7d' then s.closeFlow? .flowMappingEnd
  else if c = ',' then s.flowEntry?
  else if c = '-' ∧ gap then s.blockEntry?
  else if c = '?' ∧ (flow ∨ gap) then s.key?
  else if c = ':' ∧ (flow ∨ gap) then s.value?
  else if c = '*' then s.node? fun gs => (name? (gs.drop 1)).map fun (name, rest) => (.alias name, rest)
  else if c = '&' then s.node? fun gs => (name? (gs.drop 1)).map fun (name, rest) => (.anchor name, rest)
  else if c = '!' then s.node? (tagInPlace? flow)
  else if c = '|' ∧ !flow then s.blockScalar? true
  else if c = '>' ∧ !flow then s.blockScalar? false
  else if c = '\'' ∨ c = '"' then s.quotedScalar? c
  else if beginsPlain flow gs then s.plainScalar?
  else none

/-- All tokens from a state on. Every one takes a character, so that there are at most as many steps as
glyphs are left. -/
def run? : Nat → Scanner → Option (List Token)
  | 0, _ => none
  | fuel + 1, s =>
    let (rest, keyAllowed) := toToken s.inFlow s.keyAllowed false s.rest
    match dropStale? { s with rest, keyAllowed } with
    | none => none
    | some next =>
      let next := next.closeBlocks (column rest)
      if isEnd (here rest) then next.endBlocks?.map fun s => s.tokens.reverse
      else next.take?.bind (run? fuel)

end Scanner

/-- The tokens of a text. -/
def tokens? (cs : List Char) : Option (List Token) :=
  (glyphs? cs).bind fun gs => Scanner.run? gs.length (.start gs)

end ResourcePool.Yaml
