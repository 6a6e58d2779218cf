/-!
The characters of a YAML stream with their places. Line ends of one or two characters become one
glyph, and a glyph without a character ends the stream, so that what stands at the current place can
always be asked.
-/

namespace ResourcePool.Yaml

/-- A character with its line, its column, and the number of bytes before it. -/
structure Glyph where
  char : Char
  line : Nat
  column : Nat
  index : Nat
deriving DecidableEq

/-- Whether a character may stand in a stream. -/
def isPrintable (c : Char) : Bool :=
  let n := c.toNat
  n == 0x09 || n == 0x0A || n == 0x0D || (0x20 ≤ n && n ≤ 0x7E) || n == 0x85 ||
    (0xA0 ≤ n && n ≤ 0xFFFD) || 0x10000 ≤ n

def isBlank (c : Char) : Bool := c == ' ' || c == '\t'

/-- The line ends that are kept apart; all others become a line feed. -/
def isBreak (c : Char) : Bool := c == '\n' || c == '\u2028' || c == '\u2029'

def isEnd (c : Char) : Bool := c == '\x00'

def isBreakOrEnd (c : Char) : Bool := isBreak c || isEnd c

/-- Blanks, line ends and the end of the stream separate tokens. -/
def isGap (c : Char) : Bool := isBlank c || isBreakOrEnd c

/-- The characters of names. -/
def isWord (c : Char) : Bool := c.isAlphanum || c == '_' || c == '-'

/-- The byte order mark. -/
def isMark (c : Char) : Bool := c == '\ufeff'

/-- Gives every character its place, from a given one on. -/
def layOut (line column index : Nat) : List Char → List Glyph
  | [] => [⟨'\x00', line, column, index⟩]
  | '\r' :: '\n' :: rest => ⟨'\n', line, column, index⟩ :: layOut (line + 1) 0 (index + 2) rest
  | c :: rest =>
    let normal := if c = '\r' ∨ c = '\u0085' then '\n' else c
    let next := index + c.utf8Size
    if isBreak normal then ⟨normal, line, column, index⟩ :: layOut (line + 1) 0 next rest
    else ⟨c, line, column, index⟩ :: layOut line (column + 1) next rest

/-- The glyphs of a text without forbidden characters. -/
def glyphs? (cs : List Char) : Option (List Glyph) :=
  if cs.all isPrintable then some (layOut 0 0 0 cs) else none

/-! ### What stands at a place -/

/-- The character so many places ahead. -/
def ahead (n : Nat) (gs : List Glyph) : Char := (gs[n]?.map Glyph.char).getD '\x00'

/-- The character at the current place. -/
def here (gs : List Glyph) : Char := ahead 0 gs

def column (gs : List Glyph) : Nat := (gs.head?.map Glyph.column).getD 0

def line (gs : List Glyph) : Nat := (gs.head?.map Glyph.line).getD 0

def index (gs : List Glyph) : Nat := (gs.head?.map Glyph.index).getD 0

/-- Whether a run of three of a character begins a line and is followed by a gap. -/
def isIndicator (c : Char) (gs : List Glyph) : Bool :=
  column gs == 0 && here gs == c && ahead 1 gs == c && ahead 2 gs == c && isGap (ahead 3 gs)

/-- Whether a document begins or ends at the current place. -/
def atDocumentIndicator (gs : List Glyph) : Bool := isIndicator '-' gs || isIndicator '.' gs

def dropBlanks (gs : List Glyph) : List Glyph := gs.dropWhile fun g => isBlank g.char

/-- Goes to the end of the line, if a comment begins here. -/
def dropComment (gs : List Glyph) : List Glyph :=
  if here gs = '#' then gs.dropWhile fun g => !isBreakOrEnd g.char else gs

/-- Goes past the line end. -/
def dropBreak (gs : List Glyph) : List Glyph := if isBreak (here gs) then gs.drop 1 else gs

/-- Goes past the rest of a line that holds nothing but blanks and a comment. -/
def endLine? (gs : List Glyph) : Option (List Glyph) :=
  let gs := dropComment (dropBlanks gs)
  if isBreakOrEnd (here gs) then some (dropBreak gs) else none

/-- The characters at the front that satisfy a condition, and what follows them. -/
def span (p : Char → Bool) (gs : List Glyph) : List Char × List Glyph :=
  ((gs.takeWhile fun g => p g.char).map Glyph.char, gs.dropWhile fun g => p g.char)

end ResourcePool.Yaml
