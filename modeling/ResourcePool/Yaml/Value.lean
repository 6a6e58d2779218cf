import ResourcePool.Value
import ResourcePool.Yaml.Node

/-!
The values of scalars. A plain scalar without a tag is whatever it looks like; a tag says what it has
to be, and a text that is quoted or in a block stays a text. Nothing at all and numbers between the
64-bit and the 128-bit integers have no value.
-/

namespace ResourcePool.Yaml

def isNothing (s : String) : Bool := s == "" || s == "null" || s == "Null" || s == "NULL" || s == "~"

def bool? (s : String) : Option Bool :=
  if s == "true" || s == "True" || s == "TRUE" then some true
  else if s == "false" || s == "False" || s == "FALSE" then some false
  else none

/-! ### Numbers -/

/-- Whether a text is digits with a needless zero in front, perhaps after a sign: this is no number. -/
def isPadded (cs : List Char) : Bool :=
  let digits := (Numeral.splitSign cs).2
  match digits with
  | '0' :: rest => rest ≠ [] && rest.all Char.isDigit
  | _ => false

/-- The value of a digit in a base of at most sixteen. -/
def digit? (base : Nat) (c : Char) : Option Nat := (Numeral.hexDigit? c).filter (· < base)

/-- The number of a nonempty run of digits in a base. -/
def natural? (base : Nat) (cs : List Char) : Option Nat :=
  if cs = [] then none
  else (cs.mapM (digit? base)).map fun digits => digits.foldl (fun n d => base * n + d) 0

/-- The digits after the mark of a base other than ten, with that base. -/
def based? : List Char → Option (Nat × List Char)
  | '0' :: 'x' :: rest => some (16, rest)
  | '0' :: 'o' :: rest => some (8, rest)
  | '0' :: 'b' :: rest => some (2, rest)
  | _ => none

/-- The integer a text spells: an optional sign, then digits, perhaps with the mark of a base. -/
def integer? (cs : List Char) : Option Int :=
  let (negative, digits) := Numeral.splitSign cs
  match based? digits with
  | some (base, digits) => (natural? base digits).map (Numeral.signed negative)
  | none => if isPadded cs then none else (natural? 10 digits).map (Numeral.signed negative)

/-- The floating-point number a text spells: a finite numeral, or the name of an infinity or of no
number after a point. -/
def float? (cs : List Char) : Option Double :=
  let s := String.ofList cs
  let (negative, body) := Numeral.splitSign cs
  let name := String.ofList body
  if name == ".inf" || name == ".Inf" || name == ".INF" then some (.infinite negative)
  else if s == ".nan" || s == ".NaN" || s == ".NAN" then some .nan
  else
    match (Decimal.read? cs).map Double.ofDecimal with
    | some (.finite negative m q) => some (.finite negative m q)
    | _ => none

/-- Whether an integer fits into 128 bits. Others count as floating-point numbers. -/
def isWide (n : Int) : Bool := -(Nat.pow 2 127 : Int) ≤ n && n < (Nat.pow 2 128 : Int)

/-! ### Scalars -/

/-- The integer a text spells in at most 128 bits. -/
def wideInteger? (cs : List Char) : Option Int := (integer? cs).filter isWide

/-- The value of a plain scalar without a tag. -/
def ofPlain? (cs : List Char) : Option Value :=
  let s := String.ofList cs
  if isNothing s then none
  else
    match bool? s, wideInteger? cs, (if isPadded cs then none else float? cs) with
    | some b, _, _ => some (.bool b)
    | none, some n, _ => Value.ofInt? n
    | none, none, some x => some (.float x)
    | none, none, none => some (.text s)

/-- The tag of a standard type. -/
def standard (name : String) : Octets := octets ("tag:yaml.org,2002:".toList ++ name.toList)

/-- The octet of the exclamation mark, with which the document's own tags begin. -/
def exclamation : UInt8 := 0x21

/-- Whether octets make up a text. -/
def isText (tag : Octets) : Bool := (ByteArray.mk tag.toArray).validateUTF8

/-- The value of a scalar that no standard tag is given to. -/
def ofUntagged? (isPlain : Bool) (cs : List Char) : Option Value :=
  if isPlain then ofPlain? cs else some (.text (String.ofList cs))

/-- The value of a scalar. A tag of the document's own is refused, unless it is no text: then it
counts for nothing. -/
def ofScalar? (tag : Option Octets) (isPlain : Bool) (cs : List Char) : Option Value :=
  match tag with
  | none => ofUntagged? isPlain cs
  | some tag =>
    if tag.head? = some exclamation then
      if isText (tag.drop 1) then none else ofUntagged? isPlain cs
    else if tag = standard "bool" then (bool? (String.ofList cs)).map .bool
    else if tag = standard "int" then (wideInteger? cs).bind Value.ofInt?
    else if tag = standard "float" then (float? cs).map .float
    else if tag = standard "null" then none
    else some (.text (String.ofList cs))

end ResourcePool.Yaml
