import ResourcePool.Error
import ResourcePool.Text.Basic

/-!
Network addresses. An address is a number of the width of its family.

IPv4 addresses are written as four octets in decimal digits with points between them; an octet may
have leading zeros as long as it has at most three digits. IPv6 addresses are written as eight groups
of hexadecimal digits with colons between them, where `::` stands for a run of zero groups and the
last two groups may be written as an IPv4 address. Addresses and networks are read by slightly
different rules there, which a `Spelling` records. Writing elides the longest run of zero groups, the
leftmost of equally long ones, and never a single group.
-/

namespace ResourcePool

/-- An address of a family. -/
structure Address (f : Family) where
  value : Nat
  lt : value < f.space
deriving DecidableEq

namespace Address

/-- The last address of a family. -/
def last (f : Family) : Address f :=
  ⟨f.space - 1, Nat.sub_lt (Nat.two_pow_pos _) Nat.one_pos⟩

/-- The address with a given value. Outside of the space there is none in IPv6, while IPv4 stays at
its last address. -/
def ofInt (f : Family) (n : Int) : Except Error (Address f) :=
  if h : 0 ≤ n ∧ n < f.space then
    .ok ⟨n.toNat, (Int.toNat_lt h.1).2 h.2⟩
  else
    match f with
    | .v4 => .ok (last .v4)
    | .v6 => .error (.ipv6Shape n.repr)

theorem ofInt_value {f : Family} (a : Address f) : ofInt f a.value = .ok a := by
  have bound : (a.value : Int) < f.space := Int.ofNat_lt.2 a.lt
  rw [ofInt, dif_pos ⟨Int.natCast_nonneg _, bound⟩]
  rfl

end Address

end ResourcePool

namespace ResourcePool.Address.V4

/-! ### Four octets -/

/-- A run of one to three ASCII digits. -/
def isGroup (cs : List Char) : Bool :=
  cs ≠ [] && cs.length ≤ 3 && cs.all Char.isDigit

/-- The numbers of a text of four groups of digits, whether or not they are octets. -/
def groups? (cs : List Char) : Option (Nat × Nat × Nat × Nat) :=
  match cs.splitOn '.' with
  | [a, b, c, d] =>
    if isGroup a && isGroup b && isGroup c && isGroup d then
      some (Nat.ofDigitChars 10 a 0, Nat.ofDigitChars 10 b 0, Nat.ofDigitChars 10 c 0,
        Nat.ofDigitChars 10 d 0)
    else none
  | _ => none

/-- The address of four octets. -/
def ofOctets? : Nat × Nat × Nat × Nat → Option (Address .v4)
  | (a, b, c, d) =>
    if h : a ≤ 255 ∧ b ≤ 255 ∧ c ≤ 255 ∧ d ≤ 255 then
      some ⟨a * 16777216 + b * 65536 + c * 256 + d, by
        have : Family.v4.space = 4294967296 := rfl
        omega⟩
    else none

def read (text : String) : Except Error (Address .v4) :=
  match groups? text.toList with
  | none => .error (.ipv4Shape text)
  | some groups =>
    match ofOctets? groups with
    | none => .error (.ipv4Octet text)
    | some a => .ok a

/-- The octets of a value, the most significant first. -/
def octets (value : Nat) : List Nat :=
  [value / 16777216 % 256, value / 65536 % 256, value / 256 % 256, value % 256]

def write (a : Address .v4) : List Char :=
  List.intercalate ['.'] ((octets a.value).map (Nat.toDigits 10))

end ResourcePool.Address.V4

namespace ResourcePool.Address.V6

/-- What a text may do beyond the common rules. -/
structure Spelling where
  /-- Octets of an embedded IPv4 address may have leading zeros. -/
  paddedOctets : Bool
  /-- `::` may stand for no group at all. -/
  emptyElision : Bool

/-- How an address is spelt on its own. -/
def Spelling.address : Spelling := ⟨false, false⟩

/-- How the address of a network is spelt. -/
def Spelling.network : Spelling := ⟨true, true⟩

/-! ### Reading eight groups -/

/-- The number that one to four hexadecimal digits spell. -/
def hexGroup? (cs : List Char) : Option Nat :=
  if cs = [] ∨ 4 < cs.length then none else Numeral.hexadecimal? cs

/-- Whether no octet has more digits than it needs. -/
def unpadded (cs : List Char) : Bool :=
  (cs.splitOn '.').all fun octet => octet.length == 1 || octet.head? != some '0'

/-- The two groups of an embedded IPv4 address. -/
def embedded? (spelling : Spelling) (cs : List Char) : Option (List Nat) :=
  if spelling.paddedOctets || unpadded cs then
    ((V4.groups? cs).bind V4.ofOctets?).map fun a => [a.value / 65536, a.value % 65536]
  else none

/-- The groups of a text's pieces; only the last piece may be an IPv4 address, and only where that is
allowed at all. -/
def readGroups? (ipv4? : List Char → Option (List Nat)) : List (List Char) → Option (List Nat)
  | [] => some []
  | [piece] => ipv4? piece <|> (hexGroup? piece).map fun n => [n]
  | piece :: rest => do
    let n ← hexGroup? piece
    let ns ← readGroups? ipv4? rest
    some (n :: ns)

/-- The pieces between colons; an empty text has none. -/
def pieces (cs : List Char) : List (List Char) :=
  if cs = [] then [] else cs.splitOn ':'

/-- What stands before and after the first double colon. -/
def splitElision? : List Char → Option (List Char × List Char)
  | ':' :: ':' :: rest => some ([], rest)
  | c :: rest => (splitElision? rest).map fun (before, after) => (c :: before, after)
  | [] => none

/-- Whether `::` may stand between so many groups. -/
def Spelling.elides (spelling : Spelling) (before after : Nat) : Bool :=
  before ≤ 7 && before + after ≤ (if spelling.emptyElision then 8 else 7)

/-- The eight groups a text spells. -/
def groups? (spelling : Spelling) (cs : List Char) : Option (List Nat) :=
  match splitElision? cs with
  | none =>
    match readGroups? (embedded? spelling) (pieces cs) with
    | some groups => if groups.length = 8 then some groups else none
    | none => none
  | some (head, tail) =>
    match readGroups? (fun _ => none) (pieces head), readGroups? (embedded? spelling) (pieces tail) with
    | some before, some after =>
      if spelling.elides before.length after.length then
        some (before ++ List.replicate (8 - before.length - after.length) 0 ++ after)
      else none
    | _, _ => none

/-- The number of a list of groups, the most significant first. -/
def ofGroups (groups : List Nat) : Nat :=
  groups.foldl (fun n g => 65536 * n + g) 0

def read? (spelling : Spelling) (cs : List Char) : Option (Address .v6) :=
  (groups? spelling cs).bind fun groups =>
    if h : ofGroups groups < Family.v6.space then some ⟨ofGroups groups, h⟩ else none

def read (text : String) : Except Error (Address .v6) :=
  match read? .address text.toList with
  | some a => .ok a
  | none => .error (.ipv6Shape text)

/-! ### Writing eight groups -/

/-- The eight groups of a value, the most significant first. -/
def toGroups (value : Nat) : List Nat :=
  [7, 6, 5, 4, 3, 2, 1, 0].map fun i => value / Nat.pow 65536 i % 65536

/-- The number of zero groups from a position on. -/
def zerosFrom (groups : List Nat) (i : Nat) : Nat :=
  ((groups.drop i).takeWhile (· == 0)).length

/-- The position and length of the longest run of zero groups, the leftmost of equally long ones. -/
def longestRun (groups : List Nat) : Nat × Nat :=
  (List.range groups.length).foldl
    (fun best i => if best.2 < zerosFrom groups i then (i, zerosFrom groups i) else best) (0, 0)

def joined (groups : List Nat) : List Char :=
  List.intercalate [':'] (groups.map (Nat.toDigits 16))

def write (a : Address .v6) : List Char :=
  let groups := toGroups a.value
  let (start, length) := longestRun groups
  if length < 2 then joined groups
  else joined (groups.take start) ++ [':', ':'] ++ joined (groups.drop (start + length))

end ResourcePool.Address.V6

namespace ResourcePool.Address

/-! ### By the rules of the family -/

def read : (f : Family) → String → Except Error (Address f)
  | .v4, text => V4.read text
  | .v6, text => V6.read text

def text : {f : Family} → Address f → String
  | .v4, a => String.ofList (V4.write a)
  | .v6, a => String.ofList (V6.write a)

end ResourcePool.Address
