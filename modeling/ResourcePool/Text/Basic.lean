/-!
Texts as lists of characters: the white space around a value, the first occurrence of a word, and
numerals. `Numeral.integer?` admits one sign in front of the digits; `Numeral.grouped?` also admits
underscores after the first digit, which is how integers of unbounded size are written. A `Decimal`
is the exact number that a numeral with a fraction and a power of ten spells; rounding it to a
floating-point number is the business of `Double`.
-/

namespace ResourcePool.Text

/-! ### White space -/

/-- Whether a character has the Unicode property `White_Space`. -/
def isBlank (c : Char) : Bool :=
  let n := c.toNat
  (9 ≤ n && n ≤ 13) || n == 0x20 || n == 0x85 || n == 0xA0 || n == 0x1680 ||
    (0x2000 ≤ n && n ≤ 0x200A) || n == 0x2028 || n == 0x2029 || n == 0x202F || n == 0x205F ||
    n == 0x3000

/-- A text without the white space at its two ends. -/
def trim (cs : List Char) : List Char :=
  ((cs.dropWhile isBlank).reverse.dropWhile isBlank).reverse

/-- A text that neither begins nor ends with white space is left alone. -/
theorem trim_eq_self {cs : List Char} (first : ∀ c ∈ cs.head?, isBlank c = false)
    (last : ∀ c ∈ cs.getLast?, isBlank c = false) : trim cs = cs := by
  have keep : ∀ {l : List Char}, (∀ c ∈ l.head?, isBlank c = false) → l.dropWhile isBlank = l := by
    intro l h
    cases l with
    | nil => rfl
    | cons c r => simp [List.dropWhile, h c (by simp)]
  rw [trim, keep first, keep (by simpa using last), List.reverse_reverse]

/-! ### Words -/

/-- Whether a word occurs in a text. -/
def occurs (word : List Char) : List Char → Bool
  | [] => word.isEmpty
  | c :: rest => word.isPrefixOf (c :: rest) || occurs word rest

/-- Puts a replacement in the place of the first occurrence of a word. -/
def replaceFirst (word replacement : List Char) : List Char → List Char
  | [] => if word.isEmpty then replacement else []
  | c :: rest =>
    if word.isPrefixOf (c :: rest) then replacement ++ (c :: rest).drop word.length
    else c :: replaceFirst word replacement rest

end ResourcePool.Text

namespace ResourcePool.Numeral

/-! ### Integers in digits -/

/-- The number that a nonempty run of ASCII digits spells. -/
def natural? (cs : List Char) : Option Nat :=
  if cs ≠ [] ∧ cs.all Char.isDigit then some (Nat.ofDigitChars 10 cs 0) else none

/-- Takes one sign off the front; the flag says whether it is a minus. -/
def splitSign : List Char → Bool × List Char
  | '-' :: rest => (true, rest)
  | '+' :: rest => (false, rest)
  | rest => (false, rest)

/-- A magnitude with its sign. -/
def signed (negative : Bool) (n : Nat) : Int :=
  if negative then -(n : Int) else n

/-- An optional sign and digits. -/
def integer? (cs : List Char) : Option Int :=
  let (negative, digits) := splitSign cs
  (natural? digits).map (signed negative)

/-- An optional sign and digits, among which underscores may stand anywhere but first. -/
def grouped? (cs : List Char) : Option Int :=
  let (negative, digits) := splitSign cs
  if digits.head? = some '_' then none
  else (natural? (digits.filter (· ≠ '_'))).map (signed negative)

/-! ### Hexadecimal digits -/

/-- The value of an ASCII hexadecimal digit. -/
def hexDigit? (c : Char) : Option Nat :=
  if c.isDigit then some (c.toNat - '0'.toNat)
  else if 'a' ≤ c ∧ c ≤ 'f' then some (c.toNat - 'a'.toNat + 10)
  else if 'A' ≤ c ∧ c ≤ 'F' then some (c.toNat - 'A'.toNat + 10)
  else none

/-- The number that a list of hexadecimal digits spells. -/
def hexadecimal? (cs : List Char) : Option Nat :=
  (cs.mapM hexDigit?).map fun digits => digits.foldl (fun n d => 16 * n + d) 0

/-! ### Writing and reading back -/

theorem natural?_toDigits (n : Nat) : natural? (Nat.toDigits 10 n) = some n := by
  have digits : (Nat.toDigits 10 n).all Char.isDigit = true :=
    List.all_eq_true.2 fun c hc => Nat.isDigit_of_mem_toDigits (by omega) (by omega) hc
  have nonempty : Nat.toDigits 10 n ≠ [] := by
    intro h
    have := Nat.length_toDigits_pos (b := 10) (n := n)
    simp [h] at this
  simp [natural?, digits, nonempty, Nat.ofDigitChars_toDigits]

end ResourcePool.Numeral

namespace ResourcePool

/-! ### Decimal numerals -/

/-- The number `± digits · 10 ^ exponent`. -/
structure Decimal where
  negative : Bool
  digits : Nat
  exponent : Int
deriving DecidableEq

namespace Decimal

/-- The power of ten at the end of a numeral: nothing, or `e`, an optional sign and digits. -/
def power? : List Char → Option Int
  | [] => some 0
  | c :: rest => if c = 'e' ∨ c = 'E' then Numeral.integer? rest else none

/-- Reads a numeral: an optional sign, digits with at most one point among or around them, and an
optional power of ten. -/
def read? (cs : List Char) : Option Decimal :=
  let (negative, body) := Numeral.splitSign cs
  let whole := body.takeWhile Char.isDigit
  let (fraction, rest) :=
    match body.dropWhile Char.isDigit with
    | '.' :: rest => (rest.takeWhile Char.isDigit, rest.dropWhile Char.isDigit)
    | rest => ([], rest)
  match Numeral.natural? (whole ++ fraction), power? rest with
  | some digits, some power => some ⟨negative, digits, power - fraction.length⟩
  | _, _ => none

end Decimal

end ResourcePool
