import ResourcePool.Text.Basic

/-!
Floating-point numbers of 53 significant bits, held exactly. Every operation is an exact computation
on integers followed by one rounding to the nearest representable number, a tie going to the even
mantissa, so that no property depends on the machine.
-/

namespace ResourcePool

/-- A floating-point number: `± mantissa · 2 ^ exponent`, an infinity, or no number. The mantissa is
below `2 ^ 53` and the exponent the least one that allows this, but never below `-1074`. -/
inductive Double where
  | nan
  | infinite (negative : Bool)
  | finite (negative : Bool) (mantissa : Nat) (exponent : Int)
deriving DecidableEq

namespace Double

/-- The least mantissa of 53 bits, two to the power of 52. -/
def leastNormal : Nat := 4503599627370496

/-- The exponent of the smallest positive number. -/
def leastExponent : Int := -1074

/-- The exponent of the largest finite numbers. -/
def greatestExponent : Int := 971

def zero (negative : Bool) : Double := finite negative 0 leastExponent

/-- The quotient rounded to the nearest integer, a tie going to the even one. -/
def divEven (num den : Nat) : Nat :=
  let quotient := num / den
  let rest := 2 * (num % den)
  if rest > den ∨ rest = den ∧ quotient % 2 = 1 then quotient + 1 else quotient

/-- The two terms of `num / den / 2 ^ q`. -/
def scale (num den : Nat) (q : Int) : Nat × Nat :=
  (num * Nat.pow 2 (-q).toNat, den * Nat.pow 2 q.toNat)

/-- The exponent that leaves 53 bits before the point of `num / den`. -/
def exponentFor (num den : Nat) : Int :=
  let guess := (num.log2 : Int) - den.log2 - 53
  let (n, d) := scale num den guess
  max leastExponent (if n / d < 2 * leastNormal then guess else guess + 1)

/-- The nearest floating-point number to `± num / den`. -/
def ofRatio (negative : Bool) (num den : Nat) : Double :=
  if num = 0 then zero negative
  else
    let q := exponentFor num den
    let (n, d) := scale num den q
    let m := divEven n d
    let (m, q) := if m = 2 * leastNormal then (leastNormal, q + 1) else (m, q)
    if q > greatestExponent then infinite negative else finite negative m q

def ofInt (n : Int) : Double := ofRatio (n < 0) n.natAbs 1

/-- The nearest floating-point number to a decimal one. Powers of ten out of all reach are decided by
their size alone. -/
def ofDecimal (x : Decimal) : Double :=
  let size := x.exponent + (Nat.toDigits 10 x.digits).length
  if x.digits = 0 ∨ size < -400 then zero x.negative
  else if size > 400 then infinite x.negative
  else ofRatio x.negative (x.digits * Nat.pow 10 x.exponent.toNat) (Nat.pow 10 (-x.exponent).toNat)

/-- Division by a positive integer. -/
def divNat (x : Double) (d : Nat) : Double :=
  match x with
  | finite negative m q => ofRatio negative (m * Nat.pow 2 q.toNat) (d * Nat.pow 2 (-q).toNat)
  | other => other

def mul : Double → Double → Double
  | finite a m q, finite b n r =>
    ofRatio (a != b) (m * n * Nat.pow 2 (q + r).toNat) (Nat.pow 2 (-(q + r)).toNat)
  | infinite a, infinite b => infinite (a != b)
  | infinite a, finite b n _ => if n = 0 then nan else infinite (a != b)
  | finite a m _, infinite b => if m = 0 then nan else infinite (a != b)
  | nan, _ | _, nan => nan

def div : Double → Double → Double
  | finite a m q, finite b n r =>
    if n = 0 then (if m = 0 then nan else infinite (a != b))
    else ofRatio (a != b) (m * Nat.pow 2 (q - r).toNat) (n * Nat.pow 2 (r - q).toNat)
  | finite a _ _, infinite b => zero (a != b)
  | infinite a, finite b _ _ => infinite (a != b)
  | infinite _, infinite _ => nan
  | nan, _ | _, nan => nan

def neg : Double → Double
  | finite negative m q => finite (!negative) m q
  | infinite negative => infinite (!negative)
  | nan => nan

def isFinite : Double → Bool
  | finite .. => true
  | _ => false

def isZero : Double → Bool
  | finite _ m _ => m == 0
  | _ => false

/-- The integer part of a finite number. -/
def truncate? : Double → Option Int
  | finite negative m q => some (Numeral.signed negative (m * Nat.pow 2 q.toNat / Nat.pow 2 (-q).toNat))
  | _ => none

/-! ### Reading -/

/-- Whether a text is the given word, in ASCII letters of either case. -/
def spells (word : String) (cs : List Char) : Bool :=
  cs.map Char.toLower == word.toList

/-- The floating-point number that a text spells: a decimal numeral, or the name of an infinity or of
no number in any case. -/
def read? (cs : List Char) : Option Double :=
  let (negative, body) := Numeral.splitSign cs
  if spells "inf" body || spells "infinity" body then some (infinite negative)
  else if spells "nan" body then some nan
  else (Decimal.read? cs).map ofDecimal

end Double

end ResourcePool
