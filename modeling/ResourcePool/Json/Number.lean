import ResourcePool.Double.Basic

/-!
Numbers of a JSON document. One with a fraction, a power of ten or too many digits is taken as a
floating-point number in three steps: as many of its digits as make up a 64-bit number are rounded,
and the result is multiplied or divided by a power of ten. Each step rounds, so that a long numeral
need not give the nearest floating-point number, as `Double.ofDecimal` does.
-/

namespace ResourcePool.Json

/-- A number as it is written: its digits before and after the point, and its power of ten. -/
structure Number where
  negative : Bool
  whole : List Char
  fraction : List Char
  power : Option Int
deriving DecidableEq

namespace Number

/-- The integer of a number without a fraction and a power of ten. -/
def integer? (n : Number) : Option Int :=
  if n.fraction = [] && n.power.isNone then
    some (Numeral.signed n.negative (Nat.ofDigitChars 10 n.whole 0))
  else none

/-! ### As a floating-point number -/

/-- Appends digits to a number for as long as it fits into 64 bits; the rest is left over. -/
def fill (n : Nat) : List Char → Nat × List Char
  | [] => (n, [])
  | c :: rest =>
    let next := 10 * n + (c.toNat - '0'.toNat)
    if next < UInt64.size then fill next rest else (n, c :: rest)

/-- The digits that fit into 64 bits, and the power of ten that goes with them: a digit of the whole
part that is left over counts as a zero, one of the fraction as nothing. -/
def scaled (n : Number) : Nat × Int :=
  let (significand, dropped) := fill 0 n.whole
  let (significand, ignored) := fill significand n.fraction
  (significand, dropped.length + ignored.length - n.fraction.length + n.power.getD 0)

/-- The nearest floating-point number to a power of ten. -/
def tenTo (n : Nat) : Double := .ofRatio false (Nat.pow 10 n) 1

/-- The greatest power of ten among the finite floating-point numbers. -/
def greatestPower : Nat := 308

/-- A nonnegative number by a power of ten. Below the reach of one division by a power of ten there is
another one; what a third would reach is zero after two. -/
def shift (x : Double) (power : Int) : Double :=
  let n := power.natAbs
  if x.isZero then x
  else if 0 ≤ power then (if n ≤ greatestPower then x.mul (tenTo n) else .infinite false)
  else if n ≤ greatestPower then x.div (tenTo n)
  else (x.div (tenTo greatestPower)).div (tenTo (min (n - greatestPower) greatestPower))

/-- The floating-point number of a number, if it is finite. -/
def double? (n : Number) : Option Double :=
  let (significand, power) := n.scaled
  let x := shift (.ofInt significand) power
  if x.isFinite then some (if n.negative then x.neg else x) else none

end Number

end ResourcePool.Json
