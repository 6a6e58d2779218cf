import ResourcePool.Double.Basic

/-!
The fewest decimal digits that read back. Among the decimals with a given number of digits only the
two neighbours of a number can round to it, so the search tries one digit, two digits and so on,
looks at both neighbours, and stops at the first that lies in the interval of numbers rounding there.
-/

namespace ResourcePool.Double

/-- Which of two equally near decimals is written. -/
inductive Tie where
  | up
  | even
deriving DecidableEq

/-- The interval of numbers that round to `m · 2 ^ q`, in units of `2 ^ q / 4`. Below a power of two
the neighbours lie twice as close. -/
def interval (m : Nat) (q : Int) : Nat × Nat :=
  (if m = leastNormal ∧ q > leastExponent then 4 * m - 1 else 4 * m - 2, 4 * m + 2)

/-- The multiple of `10 ^ k` that is written for `m · 2 ^ q`, if one rounds to it. -/
def onGrid? (tie : Tie) (m : Nat) (q : Int) (k : Int) : Option Nat :=
  let up := Nat.pow 2 (q - 2).toNat * Nat.pow 10 (-k).toNat
  let step := Nat.pow 2 (2 - q).toNat * Nat.pow 10 k.toNat
  let (low, high) := interval m q
  let value := 4 * m * up
  let inside (d : Nat) : Bool :=
    if m % 2 = 0 then low * up ≤ d * step && d * step ≤ high * up
    else low * up < d * step && d * step < high * up
  let d := value / step
  match inside d, inside (d + 1) with
  | true, true =>
    let middle := (2 * d + 1) * step
    if 2 * value < middle then some d
    else if middle < 2 * value then some (d + 1)
    else if tie = .even ∧ d % 2 = 0 then some d else some (d + 1)
  | true, false => some d
  | false, true => some (d + 1)
  | false, false => none

/-- The power of ten of the first digit of `m · 2 ^ q`, for a positive mantissa. -/
def leadingPower (m : Nat) (q : Int) : Int :=
  let scaled := m * Nat.pow 2 q.toNat * Nat.pow 10 400 / Nat.pow 2 (-q).toNat
  ((Nat.toDigits 10 scaled).length : Int) - 401

/-- The digits of the shortest decimal that reads back as `m · 2 ^ q`, and the power of ten of the
first of them. -/
def shortest (tie : Tie) (m : Nat) (q : Int) : List Char × Int :=
  let first := leadingPower m q
  let found := (List.range 17).findSome? fun (n : Nat) =>
    (onGrid? tie m q (first - n)).map fun d => (d, first - n)
  let (d, k) := found.getD (m, 0)
  let digits := Nat.toDigits 10 d
  let significant := (digits.reverse.dropWhile (· = '0')).reverse
  (significant, k + digits.length - 1)

end ResourcePool.Double
