import ResourcePool.Double.Shortest

/-!
Floating-point numbers as text. The plain form never has an exponent and drops a zero fraction; the
form of documents keeps one, and turns to scientific notation for very large and very small numbers.
-/

namespace ResourcePool.Double

def minus (negative : Bool) : String := if negative then "-" else ""

/-- Digits written in full, the first of them having the given power of ten. The fraction is empty
for a whole number. -/
def positional (digits : List Char) (power : Int) : List Char × List Char :=
  if power < 0 then (['0'], List.replicate (-power - 1).toNat '0' ++ digits)
  else
    let before := power.toNat + 1
    (digits.take before ++ List.replicate (before - digits.length) '0', digits.drop before)

/-- Shortest digits, written in full; a whole number has no point. -/
def plain : Double → String
  | nan => "NaN"
  | infinite negative => minus negative ++ "inf"
  | finite negative m q =>
    if m = 0 then minus negative ++ "0"
    else
      let (digits, power) := shortest .up m q
      let (whole, fraction) := positional digits power
      minus negative ++ String.ofList whole ++
        (if fraction = [] then "" else "." ++ String.ofList fraction)

/-- The powers of ten that documents write in full. -/
def writtenInFull (power : Int) : Bool := -5 ≤ power && power ≤ 15

/-- The form of documents: shortest digits with a fraction of at least one digit, or in scientific
notation; `null` stands for what is no finite number. -/
def document : Double → String
  | finite negative m q =>
    if m = 0 then minus negative ++ "0.0"
    else
      let (digits, power) := shortest .even m q
      if writtenInFull power then
        let (whole, fraction) := positional digits power
        minus negative ++ String.ofList whole ++ "." ++
          (if fraction = [] then "0" else String.ofList fraction)
      else
        let tail := digits.drop 1
        minus negative ++ String.ofList (digits.take 1) ++
          (if tail = [] then "" else "." ++ String.ofList tail) ++
          "e" ++ (if power < 0 then "-" else "+") ++ power.natAbs.repr
  | _ => "null"

/-- Exactly one decimal place, rounded to nearest with a tie going to the even digit. -/
def oneDecimal : Double → String
  | nan => "NaN"
  | infinite negative => minus negative ++ "inf"
  | finite negative m q =>
    let tenths := divEven (10 * m * Nat.pow 2 q.toNat) (Nat.pow 2 (-q).toNat)
    minus negative ++ (tenths / 10).repr ++ "." ++ (tenths % 10).repr

end ResourcePool.Double
