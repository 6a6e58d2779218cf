import ResourcePool.Double.Text
import ResourcePool.Error

/-!
The values of properties. Numbers arrive in several shapes, as words, as large integers, as
floating-point numbers and as text; `toInt64` and `toInteger` read an integer out of any of them.
-/

namespace ResourcePool

/-- The value of one property. -/
inductive Value where
  | bool (b : Bool)
  | int (n : Int64)
  | big (n : Int)
  | float (x : Double)
  | text (s : String)
deriving DecidableEq

/-- The least 64-bit integer. -/
def least64 : Int := -9223372036854775808

/-- The greatest 64-bit integer. -/
def greatest64 : Int := 9223372036854775807

/-- The 64-bit word of an integer that has one. -/
def int64? (n : Int) : Option Int64 :=
  if least64 ≤ n ∧ n ≤ greatest64 then some (Int64.ofInt n) else none

namespace Value

/-- The value of an integer a document holds: a word, or an unsigned integer of 64 bits that is too
large for one. -/
def ofInt? (n : Int) : Option Value :=
  match int64? n with
  | some w => some (.int w)
  | none => if 0 ≤ n ∧ n < UInt64.size then some (.big n) else none

/-- The value as it stands in messages and identifiers. -/
def plain : Value → String
  | bool b => if b then "true" else "false"
  | int n => n.toInt.repr
  | big n => n.repr
  | float x => x.plain
  | text s => s

/-- The integer a text spells, either in digits or as a floating-point numeral without its fraction. -/
def readNumber? (digits? : List Char → Option Int) (fits? : Int → Option α) (s : String) : Option α :=
  let cs := Text.trim s.toList
  (digits? cs).bind fits? <|> ((Double.read? cs).bind Double.truncate?).bind fits?

def toInt64? : Value → Option Int64
  | bool _ => none
  | int n => some n
  | big n => int64? n
  | float x => x.truncate?.bind int64?
  | text s => readNumber? Numeral.integer? int64? s

def toInteger? : Value → Option Int
  | bool _ => none
  | int n => some n.toInt
  | big n => some n
  | float x => x.truncate?
  | text s => readNumber? Numeral.grouped? some s

/-- The 64-bit integer a value stands for. -/
def toInt64 (v : Value) : Except Error Int64 :=
  match v.toInt64? with
  | some n => .ok n
  | none => .error (.notNumber v.plain)

/-- The integer of any size a value stands for. -/
def toInteger (v : Value) : Except Error Int :=
  match v.toInteger? with
  | some n => .ok n
  | none => .error (.notNumber v.plain)

end Value

/-! ### Words -/

theorem toInt_of_int64? {n : Int} {w : Int64} (h : int64? n = some w) : w.toInt = n := by
  unfold int64? at h
  split at h
  case isTrue bounds =>
    cases h
    simp only [least64, greatest64] at bounds
    exact Int64.toInt_ofInt_of_le (by omega) (by omega)
  case isFalse => cases h

theorem int64?_toInt (w : Int64) : int64? w.toInt = some w := by
  have low := w.le_toInt
  have high := w.toInt_lt
  rw [int64?, if_pos ⟨by simp only [least64]; omega, by simp only [greatest64]; omega⟩,
    Int64.ofInt_toInt]

end ResourcePool
