import ResourcePool.Choice
import ResourcePool.Pool.Basic

/-!
Pools of random 32-bit integers. A pool draws a few times for a number that is not taken and then
falls back to the lowest free one, so that it finds a number whenever there is one. Randomness is a
list of 64-bit words followed by zeros for ever.
-/

namespace ResourcePool

/-- A pool of signed 32-bit integers. -/
structure RandomInt32Pool where
  first : Int
  last : Int
  taken : IntSet
deriving DecidableEq

/-! ### Drawing -/

/-- A number drawn, the words taken for it and the words left. -/
structure Draw where
  value : Int
  taken : Nat
  rest : List UInt64

/-- The greatest low half of a product that is accepted: the width of the range, shifted until its
highest bit is the highest bit of a word, less one. -/
def acceptedUpTo (width : Nat) : Nat :=
  width * Nat.pow 2 (63 - width.log2) - 1

/-- Draws a number from `first` on, out of `width` ones. The product of a word and the width has the
number in its high half; a word is passed over if the low half is too large for all numbers to be
equally likely. The word zero is never passed over. -/
def draw (first : Int) (width : Nat) : List UInt64 → Draw
  | [] => ⟨first, 1, []⟩
  | word :: rest =>
    let product := word.toNat * width
    if product % UInt64.size ≤ acceptedUpTo width then ⟨first + product / UInt64.size, 1, rest⟩
    else
      let d := draw first width rest
      ⟨d.value, d.taken + 1, d.rest⟩

/-- Draws at most so many times until a number is not taken. The number of words goes with it. -/
def drawFree (first : Int) (width : Nat) (taken : IntSet) : Nat → List UInt64 → Option Int × Nat
  | 0, _ => (none, 0)
  | draws + 1, words =>
    let d := draw first width words
    if d.value ∈ taken then
      let (found, used) := drawFree first width taken draws d.rest
      (found, d.taken + used)
    else (some d.value, d.taken)

namespace RandomInt32Pool

def least : Int := -2147483648

def greatest : Int := 2147483647

def ofSnapshot (s : Snapshot) : Except Error RandomInt32Pool := do
  let first := ((← s.properties.int64? "from").map Int64.toInt).getD least
  let last := ((← s.properties.int64? "to").map Int64.toInt).getD greatest
  if last < first ∨ first < least ∨ greatest < last then .error (.int32Range first last)
  else
    let taken ← s.ofHeld (heldNumber "int")
    return ⟨first, last, .ofList taken⟩

def range (pool : RandomInt32Pool) : String := s!"[{pool.first}-{pool.last}]"

def total (pool : RandomInt32Pool) : Int := pool.last - pool.first + 1

def capacity (pool : RandomInt32Pool) : Capacity := .of (pool.total - pool.taken.size) pool.taken.size

/-- The draws before the fall back: four for each number granted and four more, but no more than
there are numbers. -/
def draws (pool : RandomInt32Pool) : Nat := min pool.total.toNat (4 * (pool.taken.size + 1))

/-- What the draws come to, and the number of words they take. -/
def drawn (pool : RandomInt32Pool) (words : List UInt64) : Option Int × Nat :=
  drawFree pool.first pool.total.toNat pool.taken pool.draws words

/-- The number drawn, or the lowest free one. -/
def choose (pool : RandomInt32Pool) (words : List UInt64) : Option Int :=
  (pool.drawn words).1 <|> firstFree pool.first pool.last pool.taken

def exhausted (pool : RandomInt32Pool) : Logged Bag := do
  .record .error s!"Unable to allocate random s_int32 from {pool.range}"
  .recordAll ((Utilisation.of pool.total pool.taken.size).records .error)
  .fail (.exhausted .randomInt32 pool.range "a new s_int32" s!"{pool.taken.size} values")

/-- Grants a number that is not taken. -/
def allocate (pool : RandomInt32Pool) (words : List UInt64) : Logged Bag :=
  match pool.choose words with
  | some n => do
    .record .info s!"Allocated random s_int32 {n} from {pool.range}"
    return Bag.empty.set "int" (.int (.ofInt n))
  | none => pool.exhausted

end RandomInt32Pool

end ResourcePool
