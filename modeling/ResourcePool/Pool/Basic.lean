import ResourcePool.Bag
import ResourcePool.Double.Text
import ResourcePool.Logged

/-!
What a pool is opened from, and how much of it is used. Pools keep nothing between calls: the
properties of the pool, the resources granted so far and the input of the user arrive anew each time.
A `Capacity` is what a pool answers when asked for its room; a `Utilisation` is the summary that
accompanies an allocation in the log.
-/

namespace ResourcePool

/-! ### The circumstances of a call -/

/-- The circumstances of one call. -/
structure Snapshot where
  properties : Bag
  held : List Bag
  input : Bag
deriving DecidableEq

/-- Values in a row, as messages list them. -/
def listed (values : List String) : String := String.intercalate ", " values

/-- Reads something out of every granted resource; the first failure counts. -/
def Snapshot.ofHeld (s : Snapshot) (read : Bag → Except Error α) : Except Error (List α) :=
  s.held.mapM read

/-- Reads a 64-bit integer of a granted resource. -/
def heldNumber (key : String) (bag : Bag) : Except Error Int :=
  (bag.int64 key .resource).map Int64.toInt

/-! ### Room -/

/-- Free and utilized room of a pool. -/
structure Capacity where
  free : Int
  utilized : Int
deriving DecidableEq

/-- Free room never reads below zero. -/
def Capacity.of (free utilized : Int) : Capacity :=
  ⟨max free 0, utilized⟩

/-- Remaining and utilised room with the share that is utilised, in percent. -/
structure Utilisation where
  remaining : Int
  utilised : Int
  percentage : Double
deriving DecidableEq

namespace Utilisation

/-- Whole tenths of a percent, cut toward zero; a pool without remaining room counts as full. -/
def of (total utilised : Int) : Utilisation :=
  let remaining := max (total - utilised) 0
  let percentage :=
    if remaining = 0 ∨ total = 0 then Double.ofInt 100
    else (Double.ofInt ((utilised * 1000).tdiv total)).divNat 10
  ⟨remaining, utilised, percentage⟩

def records (u : Utilisation) (level : Level) : List Record :=
  [⟨level, s!"Remaining capacity: {u.remaining}"⟩,
    ⟨level, s!"Utilised capacity: {u.utilised}"⟩,
    ⟨level, s!"Utilisation: {u.percentage.oneDecimal}%"⟩]

end Utilisation

end ResourcePool
