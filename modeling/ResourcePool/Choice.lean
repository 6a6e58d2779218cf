import ResourcePool.IntSet
import ResourcePool.Block.Search

/-!
The two choices that pools make. A unit pool chooses one number of a range, a block pool one block
inside a parent; either may be asked for a particular one. A choice knows nothing of how numbers are
written: it answers with the number, or with the reason why there is none.
-/

namespace ResourcePool

/-! ### One number -/

/-- Why no number is chosen. -/
inductive NoNumber where
  | outside
  | taken
  | exhausted
deriving DecidableEq

/-- The wanted number if it is in the range and not taken; the least such number if none is wanted. -/
def chooseNumber (first last : Int) (taken : IntSet) : Option Int → Except NoNumber Int
  | some wanted =>
    if wanted < first ∨ last < wanted then .error .outside
    else if wanted ∈ taken then .error .taken
    else .ok wanted
  | none =>
    match firstFree first last taken with
    | some n => .ok n
    | none => .error .exhausted

/-! ### One block -/

/-- Why no block is chosen; what holds an overlapping block is of any type. -/
inductive NoBlock (α : Type) where
  | misaligned (next : Int)
  | outside
  | overlaps (holder : α)
  | exhausted
deriving DecidableEq

/-- The start of the wanted block if it is aligned, inside the parent and overlaps no held block; the
first place that fits if none is wanted. The holders stand in the order of their blocks' ends. -/
def chooseBlock (parent : Block) (held : List α) (block : α → Block) (size alignment : Int) :
    Option Int → Except (NoBlock α) Int
  | some wanted =>
    let candidate : Block := ⟨wanted, size⟩
    let network := wanted - wanted % alignment
    if network ≠ wanted then
      .error (.misaligned (nextFreeAfter network (held.map block) size alignment))
    else if ¬ parent.Contains candidate then .error .outside
    else
      match held.find? fun holder => decide ((block holder).Overlaps candidate) with
      | some holder => .error (.overlaps holder)
      | none => .ok wanted
  | none =>
    match firstFit parent (held.map block) size alignment with
    | some start => .ok start
    | none => .error .exhausted

end ResourcePool
