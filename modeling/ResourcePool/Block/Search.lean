import ResourcePool.Block.Basic

/-!
Looking for room among blocks. The cursor of a search starts at an aligned place and, at each block
it cannot go before, jumps to the first aligned place at or past that block's end. The blocks are
expected in the order of their ends.
-/

namespace ResourcePool

/-- The next multiple of the alignment. The remainder has the sign of the value, so a negative value
that is no multiple is carried one alignment too far. -/
def alignUp (value alignment : Int) : Int :=
  let rest := value.tmod alignment
  if rest = 0 then value else value + alignment - rest

/-- Where the cursor goes on from a block that it cannot go before. -/
def pass (cursor : Int) (b : Block) (alignment : Int) : Int :=
  max cursor (alignUp b.stop alignment)

/-- The gap between the cursor and a block holds a block of the size. -/
def Block.LeavesRoom (b : Block) (cursor size : Int) : Prop :=
  cursor ≤ b.start ∧ size ≤ b.start - cursor

instance (b : Block) (cursor size : Int) : Decidable (b.LeavesRoom cursor size) :=
  inferInstanceAs (Decidable (_ ∧ _))

/-- The first aligned place from the cursor on where a block of the size fits below `stop`. -/
def fitFrom (stop size alignment cursor : Int) : List Block → Option Int
  | [] => if cursor + size ≤ stop then some cursor else none
  | b :: rest =>
    if b.LeavesRoom cursor size then some cursor
    else fitFrom stop size alignment (pass cursor b alignment) rest

/-- The first aligned place inside the parent where a block of the size fits. -/
def firstFit (parent : Block) (held : List Block) (size alignment : Int) : Option Int :=
  fitFrom parent.stop size alignment (alignUp parent.start alignment) held

/-- The place that a cursor which began at `network` stops at. -/
def freeAfterFrom (network size alignment cursor : Int) : List Block → Int
  | [] => cursor
  | b :: rest =>
    if network < b.start ∧ b.LeavesRoom cursor size then cursor
    else freeAfterFrom network size alignment (pass cursor b alignment) rest

/-- The nearest place at or after `network` with room before the next block: what to ask for in place
of a misaligned network. No parent bounds it. -/
def nextFreeAfter (network : Int) (held : List Block) (size alignment : Int) : Int :=
  freeAfterFrom network size alignment network held

/-- The position of the first block that overlaps the candidate. -/
def firstOverlap (candidate : Block) (held : List Block) : Option Nat :=
  held.findIdx? fun b => decide (b.Overlaps candidate)

/-! ### Elementary facts -/

theorem le_pass (cursor : Int) (b : Block) (alignment : Int) : cursor ≤ pass cursor b alignment :=
  Int.le_max_left _ _

theorem dvd_alignUp (value alignment : Int) : alignment ∣ alignUp value alignment := by
  have split := Int.tmod_add_mul_tdiv value alignment
  simp only [alignUp]
  by_cases whole : value.tmod alignment = 0
  · rw [if_pos whole]
    exact ⟨value.tdiv alignment, by omega⟩
  · rw [if_neg whole]
    refine ⟨value.tdiv alignment + 1, ?_⟩
    rw [Int.mul_add, Int.mul_one]
    omega

theorem alignUp_of_dvd {value alignment : Int} (h : alignment ∣ value) :
    alignUp value alignment = value := by
  simp [alignUp, Int.tmod_eq_zero_of_dvd h]

theorem le_fitFrom {stop size alignment : Int} {held : List Block} {cursor place : Int}
    (h : fitFrom stop size alignment cursor held = some place) : cursor ≤ place := by
  induction held generalizing cursor with
  | nil =>
    simp only [fitFrom] at h
    split at h
    · cases h; exact Int.le_refl _
    · cases h
  | cons b rest ih =>
    simp only [fitFrom] at h
    split at h
    · cases h; exact Int.le_refl _
    · exact Int.le_trans (le_pass ..) (ih h)

end ResourcePool
