/-!
Blocks: runs of consecutive numbers, addresses or ids, given by their first member and their size.
Lists of things that occupy blocks are kept in the order of the blocks' ends.
-/

namespace ResourcePool

/-- The numbers `start`, …, `start + size - 1`. -/
structure Block where
  start : Int
  size : Int
deriving DecidableEq

namespace Block

/-- One past the last member. -/
def stop (b : Block) : Int := b.start + b.size

/-- The two blocks have a member in common, when both have members. -/
def Overlaps (a b : Block) : Prop := a.start < b.stop ∧ b.start < a.stop

/-- The second block lies inside the first. -/
def Contains (a b : Block) : Prop := a.start ≤ b.start ∧ b.stop ≤ a.stop

instance (a b : Block) : Decidable (a.Overlaps b) := inferInstanceAs (Decidable (_ ∧ _))

instance (a b : Block) : Decidable (a.Contains b) := inferInstanceAs (Decidable (_ ∧ _))

end Block

/-! ### The order of ends -/

/-- Puts an item before the first one whose key is not smaller. -/
def insertBy (key : α → Int) (x : α) : List α → List α
  | [] => [x]
  | y :: rest => if key x ≤ key y then x :: y :: rest else y :: insertBy key x rest

/-- The items in ascending order of a key; items with equal keys keep their order. -/
def sortBy (key : α → Int) (items : List α) : List α :=
  items.foldr (insertBy key) []

theorem perm_insertBy (key : α → Int) (x : α) (items : List α) :
    (insertBy key x items).Perm (x :: items) := by
  induction items with
  | nil => exact .refl _
  | cons y rest ih =>
    unfold insertBy
    split
    · exact .refl _
    · exact (ih.cons y).trans (.swap x y rest)

theorem perm_sortBy (key : α → Int) (items : List α) : (sortBy key items).Perm items := by
  induction items with
  | nil => exact .refl _
  | cons x rest ih => exact (perm_insertBy key x _).trans (ih.cons x)

theorem pairwise_insertBy {key : α → Int} {x : α} {items : List α}
    (h : items.Pairwise (key · ≤ key ·)) : (insertBy key x items).Pairwise (key · ≤ key ·) := by
  induction items with
  | nil => exact List.pairwise_singleton _ _
  | cons y rest ih =>
    obtain ⟨first, tail⟩ := List.pairwise_cons.1 h
    unfold insertBy
    split
    · case isTrue le =>
      refine List.pairwise_cons.2 ⟨fun z hz => ?_, h⟩
      rcases List.mem_cons.1 hz with rfl | hz
      · exact le
      · exact Int.le_trans le (first z hz)
    · case isFalse lt =>
      refine List.pairwise_cons.2 ⟨fun z hz => ?_, ih tail⟩
      rcases List.mem_cons.1 ((perm_insertBy key x rest).mem_iff.1 hz) with rfl | hz
      · omega
      · exact first z hz

theorem pairwise_sortBy (key : α → Int) (items : List α) :
    (sortBy key items).Pairwise (key · ≤ key ·) := by
  induction items with
  | nil => exact .nil
  | cons x rest ih => exact pairwise_insertBy ih

end ResourcePool
