import ResourcePool.Proofs.Word.Search

/-! The search for room in words is exact. As long as no number leaves its type, it finds the least place
that fits and fails only when there is none. No number leaves a type that holds the parent and the number
that lies the size and the alignment past its end, so only the far end of a type is out of reach. -/

namespace ResourcePool
namespace Width
variable {w : Width} {parent : Block} {held : List Block} {size alignment : Int}

theorem Holds.between {low high n : Int} (hlow : w.Holds low) (hhigh : w.Holds high) (above : low ≤ n)
    (below : n ≤ high) : w.Holds n := by
  cases w with
  | unsigned bits => exact ⟨Int.le_trans hlow.1 above, Int.lt_of_le_of_lt below hhigh.2⟩
  | signed bits => exact ⟨Int.le_trans hlow.1 above, Int.lt_of_le_of_lt below hhigh.2⟩
  | unbounded => trivial

theorem holds_zero (w : Width) : w.Holds 0 := by
  have positive (bits : Nat) : (0 : Int) < (Nat.pow 2 bits : Int) :=
    Int.natCast_pos.mpr (Nat.pow_pos (by decide))
  cases w with
  | unsigned bits => exact ⟨Int.le_refl _, positive bits⟩
  | signed bits => exact ⟨Int.neg_nonpos_of_nonneg (Int.le_of_lt (positive _)), positive _⟩
  | unbounded => trivial

/-- The type holds the ends of the parent, its size, and the number that lies the wanted size and the
alignment past it. -/
structure Reaches (w : Width) (parent : Block) (size alignment : Int) : Prop where
  start : w.Holds parent.start
  stop : w.Holds parent.stop
  extent : w.Holds parent.size
  past : w.Holds (max parent.start parent.stop + size + alignment)

theorem reaches_unbounded (parent : Block) (size alignment : Int) :
    unbounded.Reaches parent size alignment :=
  ⟨trivial, trivial, trivial, trivial⟩

/-! ### The steps of a search -/

namespace Reaches
variable {value cursor : Int} {b : Block} (h : w.Reaches parent size alignment)
  (natural : 0 ≤ parent.start ∨ alignment = 1) (positive : 0 < alignment) (filled : 0 < size)
include h natural positive filled

theorem alignUp_eq (low : parent.start ≤ value) (high : value ≤ max parent.start parent.stop) :
    w.alignUp value alignment = some (ResourcePool.alignUp value alignment) ∧
      ResourcePool.alignUp value alignment ≤ max parent.start parent.stop + alignment := by
  simp only [alignUp, ResourcePool.alignUp, if_neg (Int.ne_of_gt positive)]
  split
  case isTrue whole => exact ⟨rfl, by omega⟩
  case isFalse broken =>
    rcases natural with natural | rfl
    · have rest_nonneg := Int.tmod_nonneg alignment (Int.le_trans natural low)
      have rest_lt := Int.tmod_lt_of_pos value positive
      have sum : w.Holds (value + alignment) := h.start.between h.past (by omega) (by omega)
      have aligned : w.Holds (value + alignment - value.tmod alignment) :=
        h.start.between h.past (by omega) (by omega)
      rw [fit_of_holds sum, Option.bind_some, fit_of_holds aligned]
      exact ⟨rfl, by omega⟩
    · exact absurd (Int.tmod_one value) broken

section Blocks
variable (packed : Packed parent held) (mem : b ∈ held)
include packed mem

theorem pass_eq (high : cursor ≤ max parent.start parent.stop + alignment) :
    w.pass cursor b alignment = some (ResourcePool.pass cursor b alignment) ∧
      ResourcePool.pass cursor b alignment ≤ max parent.start parent.stop + alignment := by
  have inside := packed.inside b mem
  have length := packed.filled b mem
  have after : parent.start ≤ b.stop := by
    have := inside.1
    simp only [Block.stop]
    omega
  have before : b.stop ≤ max parent.start parent.stop := Int.le_trans inside.2 (Int.le_max_right ..)
  have stop : w.stop b = some b.stop := fit_of_holds (h.start.between h.stop after inside.2)
  obtain ⟨aligned, le⟩ := h.alignUp_eq natural positive filled after before
  refine ⟨?_, Int.max_le.mpr ⟨high, le⟩⟩
  simp only [pass, stop, aligned, Option.bind_eq_bind, Option.bind_some, ResourcePool.pass]

omit natural positive filled in
theorem leavesRoom_eq (low : parent.start ≤ cursor) :
    w.leavesRoom b cursor size = some (decide (b.LeavesRoom cursor size)) := by
  have inside := packed.inside b mem
  have length := packed.filled b mem
  rw [leavesRoom]
  split
  case isTrue le =>
    -- The gap lies inside the parent, so it is no larger than the parent.
    have gap : b.start - cursor ≤ parent.size := by
      have := inside.2
      simp only [Block.stop] at this
      omega
    have holds : w.Holds (b.start - cursor) := w.holds_zero.between h.extent (by omega) gap
    rw [fit_of_holds holds, Option.map_some]
    simp [Block.LeavesRoom, le]
  case isFalse lt => simp [Block.LeavesRoom, lt]

end Blocks

theorem fitFrom_eq {ahead : List Block} (packed : Packed parent held) (sub : ahead ⊆ held)
    (low : parent.start ≤ cursor) (high : cursor ≤ max parent.start parent.stop + alignment) :
    w.fitFrom parent size alignment cursor ahead =
      some (ResourcePool.fitFrom parent.stop size alignment cursor ahead) := by
  induction ahead generalizing cursor with
  | nil =>
    have last : w.Holds (cursor + size) := h.start.between h.past (by omega) (by omega)
    have stop : w.stop parent = some parent.stop := fit_of_holds h.stop
    simp only [fitFrom, fit_of_holds last, stop, Option.bind_eq_bind, Option.bind_some,
      ResourcePool.fitFrom]
  | cons b rest ih =>
    obtain ⟨mem, others⟩ := List.cons_subset.mp sub
    obtain ⟨passed, passed_le⟩ := h.pass_eq natural positive filled packed mem high
    simp only [fitFrom, h.leavesRoom_eq packed mem low, passed, Option.bind_eq_bind, Option.bind_some,
      decide_eq_true_eq, ResourcePool.fitFrom]
    split
    · rfl
    · exact ih others (Int.le_trans low (le_pass ..)) passed_le

theorem firstFit_eq (packed : Packed parent held) :
    w.firstFit parent held size alignment =
      some (ResourcePool.firstFit parent held size alignment) := by
  obtain ⟨aligned, le⟩ :=
    h.alignUp_eq natural positive filled (Int.le_refl _) (Int.le_max_left ..)
  simp only [firstFit, aligned, Option.bind_eq_bind, Option.bind_some, ResourcePool.firstFit]
  exact h.fitFrom_eq natural positive filled packed (List.Subset.refl _) (le_alignUp _ positive) le

end Reaches

/-! ### Exactness -/

/-- The search finds the least place that fits, and fails exactly when there is none. -/
structure FindsLeast (w : Width) (parent : Block) (held : List Block) (size alignment : Int) : Prop where
  found (place : Int) : w.firstFit parent held size alignment = some (some place) ↔
    IsLeast {q | Fits parent held size alignment q} place
  failed : w.firstFit parent held size alignment = some none ↔
    ¬∃ q, Fits parent held size alignment q

/-- In a packed parent the search is exact: over all integers always, in words whenever no number leaves
its type, and none does where the type reaches far enough. -/
theorem firstFit_findsLeast (packed : Packed parent held) (sorted : held.Pairwise (·.stop ≤ ·.stop))
    (natural : 0 ≤ parent.start ∨ alignment = 1) (positive : 0 < alignment) (filled : 0 < size) :
    unbounded.FindsLeast parent held size alignment ∧
      ∀ w : Width, w.firstFit parent held size alignment ≠ none ∨ w.Reaches parent size alignment →
        w.FindsLeast parent held size alignment := by
  have exact_ : ∀ w : Width,
      w.firstFit parent held size alignment = some (ResourcePool.firstFit parent held size alignment) →
        w.FindsLeast parent held size alignment := by
    intro w answer
    refine ⟨fun place => ?_, ?_⟩
    · rw [answer, Option.some_inj]
      exact firstFit_eq_some_iff packed sorted natural positive filled
    · rw [answer, Option.some_inj]
      exact firstFit_eq_none_iff packed sorted natural positive filled
  refine ⟨exact_ _ ((reaches_unbounded ..).firstFit_eq natural positive filled packed), ?_⟩
  rintro w (answers | reaches)
  · obtain ⟨place, answer⟩ := Option.ne_none_iff_exists'.mp answers
    exact exact_ w (answer.trans (congrArg some (firstFit_eq answer)))
  · exact exact_ w (reaches.firstFit_eq natural positive filled packed)

/-- Three blocks, between which no multiple of twelve has room for five numbers. -/
def smallGaps : List Block := [⟨100, 5⟩, ⟨107, 2⟩, ⟨112, 20⟩]

theorem firstFit_findsLeast_past_small_gaps :
    Packed ⟨100, 60⟩ smallGaps ∧ smallGaps.Pairwise (·.stop ≤ ·.stop) ∧
      (unsigned 64).firstFit ⟨100, 60⟩ smallGaps 5 12 = some (some 132) ∧
      (unsigned 64).FindsLeast ⟨100, 60⟩ smallGaps 5 12 ∧
      (signed 128).Reaches ⟨100, 60⟩ 5 12 ∧ (signed 128).FindsLeast ⟨100, 60⟩ smallGaps 5 12 := by
  have clear : smallGaps.Pairwise fun a b => ¬a.Overlaps b := by decide
  have packed : Packed ⟨100, 60⟩ smallGaps :=
    ⟨by decide, by decide, clear.imp Block.apart_of_not_overlaps⟩
  have sorted : smallGaps.Pairwise (·.stop ≤ ·.stop) := by decide
  have reaches : (signed 128).Reaches ⟨100, 60⟩ 5 12 :=
    ⟨by decide, by decide, by decide, by decide⟩
  have finds : ∀ w : Width, w.firstFit ⟨100, 60⟩ smallGaps 5 12 ≠ none ∨ w.Reaches ⟨100, 60⟩ 5 12 →
      w.FindsLeast ⟨100, 60⟩ smallGaps 5 12 :=
    (firstFit_findsLeast packed sorted (.inl (by decide)) (by decide) (by decide)).2
  exact ⟨packed, sorted, by decide, finds (unsigned 64) (.inl (by decide)), reaches,
    finds (signed 128) (.inr reaches)⟩

/-- The number before the last one of 128 bits, alone in a block that ends there. -/
def lastBlock : Block := ⟨170141183460469231731687303715884105726, 1⟩

/-- At the far end of a type the search has no answer, even where it holds every number of the question:
the end of the place that is tried is past it. -/
theorem firstFit_overflows_at_the_end :
    Packed lastBlock [] ∧ (signed 128).Holds lastBlock.start ∧ (signed 128).Holds lastBlock.stop ∧
      (¬∃ q, Fits lastBlock [] 2 1 q) ∧ (signed 128).firstFit lastBlock [] 2 1 = none ∧
      ¬(signed 128).FindsLeast lastBlock [] 2 1 := by
  have packed : Packed lastBlock [] := ⟨nofun, nofun, List.Pairwise.nil⟩
  have full : ¬∃ q, Fits lastBlock [] 2 1 q := by
    rintro ⟨q, -, ⟨low, high⟩, -⟩
    have low : lastBlock.start ≤ q := low
    have high : q + 2 ≤ lastBlock.start + 1 := high
    omega
  have overflow : (signed 128).firstFit lastBlock [] 2 1 = none := by decide
  refine ⟨packed, by decide, by decide, full, overflow, fun finds => ?_⟩
  rw [finds.failed.mpr full] at overflow
  cases overflow

end Width
end ResourcePool
