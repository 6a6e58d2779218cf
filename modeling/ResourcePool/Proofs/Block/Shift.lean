import ResourcePool.Block.Word
import ResourcePool.Proofs.Block.NextFree

/-! Searches among shifted blocks. When all of a question is shifted by a multiple of the alignment, so is the
answer, as long as every number that gets rounded up is rounded like its shifted one. Rounding up goes to the
next multiple, but from a number below zero between two multiples it goes one alignment too far. Only a shift
that takes such a number across zero can therefore tell a search from the shifted one, and upwards it can only
make the answer an earlier one. -/

namespace ResourcePool

/-! ### Rounding -/

section Rounding
variable {value distance alignment : Int}

/-- How far rounding up goes past the next multiple: the remainder of a number below zero is below zero too,
so taking it away adds to the number. -/
def overshoot (value alignment : Int) : Int :=
  if value < 0 ∧ ¬alignment ∣ value then alignment else 0

/-- The number is a multiple, or it lies on the same side of zero as the shifted one. -/
def RoundsAlike (alignment distance value : Int) : Prop :=
  alignment ∣ value ∨ (value < 0 ↔ value + distance < 0)

instance (alignment distance value : Int) : Decidable (RoundsAlike alignment distance value) :=
  inferInstanceAs (Decidable (_ ∨ _))

theorem alignUp_eq (positive : 0 < alignment) :
    alignUp value alignment = value + -value % alignment + overshoot value alignment := by
  by_cases whole : alignment ∣ value
  · have settled : ¬(value < 0 ∧ ¬alignment ∣ value) := fun below => below.2 whole
    rw [alignUp_of_dvd whole, overshoot, if_neg settled, Int.emod_eq_zero_of_dvd (Int.dvd_neg.mpr whole),
      Int.add_zero, Int.add_zero]
  · have broken : value.tmod alignment ≠ 0 := fun zero => whole (Int.dvd_iff_tmod_eq_zero.mpr zero)
    have magnitude : (alignment.natAbs : Int) = alignment := Int.natAbs_of_nonneg (Int.le_of_lt positive)
    rw [alignUp, if_neg broken, overshoot, Int.neg_emod, if_neg whole, magnitude, Int.tmod_eq_emod]
    rcases Int.lt_or_le value 0 with below | natural
    · rw [if_neg (not_or.mpr ⟨Int.not_le.mpr below, whole⟩), if_pos ⟨below, whole⟩, magnitude]
      omega
    · rw [if_pos (Or.inl natural), if_neg fun side => Int.not_lt.mpr natural side.1]
      omega

/-- Apart from what it goes too far, rounding up goes to the next multiple. -/
theorem alignUp_isLeast (positive : 0 < alignment) :
    IsLeast {m | alignment ∣ m ∧ value ≤ m} (alignUp value alignment - overshoot value alignment) := by
  rw [alignUp_eq positive, Int.add_sub_cancel]
  have rest := Int.emod_nonneg (-value) (Int.ne_of_gt positive)
  have below := Int.emod_lt_of_pos (-value) positive
  have whole : alignment ∣ value + -value % alignment := by
    have split : alignment ∣ -value - -value % alignment := Int.dvd_self_sub_emod
    rw [← Int.dvd_neg, Int.neg_sub, Int.sub_neg, Int.add_comm] at split
    exact split
  refine ⟨⟨whole, Int.le_add_of_nonneg_right rest⟩, ?_⟩
  rintro m ⟨dvd, le⟩
  by_contra early
  -- Two multiples are at least one alignment apart.
  have step : alignment ≤ value + -value % alignment - m :=
    Int.le_of_dvd (Int.sub_pos_of_lt (Int.not_le.mp early)) (Int.dvd_sub whole dvd)
  omega

section Multiple
variable (positive : 0 < alignment) (whole : alignment ∣ distance)
include positive whole

theorem alignUp_add : alignUp (value + distance) alignment =
    alignUp value alignment + distance + (overshoot (value + distance) alignment - overshoot value alignment) := by
  obtain ⟨k, rfl⟩ := whole
  have rest : -(value + alignment * k) % alignment = -value % alignment := by
    rw [Int.neg_add, ← Int.mul_neg, Int.add_mul_emod_self_left]
  rw [alignUp_eq positive, alignUp_eq positive, rest]
  omega

omit positive in
theorem overshoot_add : overshoot (value + distance) alignment =
    if value + distance < 0 ∧ ¬alignment ∣ value then alignment else 0 := by
  simp only [overshoot, Int.dvd_add_left whole]

theorem overshoot_add_eq_iff :
    overshoot (value + distance) alignment = overshoot value alignment ↔ RoundsAlike alignment distance value := by
  rw [overshoot_add whole, overshoot, RoundsAlike]
  by_cases dvd : alignment ∣ value
  · simp [dvd]
  · by_cases below : value < 0 <;> by_cases below' : value + distance < 0 <;>
      simp [dvd, below, below', Int.ne_of_gt positive, Int.ne_of_lt positive]

theorem overshoot_add_le (up : 0 ≤ distance) :
    overshoot (value + distance) alignment ≤ overshoot value alignment := by
  rw [overshoot_add whole, overshoot]
  split <;> split <;> omega

/-- Rounding moves along with a number exactly if it treats the shifted number alike. -/
theorem alignUp_add_eq_iff : alignUp (value + distance) alignment = alignUp value alignment + distance ↔
    RoundsAlike alignment distance value := by
  rw [alignUp_add positive whole, ← overshoot_add_eq_iff positive whole]
  omega

theorem alignUp_add_le (up : 0 ≤ distance) :
    alignUp (value + distance) alignment ≤ alignUp value alignment + distance := by
  have less : overshoot (value + distance) alignment ≤ overshoot value alignment :=
    overshoot_add_le positive whole up
  rw [alignUp_add positive whole]
  omega

end Multiple
end Rounding

/-! ### Shifted blocks -/

/-- The block of the same size at a distance. -/
def Block.shift (distance : Int) (b : Block) : Block := ⟨b.start + distance, b.size⟩

/-- The search for room answers the shifted question with the shifted place, over all integers and in words
whenever no number of the two searches leaves its type. -/
structure FitMoves (parent : Block) (held : List Block) (size alignment distance : Int) : Prop where
  integers : firstFit (parent.shift distance) (held.map (Block.shift distance)) size alignment =
    (firstFit parent held size alignment).map (· + distance)
  words (w : Width) (place place' : Option Int) : w.firstFit parent held size alignment = some place →
    w.firstFit (parent.shift distance) (held.map (Block.shift distance)) size alignment = some place' →
      place' = place.map (· + distance)

/-- The place that is suggested from the shifted network on is the shifted place. -/
structure SuggestionMoves (network : Int) (held : List Block) (size alignment distance : Int) : Prop where
  integers : nextFreeAfter (network + distance) (held.map (Block.shift distance)) size alignment =
    nextFreeAfter network held size alignment + distance
  words (w : Width) (place place' : Int) : w.nextFreeAfter network held size alignment = some place →
    w.nextFreeAfter (network + distance) (held.map (Block.shift distance)) size alignment = some place' →
      place' = place + distance

section Search
variable {b parent : Block} {held : List Block} {size alignment distance cursor cursor' stop place network : Int}

@[simp] theorem Block.start_shift : (b.shift distance).start = b.start + distance := rfl

@[simp] theorem Block.stop_shift : (b.shift distance).stop = b.stop + distance :=
  Int.add_right_comm b.start distance b.size

theorem Block.leavesRoom_shift :
    (b.shift distance).LeavesRoom (cursor + distance) size ↔ b.LeavesRoom cursor size := by
  simp only [LeavesRoom, start_shift]
  omega

/-- Both suggestions are places that the search for room finds below one end. -/
theorem exists_fitFrom_eq_nextFreeAfter (filled : 0 < size) (alignment distance : Int)
    (network network' : Int) (held held' : List Block) :
    ∃ stop, fitFrom stop size alignment network held = some (nextFreeAfter network held size alignment) ∧
      fitFrom (stop + distance) size alignment network' held' =
        some (nextFreeAfter network' held' size alignment) := by
  let place := nextFreeAfter network held size alignment
  let place' := nextFreeAfter network' held' size alignment
  have low := Int.le_max_left place (place' - distance)
  have high := Int.le_max_right place (place' - distance)
  refine ⟨max place (place' - distance) + size, ?_, ?_⟩
  · exact fitFrom_eq_some_freeAfterFrom filled (Int.le_refl _) (Int.add_le_add_right low size)
  · refine fitFrom_eq_some_freeAfterFrom filled (Int.le_refl _) ?_
    show place' + size ≤ _
    omega

/-! ### The same search -/

section Alike
variable (alike : ∀ b ∈ held, alignUp (b.stop + distance) alignment = alignUp b.stop alignment + distance)
include alike

theorem fitFrom_shift :
    fitFrom (stop + distance) size alignment (cursor + distance) (held.map (Block.shift distance)) =
      (fitFrom stop size alignment cursor held).map (· + distance) := by
  induction held generalizing cursor with
  | nil =>
    have inside : cursor + distance + size ≤ stop + distance ↔ cursor + size ≤ stop := by omega
    simp only [List.map_nil, fitFrom, inside]
    split <;> rfl
  | cons b rest ih =>
    obtain ⟨first, others⟩ := List.forall_mem_cons.mp alike
    -- Past a block the cursors keep their distance, because the block's end is rounded alike.
    have passed : pass (cursor + distance) (b.shift distance) alignment = pass cursor b alignment + distance := by
      rw [pass, pass, Block.stop_shift, first]
      omega
    simp only [List.map_cons, fitFrom, Block.leavesRoom_shift, passed]
    split
    · rfl
    · exact ih others

theorem firstFit_shift
    (start : alignUp (parent.start + distance) alignment = alignUp parent.start alignment + distance) :
    firstFit (parent.shift distance) (held.map (Block.shift distance)) size alignment =
      (firstFit parent held size alignment).map (· + distance) := by
  rw [firstFit, Block.stop_shift, Block.start_shift, start]
  exact fitFrom_shift alike

theorem nextFreeAfter_shift (filled : 0 < size) :
    nextFreeAfter (network + distance) (held.map (Block.shift distance)) size alignment =
      nextFreeAfter network held size alignment + distance := by
  obtain ⟨stop, found, found'⟩ := exists_fitFrom_eq_nextFreeAfter filled alignment distance network
    (network + distance) held (held.map (Block.shift distance))
  rw [fitFrom_shift alike, found] at found'
  exact (Option.some.inj found').symm

theorem fitMoves
    (start : alignUp (parent.start + distance) alignment = alignUp parent.start alignment + distance) :
    FitMoves parent held size alignment distance where
  integers := firstFit_shift alike start
  words w place place' found found' := by
    rw [Width.firstFit_eq found, Width.firstFit_eq found']
    exact firstFit_shift alike start

theorem suggestionMoves (filled : 0 < size) : SuggestionMoves network held size alignment distance where
  integers := nextFreeAfter_shift alike filled
  words w place place' found found' := by
    rw [Width.nextFreeAfter_eq found, Width.nextFreeAfter_eq found']
    exact nextFreeAfter_shift alike filled

end Alike

/-! ### A search that is no later -/

section Early
variable (early : ∀ b ∈ held, alignUp (b.stop + distance) alignment ≤ alignUp b.stop alignment + distance)
include early

theorem exists_fitFrom_shift_le (before : cursor' ≤ cursor + distance)
    (h : fitFrom stop size alignment cursor held = some place) :
    ∃ place', fitFrom (stop + distance) size alignment cursor' (held.map (Block.shift distance)) =
      some place' ∧ place' ≤ place + distance := by
  induction held generalizing cursor cursor' with
  | nil =>
    simp only [fitFrom] at h
    split at h
    case isTrue inside =>
      cases h
      exact ⟨cursor', if_pos (by omega), before⟩
    case isFalse => cases h
  | cons b rest ih =>
    obtain ⟨first, others⟩ := List.forall_mem_cons.mp early
    rw [List.map_cons, fitFrom]
    by_cases room : (b.shift distance).LeavesRoom cursor' size
    · have after := le_fitFrom h
      exact ⟨cursor', if_pos room, by omega⟩
    · -- A cursor that is no further has no less room before the block.
      have blocked : ¬b.LeavesRoom cursor size := by
        simp only [Block.LeavesRoom, Block.start_shift] at room ⊢
        omega
      rw [fitFrom, if_neg blocked] at h
      have passed : pass cursor' (b.shift distance) alignment ≤ pass cursor b alignment + distance := by
        simp only [pass, Block.stop_shift]
        omega
      rw [if_neg room]
      exact ih others passed h

theorem nextFreeAfter_shift_le (filled : 0 < size) :
    nextFreeAfter (network + distance) (held.map (Block.shift distance)) size alignment ≤
      nextFreeAfter network held size alignment + distance := by
  obtain ⟨stop, found, found'⟩ := exists_fitFrom_eq_nextFreeAfter filled alignment distance network
    (network + distance) held (held.map (Block.shift distance))
  obtain ⟨place', hplace', le⟩ := exists_fitFrom_shift_le early (Int.le_refl _) found
  rw [found'] at hplace'
  cases hplace'
  exact le

end Early

/-! ### Whole questions -/

/-- Rounding goes to the next multiple and from some numbers below zero one alignment past it, so it moves
along with just the numbers that are rounded alike. Where this holds of all ends, and for the search for room
of the parent's start, both searches move along with the blocks. Whatever the numbers, a search that is shifted
upwards comes to no later place, and finds one if there was one before. -/
theorem searches_move_with_blocks (held : List Block) (positive : 0 < alignment) (filled : 0 < size)
    (whole : alignment ∣ distance) :
    (∀ n, IsLeast {m | alignment ∣ m ∧ n ≤ m} (alignUp n alignment - overshoot n alignment) ∧
      (alignUp (n + distance) alignment = alignUp n alignment + distance ↔
        RoundsAlike alignment distance n)) ∧
    ((∀ b ∈ held, RoundsAlike alignment distance b.stop) →
      (∀ parent : Block, RoundsAlike alignment distance parent.start →
        FitMoves parent held size alignment distance) ∧
      ∀ network, SuggestionMoves network held size alignment distance) ∧
    (0 ≤ distance →
      (∀ parent place, firstFit parent held size alignment = some place →
        ∃ place', firstFit (parent.shift distance) (held.map (Block.shift distance)) size alignment =
          some place' ∧ place' ≤ place + distance) ∧
      ∀ network, nextFreeAfter (network + distance) (held.map (Block.shift distance)) size alignment ≤
        nextFreeAfter network held size alignment + distance) := by
  refine ⟨fun n => ⟨alignUp_isLeast positive, alignUp_add_eq_iff positive whole⟩, fun ends => ?_, fun up => ?_⟩
  · have alike : ∀ b ∈ held, alignUp (b.stop + distance) alignment = alignUp b.stop alignment + distance :=
      fun b hb => (alignUp_add_eq_iff positive whole).mpr (ends b hb)
    exact ⟨fun parent start => fitMoves alike ((alignUp_add_eq_iff positive whole).mpr start),
      fun network => suggestionMoves alike filled⟩
  · have early : ∀ b ∈ held, alignUp (b.stop + distance) alignment ≤ alignUp b.stop alignment + distance :=
      fun b _ => alignUp_add_le positive whole up
    refine ⟨fun parent place found => ?_, fun network => nextFreeAfter_shift_le early filled⟩
    rw [firstFit, Block.stop_shift, Block.start_shift]
    exact exists_fitFrom_shift_le early (alignUp_add_le positive whole up) found

end Search

/-- Blocks on both sides of zero. The first ends below zero between two multiples of four, before and after a
shift by four, and the last one above zero. -/
def acrossZero : List Block := [⟨-14, 5⟩, ⟨-3, 3⟩, ⟨2, 3⟩]

theorem searches_move_with_blocks_across_zero :
    (∀ b ∈ acrossZero, RoundsAlike 4 4 b.stop) ∧ RoundsAlike 4 4 (-13) ∧
      FitMoves ⟨-13, 45⟩ acrossZero 4 4 4 ∧
      (Width.signed 128).firstFit ⟨-13, 45⟩ acrossZero 4 4 = some (some 8) ∧
      (Width.signed 128).firstFit ⟨-9, 45⟩ (acrossZero.map (Block.shift 4)) 4 4 = some (some 12) ∧
      SuggestionMoves (-12) acrossZero 4 4 4 ∧
      firstFit ⟨-11, 45⟩ acrossZero 4 4 = some 8 ∧
      ∃ place, firstFit ⟨9, 45⟩ (acrossZero.map (Block.shift 20)) 4 4 = some place ∧ place ≤ 8 + 20 := by
  have positive : (0 : Int) < 4 := by decide
  have ends : ∀ b ∈ acrossZero, RoundsAlike 4 4 b.stop := by decide
  have start : RoundsAlike 4 4 (-13) := by decide
  obtain ⟨-, moves, -⟩ := searches_move_with_blocks acrossZero positive positive (Int.dvd_refl 4)
  obtain ⟨-, -, up⟩ := searches_move_with_blocks acrossZero positive positive (show (4 : Int) ∣ 20 by decide)
  have found : firstFit ⟨-11, 45⟩ acrossZero 4 4 = some 8 := by decide
  exact ⟨ends, start, (moves ends).1 ⟨-13, 45⟩ start, by decide, by decide, (moves ends).2 (-12), found,
    (up (by decide)).1 ⟨-11, 45⟩ 8 found⟩

/-- From below zero a search goes past a place with room, which is found one alignment further up, and what is
suggested lies one alignment too far. -/
theorem room_missed_from_below_zero :
    Fits ⟨-3, 8⟩ [] 4 4 0 ∧ firstFit ⟨-3, 8⟩ [] 4 4 = none ∧
      firstFit (Block.shift 4 ⟨-3, 8⟩) [] 4 4 = some (0 + 4) ∧ ¬FitMoves ⟨-3, 8⟩ [] 4 4 4 ∧
      (Width.signed 128).firstFit ⟨-3, 8⟩ [] 4 4 = some none ∧
      (Width.signed 128).firstFit (Block.shift 4 ⟨-3, 8⟩) [] 4 4 = some (some (0 + 4)) ∧
      nextFreeAfter (-8) [⟨-8, 5⟩] 4 4 = 4 ∧ nextFreeAfter (-8 + 8) [Block.shift 8 ⟨-8, 5⟩] 4 4 = 0 + 8 ∧
      ¬SuggestionMoves (-8) [⟨-8, 5⟩] 4 4 8 := by
  have fits : Fits ⟨-3, 8⟩ [] 4 4 0 := ⟨by decide, by decide, nofun⟩
  refine ⟨fits, by decide, by decide, fun moves => ?_, by decide, by decide, by decide, by decide, fun moves => ?_⟩
  · exact absurd moves.integers (by decide)
  · exact absurd moves.integers (by decide)

end ResourcePool
