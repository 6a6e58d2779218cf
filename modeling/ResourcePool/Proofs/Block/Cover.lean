import Mathlib.Data.Finset.Card
import ResourcePool.Proofs.Block.Fit
import ResourcePool.Proofs.IntSet

/-! Counting the numbers that blocks cover. Disjoint blocks cover as many numbers as their sizes add up
to. When the blocks and their parent are all made of whole units, a number that is not covered belongs to
a unit that is not covered, so there is room for one more unit as long as the sizes fall short of the
parent's. -/

namespace ResourcePool

/-- The sizes of blocks, added up. -/
def totalSize (blocks : List Block) : Int := blocks.foldr (fun b sum => b.size + sum) 0

/-- The numbers of a block. -/
def Block.numbers (b : Block) : Finset Int := (Int.range b.start b.stop).toFinset

/-- The numbers that belong to one of the blocks. -/
def covered : List Block → Finset Int
  | [] => ∅
  | b :: rest => b.numbers ∪ covered rest

section Counting
variable {parent : Block} {blocks blocks' : List Block} {b : Block} {n : Int}

@[simp] theorem Block.mem_numbers : n ∈ b.numbers ↔ n ∈ b := by
  rw [numbers, List.mem_toFinset, Int.mem_range_iff, mem_iff]

theorem Block.card_numbers (b : Block) : b.numbers.card = b.size.toNat := by
  rw [numbers, List.toFinset_card_of_nodup nodup_range, Int.range, List.length_map, List.length_range]
  dsimp only [stop]
  omega

@[simp] theorem totalSize_cons : totalSize (b :: blocks) = b.size + totalSize blocks := rfl

theorem totalSize_perm (h : blocks.Perm blocks') : totalSize blocks = totalSize blocks' := by
  induction h with
  | nil => rfl
  | cons b _ ih => simp [ih]
  | swap b c rest =>
    simp only [totalSize_cons]
    omega
  | trans _ _ ih ih' => exact ih.trans ih'

theorem dvd_totalSize {unit : Int} (h : ∀ b ∈ blocks, unit ∣ b.size) : unit ∣ totalSize blocks := by
  induction blocks with
  | nil => exact Int.dvd_zero _
  | cons b rest ih =>
    exact Int.dvd_add (h b List.mem_cons_self) (ih fun c hc => h c (List.mem_cons_of_mem _ hc))

theorem mem_covered : n ∈ covered blocks ↔ ∃ b ∈ blocks, n ∈ b := by
  induction blocks with
  | nil => simp [covered]
  | cons b rest ih => simp [covered, ih]

theorem covered_append : covered (blocks ++ blocks') = covered blocks ∪ covered blocks' := by
  induction blocks with
  | nil => simp [covered]
  | cons b rest ih => rw [List.cons_append, covered, covered, ih, Finset.union_assoc]

theorem card_covered (filled : ∀ b ∈ blocks, 0 < b.size) (apart : blocks.Pairwise Block.Apart) :
    ((covered blocks).card : Int) = totalSize blocks := by
  induction blocks with
  | nil => rfl
  | cons b rest ih =>
    obtain ⟨first, tail⟩ := List.pairwise_cons.mp apart
    have disjoint : Disjoint b.numbers (covered rest) := by
      rw [Finset.disjoint_left]
      intro n hn hrest
      obtain ⟨c, hc, hnc⟩ := mem_covered.mp hrest
      exact first c hc n (Block.mem_numbers.mp hn) hnc
    have head := filled b List.mem_cons_self
    have count := ih (fun c hc => filled c (List.mem_cons_of_mem _ hc)) tail
    rw [covered, Finset.card_union_of_disjoint disjoint, b.card_numbers, totalSize_cons, ← count]
    omega

theorem Packed.card_covered (h : Packed parent blocks) : ((covered blocks).card : Int) = totalSize blocks :=
  ResourcePool.card_covered h.filled h.apart

theorem Packed.covered_subset (h : Packed parent blocks) :
    covered blocks ⊆ parent.numbers := by
  intro n hn
  obtain ⟨b, hb, low, high⟩ := mem_covered.mp hn
  obtain ⟨inside, inside'⟩ := h.inside b hb
  exact Block.mem_numbers.mpr ⟨by omega, by omega⟩

end Counting

/-! ### Whole units -/

section Units
variable {parent : Block} {held : List Block} {unit size alignment alignment' place : Int}

theorem Fits.mono (h : Fits parent held size alignment place) (le : unit ≤ size)
    (dvd : alignment' ∣ alignment) : Fits parent held unit alignment' place where
  aligned := Int.dvd_trans dvd h.aligned
  inside := by
    obtain ⟨low, high⟩ := h.inside
    dsimp only [Block.stop] at low high
    exact ⟨low, by dsimp only [Block.stop]; omega⟩
  free b hb n hn within := by
    obtain ⟨low, high⟩ := within
    dsimp only [Block.stop] at low high
    exact h.free b hb n hn ⟨low, by dsimp only [Block.stop]; omega⟩

theorem Fits.not_mem_covered (h : Fits parent held size alignment place) (filled : 0 < size) :
    place ∉ covered held := by
  intro hplace
  obtain ⟨b, hb, within⟩ := mem_covered.mp hplace
  exact h.free b hb place within (Block.start_mem filled)

/-- A unit that a block of whole units meets belongs to it. -/
theorem Block.mem_of_unit {b : Block} {n m : Int} (positive : 0 < unit) (start : unit ∣ b.start)
    (size : unit ∣ b.size) (dvd : unit ∣ place) (hn : place ≤ n ∧ n < place + unit)
    (hm : place ≤ m ∧ m < place + unit) (h : m ∈ b) : n ∈ b := by
  obtain ⟨low, high⟩ := h
  have stop : unit ∣ b.stop := Int.dvd_add start size
  obtain ⟨i, hi⟩ := start
  obtain ⟨j, hj⟩ := stop
  obtain ⟨k, rfl⟩ := dvd
  rw [hi] at low
  rw [hj] at high
  have before : i ≤ k := by
    refine Int.lt_add_one_iff.mp (Int.lt_of_mul_lt_mul_left (a := unit) ?_ positive.le)
    rw [Int.mul_add]
    omega
  have after : k + 1 ≤ j := by
    refine Int.add_one_le_iff.mpr (Int.lt_of_mul_lt_mul_left (a := unit) ?_ positive.le)
    omega
  have := Int.mul_le_mul_of_nonneg_left before positive.le
  have := Int.mul_le_mul_of_nonneg_left after positive.le
  rw [Int.mul_add] at this
  exact Block.mem_iff.mpr ⟨by omega, by omega⟩

/-- Among blocks of whole units there is room for one more unit exactly when they do not fill the
parent. -/
theorem Packed.exists_fits_iff (packed : Packed parent held) (positive : 0 < unit)
    (start : unit ∣ parent.start) (size : unit ∣ parent.size)
    (units : ∀ b ∈ held, unit ∣ b.start ∧ unit ∣ b.size) :
    (∃ q, Fits parent held unit unit q) ↔ totalSize held < parent.size := by
  have count := packed.card_covered
  have width := parent.card_numbers
  constructor
  · rintro ⟨q, hq⟩
    obtain ⟨low, high⟩ := hq.inside
    dsimp only [Block.stop] at low high
    have mem : q ∈ parent.numbers :=
      Block.mem_numbers.mpr ⟨low, by dsimp only [Block.stop]; omega⟩
    have fewer := Finset.card_lt_card ((Finset.ssubset_iff_of_subset packed.covered_subset).mpr
      ⟨q, mem, hq.not_mem_covered positive⟩)
    omega
  · intro short
    obtain ⟨n, hn, uncovered⟩ : ∃ n ∈ parent.numbers, n ∉ covered held := by
      refine Finset.exists_mem_notMem_of_card_lt_card ?_
      omega
    -- The unit of a number that is not covered is the one that fits.
    have rest := Int.emod_nonneg n positive.ne'
    have below := Int.emod_lt_of_pos n positive
    have dvd : unit ∣ n - n % unit := Int.dvd_self_sub_emod
    have mem : n ∈ parent := Block.mem_numbers.mp hn
    have within : ∀ m, n - n % unit ≤ m ∧ m < n - n % unit + unit → m ∈ parent := fun m hm =>
      Block.mem_of_unit positive start size dvd hm ⟨by omega, by omega⟩ mem
    refine ⟨n - n % unit, dvd, ⟨(within (n - n % unit) ⟨by omega, by omega⟩).1, ?_⟩, ?_⟩
    · have last := (within (n - n % unit + unit - 1) ⟨by omega, by omega⟩).2
      dsimp only [Block.stop] at last ⊢
      omega
    · intro b hb m hm hunit
      obtain ⟨hstart, hsize⟩ := units b hb
      refine uncovered (mem_covered.mpr ⟨b, hb, ?_⟩)
      exact Block.mem_of_unit positive hstart hsize dvd ⟨by omega, by omega⟩ hunit hm

end Units
end ResourcePool
