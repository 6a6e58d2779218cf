import ResourcePool.Proofs.Block.Cover
import ResourcePool.Proofs.Pool.Request

/-! What a pool of blocks reports. Its account is kept in sizes alone, while a claim needs an aligned
place. The two agree because the smallest block that can be asked for divides every block that can be, and
the pool itself unless the pool is smaller: a pool of subnets with two addresses, which counts as having
none to give. -/

namespace ResourcePool

theorem NetworkPool.total_eq {f : Family} (pool : NetworkPool f) :
    pool.total =
      if pool.subnet then
        if pool.network.block.size ≤ 2 then 0 else pool.network.block.size - 2
      else pool.network.block.size := by
  have le := pool.network.mask_le
  have small : f.bits ≤ pool.network.mask + 1 ↔ pool.network.block.size ≤ 2 := by
    show _ ↔ ((Nat.pow 2 (f.bits - pool.network.mask) : Nat) : Int) ≤ (Nat.pow 2 1 : Nat)
    rw [Int.ofNat_le, two_pow_le_iff]
    omega
  simp only [NetworkPool.total]
  split
  · simp only [small]
    split
    · rfl
    case isFalse large =>
      rw [Family.hosts, if_neg, if_neg]
      · rfl
      · exact fun h => large (small.mp (by omega))
      · exact fun h => large (small.mp (by omega))
  · rfl

namespace BlockKind
variable {kind : BlockKind} {s : Snapshot} {parent : Block} {held blocks : List Block} {bags : List Bag}
  {properties : Bag} {b : Block} {n m : Int}

/-- A pool for which the smallest request makes sense: a network with at least two addresses. -/
def Roomy : BlockKind → Bag → Prop
  | network f, properties => ∃ root, poolNetwork f properties = .ok root ∧ root.mask < f.bits
  | vlanRange, _ => True

/-- A pool that keeps nothing back. -/
def Flat : BlockKind → Bag → Prop
  | network _, properties => properties.flag "subnet" = false
  | vlanRange, _ => True

/-- The numbers that a pool counts as its own: a pool of subnets does without two of them, or without
all where there are no more. -/
def usable : BlockKind → Bag → Block → Int
  | network _, properties, parent =>
    if properties.flag "subnet" then if parent.size ≤ 2 then 0 else parent.size - 2 else parent.size
  | vlanRange, _, parent => parent.size

/-! ### Alignment -/

theorem alignment_dvd (kind : BlockKind) (properties : Bag) (h : n ≤ m) :
    kind.alignment (kind.blockSize properties n) ∣ kind.alignment (kind.blockSize properties m) := by
  cases kind with
  | network f =>
    refine Int.natCast_dvd_natCast.mpr (Nat.pow_dvd_pow 2 (ceilLog2_mono ?_))
    split <;> omega
  | vlanRange => exact Int.dvd_refl _

theorem size_nonneg (range : kind.range properties = .ok parent) : 0 ≤ parent.size := by
  cases kind with
  | network f =>
    obtain ⟨root, -, rfl⟩ := map_eq_ok_iff.mp range
    exact root.block_filled.le
  | vlanRange =>
    obtain ⟨first, -, range⟩ := bind_eq_ok_iff.mp range
    obtain ⟨last, -, rfl⟩ := map_eq_ok_iff.mp range
    exact Int.le_max_right ..

/-- The pool is aligned to every block that is not larger than itself. -/
theorem alignment_dvd_range (range : kind.range properties = .ok parent)
    (le : kind.blockSize properties n ≤ parent.size) :
    kind.alignment (kind.blockSize properties n) ∣ parent.start ∧
      kind.alignment (kind.blockSize properties n) ∣ parent.size := by
  cases kind with
  | network f =>
    obtain ⟨root, -, rfl⟩ := map_eq_ok_iff.mp range
    have size := two_pow_dvd_of_le (Int.ofNat_le.mp le)
    exact ⟨Int.natCast_dvd_natCast.mpr (Nat.dvd_trans size root.aligned), Int.natCast_dvd_natCast.mpr size⟩
  | vlanRange => exact ⟨Int.one_dvd _, Int.one_dvd _⟩

theorem alignment_dvd_of_heldBlock {bag : Bag} (h : kind.heldBlock bag = .ok b) :
    kind.alignment b.size ∣ b.start := by
  cases kind with
  | network f =>
    obtain ⟨n, -, rfl⟩ := map_eq_ok_iff.mp h
    exact Int.natCast_dvd_natCast.mpr n.aligned
  | vlanRange => exact Int.one_dvd _

/-! ### The account -/

/-- A pool reports what the sizes of the held blocks leave of the numbers that it counts as its own. -/
theorem capacity_of_opens (opens : kind.Opens s parent held) :
    (s.capacity kind.kind).result =
      .ok ⟨max (kind.usable s.properties parent - totalSize held) 0, totalSize held⟩ := by
  cases kind with
  | network f =>
    obtain ⟨pool, opened, rfl, subnet, sorted⟩ := exists_pool_of_opens opens
    have utilized : pool.utilized = totalSize held := by
      rw [← totalSize_perm (perm_sortBy Block.stop held), ← sorted, totalSize, List.foldr_map]
      rfl
    show (s.capacity (.network f)).result = _
    rw [Snapshot.capacity_result, Pool.ofSnapshot, opened]
    simp only [Except.map, Pool.capacity, NetworkPool.capacity, NetworkPool.free, utilized, Capacity.of,
      NetworkPool.total_eq, subnet, usable]
    rw [Int.max_eq_left (Int.le_max_right ..)]
  | vlanRange =>
    have opened : VlanRangePool.ofSnapshot s = .ok ⟨parent, sortBy Block.stop held⟩ :=
      VlanRangePool.ofSnapshot_eq_ok_iff.mpr ⟨held, opens.range, opens.held, rfl⟩
    have utilized : (⟨parent, sortBy Block.stop held⟩ : VlanRangePool).utilized = totalSize held :=
      totalSize_perm (perm_sortBy Block.stop held)
    show (s.capacity .vlanRange).result = _
    rw [Snapshot.capacity_result, Pool.ofSnapshot, opened]
    simp only [Except.map, Pool.capacity, VlanRangePool.capacity, VlanRangePool.free, utilized,
      Capacity.of, usable]
    rw [Int.max_eq_left (Int.le_max_right ..)]

/-! ### Room for the smallest request -/

/-- Every block a pool gives is made of so many numbers, or of several times as many. -/
def unit (kind : BlockKind) (properties : Bag) : Int := kind.blockSize properties kind.least

theorem unit_pos : 0 < kind.unit properties := blockSize_pos (Int.le_refl _)

theorem alignment_unit (kind : BlockKind) (properties : Bag) :
    kind.alignment (kind.unit properties) = kind.unit properties := by
  cases kind <;> rfl

theorem unit_network {f : Family} : unit (network f) properties = if properties.flag "subnet" then 4 else 2 := by
  simp only [unit, blockSize, least]
  split <;> rfl

theorem units_of_read (read : bags.map kind.heldBlock = blocks.map .ok)
    (sized : ∀ b ∈ blocks, ∃ n, kind.least ≤ n ∧ kind.blockSize properties n = b.size) :
    ∀ b ∈ blocks, kind.unit properties ∣ b.start ∧ kind.unit properties ∣ b.size := by
  intro b hb
  obtain ⟨bag, -, hbag⟩ : ∃ bag ∈ bags, kind.heldBlock bag = .ok b :=
    List.mem_map.mp (read ▸ List.mem_map_of_mem hb)
  obtain ⟨n, legal, hn⟩ := sized b hb
  have step : kind.unit properties ∣ kind.alignment b.size :=
    alignment_unit kind properties ▸ hn ▸ alignment_dvd kind properties legal
  exact ⟨Int.dvd_trans step (alignment_dvd_of_heldBlock hbag),
    Int.dvd_trans step (hn ▸ alignment_dvd_blockSize kind properties n)⟩

/-- A pool with room for a unit counts what it has in units, but for the two numbers that it keeps
back. -/
theorem usable_pos_iff {used : Int} (le : kind.unit properties ≤ parent.size)
    (size : kind.unit properties ∣ parent.size) (taken : kind.unit properties ∣ used) :
    0 < kind.usable properties parent - used ↔ used < parent.size := by
  cases kind with
  | network f =>
    rw [unit_network] at le size taken
    simp only [usable]
    split at le
    case isTrue subnet =>
      rw [if_pos subnet] at size taken ⊢
      rw [if_neg (by omega)]
      omega
    case isFalse flat =>
      rw [if_neg flat]
      omega
  | vlanRange =>
    simp only [usable]
    omega

theorem usable_of_lt (range : kind.range properties = .ok parent) (roomy : kind.Roomy properties)
    (lt : parent.size < kind.unit properties) : kind.usable properties parent ≤ 0 := by
  cases kind with
  | network f =>
    obtain ⟨root, hroot, mask⟩ := roomy
    obtain ⟨root', hroot', rfl⟩ := map_eq_ok_iff.mp range
    obtain rfl := Except.ok.inj (hroot.symm.trans hroot')
    have least : Nat.pow 2 1 ≤ Nat.pow 2 (f.bits - root.mask) := two_pow_le_iff.mpr (by omega)
    have size : root.block.size = (Nat.pow 2 (f.bits - root.mask) : Nat) := rfl
    rw [unit_network] at lt
    simp only [usable]
    split at lt
    case isTrue subnet =>
      have small : Nat.pow 2 (f.bits - root.mask) ≤ Nat.pow 2 1 := by
        refine two_pow_le_iff.mpr (Nat.lt_succ_iff.mp (Nat.not_le.mp fun large => ?_))
        have := two_pow_le_iff.mpr large
        simp only [show Nat.pow 2 (Nat.succ 1) = 4 from rfl] at this
        omega
      rw [if_pos subnet, if_pos (by rw [size]; exact Int.ofNat_le.mpr small)]
    case isFalse =>
      simp only [show Nat.pow 2 1 = 2 from rfl] at least
      omega
  | vlanRange => exact Int.lt_add_one_iff.mp lt

/-- The sizes leave something of what the pool counts as its own exactly when there is room for a unit. -/
theorem usable_pos_iff_exists_fits (range : kind.range properties = .ok parent)
    (roomy : kind.Roomy properties) (packed : Packed parent blocks)
    (units : ∀ b ∈ blocks, kind.unit properties ∣ b.start ∧ kind.unit properties ∣ b.size) :
    0 < kind.usable properties parent - totalSize blocks ↔
      ∃ q, Fits parent blocks (kind.unit properties) (kind.unit properties) q := by
  by_cases le : kind.unit properties ≤ parent.size
  · -- Everything is made of whole units, so what is left is a unit or nothing.
    have aligned := alignment_dvd_range range le
    rw [← unit, alignment_unit] at aligned
    rw [packed.exists_fits_iff unit_pos aligned.1 aligned.2 units]
    exact usable_pos_iff le aligned.2 (dvd_totalSize fun b hb => (units b hb).2)
  · have none := usable_of_lt range roomy (Int.not_le.mp le)
    have natural : 0 ≤ totalSize blocks := packed.card_covered ▸ Int.natCast_nonneg _
    constructor
    · intro some
      omega
    · rintro ⟨q, hq⟩
      obtain ⟨low, high⟩ := hq.inside
      dsimp only [Block.stop] at low high
      omega

end BlockKind
end ResourcePool
