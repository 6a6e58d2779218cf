import ResourcePool.Proofs.Block.Fit
import ResourcePool.Proofs.Pool.Reading

/-! The kinds of pool whose resources are blocks. Networks and VLAN ranges are read and written
differently; what is chosen for a request depends only on the pool's range, the held blocks, the size and
the wanted start. -/

namespace ResourcePool

/-- The kinds whose resources are blocks. -/
inductive BlockKind where
  | network (f : Family)
  | vlanRange

namespace BlockKind

def kind : BlockKind → Kind
  | network f => .network f
  | vlanRange => .vlanRange

/-- The block of a granted resource. -/
def heldBlock : BlockKind → Bag → Except Error Block
  | network f, bag => (NetworkPool.heldNetwork f bag).map Network.block
  | vlanRange, bag => VlanRangePool.heldBlock bag

/-- The block that the properties of a pool name. -/
def range : BlockKind → Bag → Except Error Block
  | network f, properties => (poolNetwork f properties).map Network.block
  | vlanRange, properties =>
    (properties.int64 "from" .pool).bind fun first => (properties.int64 "to" .pool).map fun last =>
      ⟨first.toInt, max (last.toInt - first.toInt + 1) 0⟩

/-- The size of the block that meets a request. -/
def size? : BlockKind → Bag → Bag → Option Int
  | network f, properties, input =>
    (NetworkPool.desiredSize f input).toOption.bind fun requested =>
      if requested < 2 then none
      else
        let needed := if properties.flag "subnet" then requested + 2 else requested
        (f.maskFor needed).map fun mask => f.addresses mask
  | vlanRange, _, input =>
    (input.int64 "desiredSize" .input).toOption.bind fun size =>
      if size.toInt < 1 then none else some size.toInt

/-- What the start of a block is a multiple of. -/
def alignment : BlockKind → Int → Int
  | network _, size => size
  | vlanRange, _ => 1

/-- The start of the block that the user asks for. -/
def wanted : BlockKind → Bag → Except Error (Option Int)
  | network f, input => (AddressPool.wanted? f input).map (Option.map fun w => w.2.value)
  | vlanRange, input => (VlanPool.wanted? input).map (Option.map Int64.toInt)

/-- The resource that grants a block. -/
def resource : BlockKind → Bag → Block → Except Error Bag
  | network f, properties, b =>
    (Address.ofInt f b.start).map fun address =>
      ((Bag.empty.set "address" (.text address.text)).set "prefix"
        (.int (.ofNat (f.bits - b.size.toNat.log2)))).set "subnet" (.bool (properties.flag "subnet"))
  | vlanRange, _, b =>
    (VlanRangePool.bound b.start).bind fun first => (VlanRangePool.bound (b.stop - 1)).map fun last =>
      (Bag.empty.set "from" first).set "to" last

/-- The pool can be opened: its range is the parent, and its resources are the held blocks. -/
structure Opens (kind : BlockKind) (s : Snapshot) (parent : Block) (held : List Block) : Prop where
  range : kind.range s.properties = .ok parent
  held : s.held.map kind.heldBlock = held.map .ok

/-- A block is chosen in a pool with the parent and the held blocks. -/
structure Chooses (kind : BlockKind) (s : Snapshot) (parent : Block) (held : List Block) (b : Block) :
    Prop where
  opens : kind.Opens s parent held
  size : kind.size? s.properties s.input = some b.size
  place : ∃ wanted, kind.wanted s.input = .ok wanted ∧
    chooseBlock parent (sortBy Block.stop held) id b.size (kind.alignment b.size) wanted = .ok b.start

variable {kind : BlockKind} {s : Snapshot} {parent : Block} {held : List Block} {b : Block}
  {properties input : Bag} {size : Int}

/-! ### Held blocks and sizes -/

theorem map_heldBlock_network_iff {f : Family} {bags : List Bag} :
    bags.map (network f).heldBlock = held.map .ok ↔
      ∃ nets : List (Network f), bags.map (NetworkPool.heldNetwork f) = nets.map .ok ∧
        nets.map Network.block = held := by
  rw [← mapM_eq_ok_iff]
  show bags.mapM (fun bag => (NetworkPool.heldNetwork f bag).map Network.block) = _ ↔ _
  rw [mapM_map, map_eq_ok_iff]
  simp only [mapM_eq_ok_iff]

theorem opens_network_iff {f : Family} :
    Opens (network f) s parent held ↔
      ∃ (root : Network f) (nets : List (Network f)), poolNetwork f s.properties = .ok root ∧
        s.held.map (NetworkPool.heldNetwork f) = nets.map .ok ∧ root.block = parent ∧
        nets.map Network.block = held := by
  constructor
  · rintro ⟨range, hheld⟩
    obtain ⟨root, hroot, rfl⟩ := map_eq_ok_iff.mp range
    obtain ⟨nets, hnets, rfl⟩ := map_heldBlock_network_iff.mp hheld
    exact ⟨root, nets, hroot, hnets, rfl, rfl⟩
  · rintro ⟨root, nets, hroot, hnets, rfl, rfl⟩
    exact ⟨map_eq_ok_iff.mpr ⟨root, hroot, rfl⟩, map_heldBlock_network_iff.mpr ⟨nets, hnets, rfl⟩⟩

theorem size?_network_eq_some_iff {f : Family} :
    size? (network f) properties input = some size ↔
      ∃ n mask, NetworkPool.desiredSize f input = .ok n ∧ 2 ≤ n ∧
        f.maskFor (if properties.flag "subnet" then n + 2 else n) = some mask ∧
        (f.addresses mask : Int) = size := by
  simp only [size?, Option.bind_eq_some_iff, toOption_eq_some_iff]
  constructor
  · rintro ⟨n, hn, h⟩
    split at h
    case isTrue => cases h
    case isFalse large =>
      obtain ⟨mask, hmask, rfl⟩ := Option.map_eq_some_iff.mp h
      exact ⟨n, mask, hn, by omega, hmask, rfl⟩
  · rintro ⟨n, mask, hn, large, hmask, rfl⟩
    refine ⟨n, hn, ?_⟩
    rw [if_neg (by omega), hmask]
    rfl

theorem size?_vlanRange_eq_some_iff :
    size? vlanRange properties input = some size ↔
      ∃ n, input.int64 "desiredSize" .input = .ok n ∧ 1 ≤ size ∧ n.toInt = size := by
  simp only [size?, Option.bind_eq_some_iff, toOption_eq_some_iff]
  constructor
  · rintro ⟨n, hn, h⟩
    split at h
    case isTrue => cases h
    case isFalse large =>
      cases h
      exact ⟨n, hn, by omega, rfl⟩
  · rintro ⟨n, hn, large, rfl⟩
    refine ⟨n, hn, ?_⟩
    rw [if_neg (by omega)]

theorem size?_pos (h : kind.size? properties input = some size) : 0 < size := by
  cases kind with
  | network f =>
    obtain ⟨n, mask, -, -, -, rfl⟩ := size?_network_eq_some_iff.mp h
    exact Int.ofNat_lt.mpr (Nat.two_pow_pos _)
  | vlanRange =>
    obtain ⟨n, -, large, -⟩ := size?_vlanRange_eq_some_iff.mp h
    omega

theorem alignment_pos (h : 0 < size) : 0 < kind.alignment size := by
  cases kind with
  | network f => exact h
  | vlanRange => exact Int.one_pos

/-- Only VLAN ranges, which are aligned to anything, can start below zero. -/
theorem natural_of_range (h : kind.range properties = .ok parent) :
    0 ≤ parent.start ∨ kind.alignment size = 1 := by
  cases kind with
  | network f =>
    obtain ⟨root, -, rfl⟩ := map_eq_ok_iff.mp h
    exact Or.inl (Int.natCast_nonneg _)
  | vlanRange => exact Or.inr rfl

theorem wanted_of_plain (plain : input.get? "desiredValue" = none) :
    kind.wanted input = .ok none := by
  cases kind with
  | network f => simp [wanted, AddressPool.wanted?, plain, Except.map]
  | vlanRange => simp [wanted, VlanPool.wanted?, plain, Except.map]

theorem wanted_network_eq_some_iff {f : Family} {start : Int} :
    wanted (network f) input = .ok (some start) ↔
      ∃ text a, AddressPool.wanted? f input = .ok (some (text, a)) ∧ (a.value : Int) = start := by
  rw [wanted, map_eq_ok_iff]
  constructor
  · rintro ⟨asked, hasked, named⟩
    obtain ⟨⟨text, a⟩, rfl, rfl⟩ := Option.map_eq_some_iff.mp named
    exact ⟨text, a, hasked, rfl⟩
  · rintro ⟨text, a, hasked, rfl⟩
    exact ⟨some (text, a), hasked, rfl⟩

theorem wanted_vlanRange_eq_some_iff {start : Int} :
    wanted vlanRange input = .ok (some start) ↔
      ∃ first, VlanPool.wanted? input = .ok (some first) ∧ first.toInt = start := by
  rw [wanted, map_eq_ok_iff]
  constructor
  · rintro ⟨asked, hasked, named⟩
    obtain ⟨first, rfl, rfl⟩ := Option.map_eq_some_iff.mp named
    exact ⟨first, hasked, rfl⟩
  · rintro ⟨first, hasked, rfl⟩
    exact ⟨some first, hasked, rfl⟩

/-! ### Writing and reading back -/

theorem resource_block {f : Family} (n : Network f) :
    resource (network f) properties n.block = .ok (n.resource (properties.flag "subnet")) := by
  have start : Address.ofInt f n.block.start = .ok n.first := Address.ofInt_value n.first
  have digits : f.bits - n.block.size.toNat.log2 = n.mask := n.mask_eq.symm
  rw [resource, start, digits]
  rfl

theorem exists_block_eq {f : Family} (size : size? (network f) properties input = some b.size)
    (aligned : b.size ∣ b.start) (natural : 0 ≤ b.start) (stop_le : b.stop ≤ f.space) :
    ∃ n : Network f, n.block = b := by
  obtain ⟨_, mask, -, -, hmask, hsize⟩ := size?_network_eq_some_iff.mp size
  obtain ⟨n, -, hn⟩ := Network.exists_block_eq (Family.mask_le_of_maskFor hmask) natural
    (hsize ▸ aligned) (hsize ▸ stop_le)
  exact ⟨n, by rw [hn, hsize]⟩

theorem exists_resource_network {f : Family} {root : Network f}
    (size : size? (network f) properties input = some b.size) (aligned : b.size ∣ b.start)
    (inside : root.block.Contains b) :
    ∃ n : Network f, n.block = b ∧
      resource (network f) properties b = .ok (n.resource (properties.flag "subnet")) := by
  obtain ⟨low, high⟩ := inside
  obtain ⟨n, rfl⟩ := exists_block_eq size aligned (Int.le_trans (Int.natCast_nonneg _) low)
    (Int.le_trans high root.block_stop_le)
  exact ⟨n, rfl, resource_block n⟩

theorem exists_resource_vlanRange (range : vlanRange.range properties = .ok parent)
    (filled : 0 < b.size) (inside : parent.Contains b) :
    ∃ first last : Int64, first.toInt = b.start ∧ last.toInt = b.stop - 1 ∧
      resource vlanRange properties b = .ok (VlanRangePool.granted first last) := by
  obtain ⟨first, -, range⟩ := bind_eq_ok_iff.mp range
  obtain ⟨last, -, rfl⟩ := map_eq_ok_iff.mp range
  obtain ⟨low, high⟩ := inside
  have := first.le_toInt
  have := last.toInt_lt
  simp only [Block.stop] at low high
  have hfirst : least64 ≤ b.start ∧ b.start ≤ greatest64 := by
    simp only [least64, greatest64]
    omega
  have hlast : least64 ≤ b.stop - 1 ∧ b.stop - 1 ≤ greatest64 := by
    simp only [least64, greatest64, Block.stop]
    omega
  refine ⟨.ofInt b.start, .ofInt (b.stop - 1), toInt_ofInt hfirst, toInt_ofInt hlast, ?_⟩
  rw [resource, VlanRangePool.bound_eq_ok hfirst, VlanRangePool.bound_eq_ok hlast]
  rfl

/-- A block of a requested size in the pool's range can be written down and is read back. -/
theorem exists_resource (range : kind.range properties = .ok parent)
    (size : kind.size? properties input = some b.size) (aligned : kind.alignment b.size ∣ b.start)
    (inside : parent.Contains b) :
    ∃ bag, kind.resource properties b = .ok bag ∧ kind.heldBlock bag = .ok b := by
  cases kind with
  | network f =>
    obtain ⟨root, -, rfl⟩ := map_eq_ok_iff.mp range
    obtain ⟨n, hn, written⟩ := exists_resource_network size aligned inside
    refine ⟨_, written, ?_⟩
    rw [heldBlock, Network.heldNetwork_resource, ← hn]
    rfl
  | vlanRange =>
    obtain ⟨first, last, hfirst, hlast, written⟩ :=
      exists_resource_vlanRange range (size?_pos size) inside
    have hsize : b.stop - 1 - b.start + 1 = b.size := by
      simp only [Block.stop]
      omega
    refine ⟨_, written, ?_⟩
    rw [heldBlock, VlanRangePool.heldBlock_granted, hfirst, hlast, hsize]

end BlockKind
end ResourcePool
