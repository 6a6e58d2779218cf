import ResourcePool.Proofs.Pool.LeastFit

/-! Plain requests: a number of units and no particular place. The size of the block that meets a request
is known from the request and the properties of the pool, and whether there is room for such a block
decides alone how the request is answered. -/

namespace ResourcePool
namespace BlockKind

/-- How many units the user asks for. -/
def desired : BlockKind → Bag → Except Error Int
  | network f, input => NetworkPool.desiredSize f input
  | vlanRange, input => (input.int64 "desiredSize" .input).map Int64.toInt

/-- The least number of units that can be asked for. -/
def least : BlockKind → Int
  | network _ => 2
  | vlanRange => 1

/-- The size of the block for a number of units: the least sufficient power of two for a network, even
where the whole space is smaller, with two more addresses in a pool of subnets. -/
def blockSize : BlockKind → Bag → Int → Int
  | network _, properties, n =>
    Nat.pow 2 (ceilLog2 (if properties.flag "subnet" then n + 2 else n))
  | vlanRange, _, n => n

/-- The input asks for a legal number of units and no particular block. -/
structure Asks (kind : BlockKind) (input : Bag) (n : Int) : Prop where
  plain : input.get? "desiredValue" = none
  size : kind.desired input = .ok n
  legal : kind.least ≤ n

variable {kind : BlockKind} {s : Snapshot} {parent : Block} {held : List Block} {properties input : Bag}
  {n place : Int}

theorem le_blockSize (kind : BlockKind) (properties : Bag) (n : Int) : n ≤ kind.blockSize properties n := by
  cases kind with
  | network f =>
    refine Int.le_trans ?_ (le_two_pow_ceilLog2 _)
    split <;> omega
  | vlanRange => exact Int.le_refl n

theorem blockSize_pos (h : kind.least ≤ n) : 0 < kind.blockSize properties n := by
  have := le_blockSize kind properties n
  cases kind <;> simp only [least] at h <;> omega

theorem alignment_dvd_blockSize (kind : BlockKind) (properties : Bag) (n : Int) :
    kind.alignment (kind.blockSize properties n) ∣ kind.blockSize properties n := by
  cases kind with
  | network f => exact Int.dvd_refl _
  | vlanRange => exact Int.one_dvd _

theorem Asks.size?_eq (h : kind.Asks input n) (range : kind.range properties = .ok parent)
    (room : place + kind.blockSize properties n ≤ parent.stop) (low : parent.start ≤ place) :
    kind.size? properties input = some (kind.blockSize properties n) := by
  obtain ⟨-, size, legal⟩ := h
  cases kind with
  | network f =>
    obtain ⟨root, -, rfl⟩ := map_eq_ok_iff.mp range
    cases hmask : f.maskFor (if properties.flag "subnet" then n + 2 else n) with
    | none =>
      have large := Family.maskFor_eq_none_iff.mp hmask
      have enough := le_two_pow_ceilLog2 (if properties.flag "subnet" then n + 2 else n)
      have := root.block_stop_le
      have : 0 ≤ root.block.start := Int.natCast_nonneg _
      simp only [blockSize] at room
      omega
    | some mask =>
      have same := congrArg (Nat.cast (R := Int)) (Family.addresses_of_maskFor hmask)
      exact size?_network_eq_some_iff.mpr ⟨n, mask, size, legal, hmask, same⟩
  | vlanRange =>
    obtain ⟨w, hw, rfl⟩ := map_eq_ok_iff.mp size
    exact size?_vlanRange_eq_some_iff.mpr ⟨w, hw, legal, rfl⟩

/-- A size that the space has room for is the one of the request's block. -/
theorem size?_network_eq_some_iff_of_le {f : Family} {input : Bag} {size : Int} (le : size ≤ f.space) :
    size? (network f) properties input = some size ↔
      ∃ n, NetworkPool.desiredSize f input = .ok n ∧ 2 ≤ n ∧
        blockSize (network f) properties n = size := by
  rw [size?_network_eq_some_iff]
  constructor
  · rintro ⟨n, mask, hn, large, hmask, rfl⟩
    exact ⟨n, hn, large, congrArg Nat.cast (Family.addresses_of_maskFor hmask).symm⟩
  · rintro ⟨n, hn, large, rfl⟩
    have short := two_pow_le_iff.mp (Int.ofNat_le.mp le)
    have hmask := Family.maskFor_eq_some_iff.mpr ⟨short, rfl⟩
    exact ⟨n, _, hn, large, hmask, congrArg Nat.cast (Family.addresses_of_maskFor hmask)⟩

theorem exists_blockSize_eq {size : Int} (h : kind.size? properties input = some size) :
    ∃ n, kind.least ≤ n ∧ kind.blockSize properties n = size := by
  cases kind with
  | network f =>
    obtain ⟨n, mask, -, legal, hmask, rfl⟩ := size?_network_eq_some_iff.mp h
    exact ⟨n, legal, congrArg Nat.cast (Family.addresses_of_maskFor hmask).symm⟩
  | vlanRange =>
    obtain ⟨-, -, legal, -⟩ := size?_vlanRange_eq_some_iff.mp h
    exact ⟨size, legal, rfl⟩

/-- Where there is room, a plain request is granted the least place. -/
theorem allocate_of_least {script : Option (List UInt64)} (opens : kind.Opens s parent held)
    (packed : Packed parent held) (asks : kind.Asks s.input n)
    (h : IsLeast {q | Fits parent held (kind.blockSize s.properties n)
      (kind.alignment (kind.blockSize s.properties n)) q} place) :
    ∃ bag, (s.allocate kind.kind script).result = .ok bag ∧
      kind.heldBlock bag = .ok ⟨place, kind.blockSize s.properties n⟩ := by
  have sized := asks.size?_eq opens.range h.1.inside.2 h.1.inside.1
  obtain ⟨place', bag, h', written, granted⟩ :=
    @allocate_of_room kind s parent held _ script opens packed (wanted_of_plain asks.plain) sized
      ⟨place, h.1⟩
  obtain rfl := h'.unique h
  obtain ⟨bag', written', read⟩ :=
    exists_resource (b := ⟨place', kind.blockSize s.properties n⟩) opens.range sized h.1.aligned h.1.inside
  rw [written] at written'
  cases written'
  exact ⟨bag, granted, read⟩

theorem exists_pool_of_opens {f : Family} (opens : Opens (network f) s parent held) :
    ∃ pool : NetworkPool f, NetworkPool.ofSnapshot f s = .ok pool ∧ pool.network.block = parent ∧
      pool.subnet = s.properties.flag "subnet" ∧
      pool.held.map Network.block = sortBy Block.stop held := by
  obtain ⟨root, nets, pool, read, rfl, rfl⟩ := opens_network_iff.mp opens
  exact ⟨⟨root, _, sortBy (fun n => n.block.stop) nets⟩,
    NetworkPool.ofSnapshot_eq_ok_iff.mpr ⟨nets, pool, read, rfl, rfl⟩, rfl, rfl, map_sortBy ..⟩

theorem allocate_of_full {script : Option (List UInt64)} (opens : kind.Opens s parent held)
    (packed : Packed parent held) (asks : kind.Asks s.input n)
    (full : ¬∃ q, Fits parent held (kind.blockSize s.properties n)
      (kind.alignment (kind.blockSize s.properties n)) q) :
    ∃ e, (s.allocate kind.kind script).result = .error e ∧ e.isExhausted = true := by
  have nowhere : kind.firstPlace parent held (kind.blockSize s.properties n) = none :=
    (firstPlace_eq_none_iff packed (natural_of_range opens.range) (blockSize_pos asks.legal)).mpr full
  cases kind with
  | network f =>
    obtain ⟨pool, opened, rfl, subnet, sorted⟩ := exists_pool_of_opens opens
    have plain : AddressPool.wanted? f s.input = .ok none := by
      rw [AddressPool.wanted?, asks.plain]
    show ∃ e, (s.allocate (.network f) script).result = .error e ∧ _
    rw [Snapshot.allocate_network, opened]
    refine NetworkPool.allocate_exhausted asks.size asks.legal plain fun mask hmask => ?_
    rw [NetworkPool.needed, subnet] at hmask
    rw [Family.addresses_of_maskFor hmask, sorted]
    exact nowhere
  | vlanRange =>
    have opened : VlanRangePool.ofSnapshot s = .ok ⟨parent, sortBy Block.stop held⟩ :=
      VlanRangePool.ofSnapshot_eq_ok_iff.mpr ⟨held, opens.range, opens.held, rfl⟩
    obtain ⟨w, hw, rfl⟩ := map_eq_ok_iff.mp asks.size
    have plain : VlanPool.wanted? s.input = .ok none := by rw [VlanPool.wanted?, asks.plain]
    show ∃ e, (s.allocate .vlanRange script).result = .error e ∧ _
    rw [Snapshot.allocate_vlanRange, opened]
    exact VlanRangePool.allocate_exhausted
      (VlanRangePool.requested_eq_ok_iff.mpr ⟨w, hw, asks.legal, rfl⟩) plain nowhere

end BlockKind
end ResourcePool
