import ResourcePool.Proofs.Pool.Accounting

/-! IPv4 inside IPv6. Addresses keep their values and masks grow by 96, so a network stays the same block
of numbers. A pool of such networks gives and counts the same in both families: the larger space of IPv6
admits larger requests, but no block above the IPv4 space is ever in reach. -/

namespace ResourcePool

/-! ### Addresses and networks -/

theorem Family.addresses_embedded (mask : Nat) : v6.addresses (mask + 96) = v4.addresses mask :=
  congrArg (Nat.pow 2) (Nat.add_sub_add_right 32 96 mask)

/-- The IPv6 address with the same value. -/
def Address.embedded (a : Address .v4) : Address .v6 := ⟨a.value, Nat.lt_trans a.lt (by decide)⟩

namespace Network

/-- The IPv6 network of the same numbers. -/
def embedded (n : Network .v4) : Network .v6 where
  start := n.start
  mask := n.mask + 96
  mask_le := Nat.add_le_add_right n.mask_le 96
  aligned := (Family.addresses_embedded n.mask).symm ▸ n.aligned
  lt := Nat.lt_trans n.lt (by decide)

variable {n : Network .v4}

@[simp] theorem size_embedded : n.embedded.size = n.size := Family.addresses_embedded n.mask

@[simp] theorem block_embedded : n.embedded.block = n.block :=
  congrArg (fun size : Nat => Block.mk n.start size) size_embedded

theorem holding_embedded {a : Address .v4} {mask : Nat} (h : holding a mask = .ok n) :
    holding a.embedded (mask + 96) = .ok n.embedded := by
  rw [holding] at h ⊢
  split at h
  case isTrue le =>
    cases h
    rw [dif_pos (show mask + 96 ≤ Family.v6.bits from Nat.add_le_add_right le 96)]
    refine congrArg Except.ok (ext ?_ rfl)
    simp only [embedded, Address.embedded, Family.addresses_embedded]
  case isFalse => cases h

end Network

/-! ### Circumstances -/

namespace Bag

def embedAddress (bag : Bag) (key : String) : Bag :=
  match (bag.text key .input).bind (Address.read .v4) with
  | .ok a => bag.set key (.text a.embedded.text)
  | .error _ => bag

/-- The bag with its mask made longer by 96. -/
def embedMask (bag : Bag) : Bag :=
  match bag.int64 "prefix" .input with
  | .ok mask => bag.set "prefix" (.int (.ofInt (mask.toInt + 96)))
  | .error _ => bag

/-- The bag with address and mask of an IPv4 network written in IPv6. -/
def embedNetwork (bag : Bag) : Bag := (bag.embedAddress "address").embedMask

variable {bag : Bag} {key other : String}

theorem get?_embedAddress_of_ne (h : other ≠ key) : (bag.embedAddress key).get? other = bag.get? other := by
  rw [embedAddress]
  split
  · rw [get?_set, if_neg h]
  · rfl

theorem get?_embedAddress {text : String} {a : Address .v4} (found : bag.get? key = some (.text text))
    (read : Address.read .v4 text = .ok a) :
    (bag.embedAddress key).get? key = some (.text a.embedded.text) := by
  rw [embedAddress, text_of_get? found, Except.bind, read]
  rw [get?_set, if_pos rfl]

theorem embedAddress_of_no_text (h : ∀ text, bag.get? key ≠ some (.text text)) :
    bag.embedAddress key = bag := by
  rw [embedAddress]
  split
  case h_1 found =>
    obtain ⟨text, htext, -⟩ := bind_eq_ok_iff.mp found
    exact absurd (text_eq_ok_iff.mp htext) (h text)
  case h_2 => rfl

theorem embedAddress_of_absent (h : bag.get? key = none) : bag.embedAddress key = bag :=
  embedAddress_of_no_text fun text => by simp [h]

theorem get?_embedMask_of_ne (h : other ≠ "prefix") : bag.embedMask.get? other = bag.get? other := by
  rw [embedMask]
  split
  · rw [get?_set, if_neg h]
  · rfl

theorem get?_embedMask {mask : Int64} (h : (bag.get? "prefix").bind Value.toInt64? = some mask) :
    bag.embedMask.get? "prefix" = some (.int (.ofInt (mask.toInt + 96))) := by
  rw [embedMask, int64_eq_ok_iff.mpr h]
  rw [get?_set, if_pos rfl]

theorem flag_embedNetwork (bag : Bag) : bag.embedNetwork.flag "subnet" = bag.flag "subnet" := by
  rw [flag, embedNetwork, get?_embedMask_of_ne (by decide), get?_embedAddress_of_ne (by decide)]
  rfl

theorem Names.embedNetwork {n : Network .v4} (h : bag.Names n) : bag.embedNetwork.Names n.embedded := by
  obtain ⟨text, a, mask, htext, ha, hmask, low, high, h⟩ := h
  have bits : ((Family.v4.bits : Nat) : Int) = 32 := rfl
  have word : (Int64.ofInt (mask.toInt + 96)).toInt = mask.toInt + 96 :=
    toInt_ofInt (by simp only [least64, greatest64]; omega)
  have longer : (Int64.ofInt (mask.toInt + 96)).toInt.toNat = mask.toInt.toNat + 96 := by omega
  refine ⟨a.embedded.text, a.embedded, .ofInt (mask.toInt + 96), ?_, Address.read_text _, ?_, by omega,
    ?_, longer ▸ Network.holding_embedded h⟩
  · rw [Bag.embedNetwork, get?_embedMask_of_ne (by decide), get?_embedAddress htext ha]
  · rw [Bag.embedNetwork, get?_embedMask (by rwa [get?_embedAddress_of_ne (by decide)])]
    rfl
  · have : ((Family.v6.bits : Nat) : Int) = 128 := rfl
    omega

end Bag

/-- The same circumstances in IPv6. -/
def Snapshot.embedded (s : Snapshot) : Snapshot :=
  ⟨s.properties.embedNetwork, s.held.map Bag.embedNetwork, s.input.embedAddress "desiredValue"⟩

theorem AddressPool.wanted?_embedded {input : Bag} {wanted : Option (String × Address .v4)}
    (h : wanted? .v4 input = .ok wanted) :
    wanted? .v6 (input.embedAddress "desiredValue") =
      .ok (wanted.map fun w => (w.2.embedded.text, w.2.embedded)) := by
  cases wanted with
  | none =>
    have plain := wanted?_eq_none_iff.mp h
    exact wanted?_eq_none_iff.mpr (by rwa [Bag.embedAddress_of_absent plain])
  | some w =>
    obtain ⟨found, read⟩ := wanted?_eq_some_iff.mp h
    exact wanted?_eq_some_iff.mpr ⟨Bag.get?_embedAddress found read, Address.read_text _⟩

/-! ### Pools -/

theorem poolNetwork_embedded {properties : Bag} {n : Network .v4}
    (h : poolNetwork .v4 properties = .ok n) :
    poolNetwork .v6 properties.embedNetwork = .ok n.embedded :=
  poolNetwork_eq_ok_iff.mpr (poolNetwork_eq_ok_iff.mp h).embedNetwork

namespace NetworkPool

theorem map_heldNetwork_embedded {bags : List Bag} {nets : List (Network .v4)}
    (read : bags.map (heldNetwork .v4) = nets.map .ok) :
    (bags.map Bag.embedNetwork).map (heldNetwork .v6) = (nets.map Network.embedded).map .ok :=
  map_read_map read fun _ _ h => heldNetwork_eq_ok_iff.mpr (heldNetwork_eq_ok_iff.mp h).embedNetwork

/-- The pool of the same numbers. -/
def embedded (pool : NetworkPool .v4) : NetworkPool .v6 :=
  ⟨pool.network.embedded, pool.subnet, pool.held.map Network.embedded⟩

theorem ofSnapshot_embedded {s : Snapshot} {pool : NetworkPool .v4} (h : ofSnapshot .v4 s = .ok pool) :
    ofSnapshot .v6 s.embedded = .ok pool.embedded := by
  obtain ⟨nets, network, read, subnet, sorted⟩ := ofSnapshot_eq_ok_iff.mp h
  refine ofSnapshot_eq_ok_iff.mpr
    ⟨nets.map Network.embedded, poolNetwork_embedded network, map_heldNetwork_embedded read, ?_, ?_⟩
  · rw [Snapshot.embedded, Bag.flag_embedNetwork]
    exact subnet
  · rw [embedded, sorted, ← map_sortBy]
    simp only [Network.block_embedded]

theorem total_embedded (pool : NetworkPool .v4) : pool.embedded.total = pool.total := by
  rw [total_eq, total_eq, embedded, Network.block_embedded]

theorem utilized_embedded (pool : NetworkPool .v4) : pool.embedded.utilized = pool.utilized := by
  rw [utilized, embedded, List.foldr_map]
  simp only [Network.size_embedded]
  rfl

theorem free_embedded (pool : NetworkPool .v4) : pool.embedded.free = pool.free := by
  rw [free, total_embedded, utilized_embedded]
  rfl

end NetworkPool

namespace BlockKind
variable {s : Snapshot} {parent : Block} {held : List Block} {b : Block} {n : Int64}

theorem Opens.embedded (h : (network .v4).Opens s parent held) :
    (network .v6).Opens s.embedded parent held := by
  obtain ⟨root, nets, network, read, rfl, rfl⟩ := opens_network_iff.mp h
  refine opens_network_iff.mpr ⟨root.embedded, nets.map Network.embedded, poolNetwork_embedded network,
    NetworkPool.map_heldNetwork_embedded read, Network.block_embedded, ?_⟩
  rw [List.map_map]
  exact List.map_congr_left fun n _ => Network.block_embedded

theorem Opens.network_bounds {f : Family} (h : (network f).Opens s parent held) :
    0 ≤ parent.start ∧ parent.stop ≤ f.space ∧ ∀ b ∈ held, b.start ≤ f.space := by
  obtain ⟨root, nets, -, -, rfl, rfl⟩ := opens_network_iff.mp h
  refine ⟨Int.natCast_nonneg _, root.block_stop_le, fun b hb => ?_⟩
  obtain ⟨n, -, rfl⟩ := List.mem_map.mp hb
  exact Int.ofNat_le.mpr n.lt.le

theorem Chooses.bounds {kind : BlockKind} {limit : Int} (h : kind.Chooses s parent held b)
    (stop_le : parent.stop ≤ limit) (near : ∀ c ∈ held, c.start ≤ limit) :
    kind.alignment b.size ∣ b.start ∧ parent.start ≤ b.start ∧ b.stop ≤ limit := by
  obtain ⟨-, size, wanted, -, chosen⟩ := h
  refine chooseBlock_bounds (alignment_pos (size?_pos size)) stop_le (fun c hc => near c ?_) chosen
  rwa [List.map_id, (perm_sortBy ..).mem_iff] at hc

theorem Chooses.exists_network {f : Family} (h : (network f).Chooses s parent held b) :
    ∃ n : Network f, n.block = b := by
  obtain ⟨low, stop_le, near⟩ := h.opens.network_bounds
  obtain ⟨aligned, from_, upto⟩ := h.bounds stop_le near
  exact exists_block_eq h.size aligned (Int.le_trans low from_) upto

theorem size?_embedded {size : Int} (asked : s.input.get? "desiredSize" = some (.int n))
    (le : size ≤ Family.v4.space) :
    (network .v6).size? s.embedded.properties s.embedded.input = some size ↔
      (network .v4).size? s.properties s.input = some size := by
  have kept : s.embedded.input.get? "desiredSize" = some (.int n) := by
    rw [Snapshot.embedded, Bag.get?_embedAddress_of_ne (by decide), asked]
  have desired4 : NetworkPool.desiredSize .v4 s.input = .ok n.toInt := by
    rw [NetworkPool.desiredSize, Bag.int64_of_get? asked]
    rfl
  have desired6 : NetworkPool.desiredSize .v6 s.embedded.input = .ok n.toInt := by
    simp only [NetworkPool.desiredSize, Bag.integer, Bag.require, kept]
    rfl
  rw [size?_network_eq_some_iff_of_le (Int.le_trans le (by decide)), size?_network_eq_some_iff_of_le le,
    desired4, desired6]
  simp only [blockSize, Snapshot.embedded, Bag.flag_embedNetwork]

theorem wanted_embedded {input : Bag} {wanted : Option (String × Address .v4)}
    (h : AddressPool.wanted? .v4 input = .ok wanted) :
    (network .v6).wanted (input.embedAddress "desiredValue") = (network .v4).wanted input := by
  simp only [BlockKind.wanted, h, AddressPool.wanted?_embedded h, Except.map, Option.map_map]
  rfl

theorem chooses_embedded_iff {wanted : Option (String × Address .v4)}
    (opens : (network .v4).Opens s parent held)
    (size : s.input.get? "desiredSize" = some (.int n))
    (asked : AddressPool.wanted? .v4 s.input = .ok wanted) :
    (network .v6).Chooses s.embedded parent held b ↔ (network .v4).Chooses s parent held b := by
  obtain ⟨low, stop_le, near⟩ := opens.network_bounds
  -- What is chosen lies in the IPv4 space, so its size is one that IPv4 has a mask for.
  have small {kind : BlockKind} {s' : Snapshot} (h : kind.Chooses s' parent held b) :
      b.size ≤ Family.v4.space := by
    obtain ⟨-, from_, upto⟩ := h.bounds stop_le near
    dsimp only [Block.stop] at upto
    omega
  constructor
  · intro h
    obtain ⟨place, hplace, chosen⟩ := h.place
    rw [Snapshot.embedded, wanted_embedded asked] at hplace
    exact ⟨opens, (size?_embedded size (small h)).mp h.size, place, hplace, chosen⟩
  · intro h
    obtain ⟨place, hplace, chosen⟩ := h.place
    rw [← wanted_embedded asked] at hplace
    exact ⟨opens.embedded, (size?_embedded size (small h)).mpr h.size, place, hplace, chosen⟩

theorem Opens.exists_granted_embedded {wanted : Option (String × Address .v4)}
    (opens : (network .v4).Opens s parent held) (size : s.input.get? "desiredSize" = some (.int n))
    (asked : AddressPool.wanted? .v4 s.input = .ok wanted) (script : Option (List UInt64)) :
    ∃ granted : Option (Network .v4),
      (s.allocate (.network .v4) script).result.toOption =
        granted.map (·.resource (s.properties.flag "subnet")) ∧
      (s.embedded.allocate (.network .v6) script).result.toOption =
        granted.map (·.embedded.resource (s.properties.flag "subnet")) := by
  have same {b : Block} := @chooses_embedded_iff s parent held b n wanted opens size asked
  have flag : s.embedded.properties.flag "subnet" = s.properties.flag "subnet" := Bag.flag_embedNetwork _
  by_cases some : ∃ b, (network .v4).Chooses s parent held b
  · obtain ⟨b, chosen⟩ := some
    obtain ⟨m, rfl⟩ := chosen.exists_network
    have granted4 : (s.allocate (.network .v4) script).result = .ok (m.resource _) :=
      opens.allocate_eq_ok_iff.mpr ⟨m.block, chosen, resource_block m⟩
    have granted6 : (s.embedded.allocate (.network .v6) script).result = .ok (m.embedded.resource _) :=
      opens.embedded.allocate_eq_ok_iff.mpr
        ⟨m.block, same.mpr chosen, m.block_embedded ▸ resource_block m.embedded⟩
    rw [granted4, granted6, flag]
    exact ⟨m, rfl, rfl⟩
  · refine ⟨none, ?_, ?_⟩
    · refine Option.eq_none_iff_forall_ne_some.mpr fun bag h => some ?_
      obtain ⟨b, chosen, -⟩ := opens.allocate_eq_ok_iff.mp (toOption_eq_some_iff.mp h)
      exact ⟨b, chosen⟩
    · refine Option.eq_none_iff_forall_ne_some.mpr fun bag h => some ?_
      obtain ⟨b, chosen, -⟩ := opens.embedded.allocate_eq_ok_iff.mp (toOption_eq_some_iff.mp h)
      exact ⟨b, same.mp chosen⟩

end BlockKind

namespace NetworkPool

/-- A pool of IPv4 networks and the pool of the same numbers in IPv6 grant the same networks for requests
of the same size, and report the same room. -/
theorem ofSnapshot_embedded_agrees {s : Snapshot} {pool : NetworkPool .v4}
    (opened : ofSnapshot .v4 s = .ok pool) :
    (∀ (n : Int64) (wanted : Option (String × Address .v4)) (script : Option (List UInt64)),
      s.input.get? "desiredSize" = some (.int n) → AddressPool.wanted? .v4 s.input = .ok wanted →
      ∃ granted : Option (Network .v4),
        (s.allocate (.network .v4) script).result.toOption = granted.map (·.resource pool.subnet) ∧
        (s.embedded.allocate (.network .v6) script).result.toOption =
          granted.map (·.embedded.resource pool.subnet)) ∧
    ∃ pool' : NetworkPool .v6, ofSnapshot .v6 s.embedded = .ok pool' ∧ pool'.total = pool.total ∧
      pool'.utilized = pool.utilized ∧ pool'.free = pool.free := by
  constructor
  · intro n wanted script size asked
    obtain ⟨nets, network, read, subnet, -⟩ := ofSnapshot_eq_ok_iff.mp opened
    have opens : BlockKind.Opens (.network .v4) s pool.network.block (nets.map Network.block) :=
      BlockKind.opens_network_iff.mpr ⟨pool.network, nets, network, read, rfl, rfl⟩
    rw [subnet]
    exact opens.exists_granted_embedded size asked script
  · exact ⟨pool.embedded, ofSnapshot_embedded opened, total_embedded pool, utilized_embedded pool,
      free_embedded pool⟩

/-- A pool of 256 addresses with 64 held, asked for 60 at a place in its upper half. -/
def upperHalfWanted : Snapshot where
  properties := .ofList [("address", .text "10.0.0.0"), ("prefix", .int 24)]
  held := [.ofList [("address", .text "10.0.0.64"), ("prefix", .int 26)]]
  input := .ofList [("desiredSize", .int 60), ("desiredValue", .text "10.0.0.128")]

/-- The wanted place is granted in both families, and both count 64 of 256 addresses as utilized. -/
theorem ofSnapshot_embedded_agrees_upper_half :
    (∃ m : Network .v4, m.block = ⟨167772288, 64⟩ ∧
      (upperHalfWanted.allocate (.network .v4) none).result = .ok (m.resource false) ∧
      (upperHalfWanted.embedded.allocate (.network .v6) none).result = .ok (m.embedded.resource false)) ∧
    ∃ pool : NetworkPool .v6, ofSnapshot .v6 upperHalfWanted.embedded = .ok pool ∧ pool.total = 256 ∧
      pool.utilized = 64 ∧ pool.free = 192 := by
  let root : Network .v4 := ⟨167772160, 24, by decide, by decide, by decide⟩
  let taken : Network .v4 := ⟨167772224, 26, by decide, by decide, by decide⟩
  let upper : Network .v4 := ⟨167772288, 26, by decide, by decide, by decide⟩
  have opened : ofSnapshot .v4 upperHalfWanted = .ok ⟨root, false, [taken]⟩ := rfl
  have asked : AddressPool.wanted? .v4 upperHalfWanted.input = .ok (some ("10.0.0.128", upper.first)) := rfl
  have granted4 : (upperHalfWanted.allocate (.network .v4) none).result = .ok (upper.resource false) := rfl
  obtain ⟨grants, pool, opened6, room⟩ := ofSnapshot_embedded_agrees opened
  refine ⟨⟨upper, rfl, granted4, ?_⟩, pool, opened6, room⟩
  obtain ⟨granted, same4, same6⟩ := grants 60 _ none rfl asked
  rw [granted4] at same4
  obtain ⟨m, rfl, same⟩ := Option.map_eq_some_iff.mp same4.symm
  have read := Network.heldNetwork_resource m false
  rw [show m.resource false = upper.resource false from same, Network.heldNetwork_resource] at read
  cases read
  exact toOption_eq_some_iff.mp same6

end NetworkPool
end ResourcePool
