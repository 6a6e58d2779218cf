import ResourcePool.Proofs.Block.NextFree
import ResourcePool.Proofs.Pool.Agreement
import ResourcePool.Proofs.Pool.LeastFit
import ResourcePool.Proofs.Pool.Wanted

/-! Claims for an address that no network of the needed size begins at. Such a claim is pointed to the least
place from its own network on where a network of that size is vacant. In a pool with room for one there the
place is the least one in the pool, and asking for it is granted. In a pool that is full up to the end of the
address space it is the end of that space, which is no address: the two families then answer differently, and
neither names a network. -/

namespace ResourcePool

/-! ### The place that is named -/

/-- The refusal of a claim that is pointed past the last address. -/
def pastTheEnd : Family → Error
  | .v4 => .misaligned "255.255.255.255"
  | .v6 => .ipv6Shape "340282366920938463463374607431768211456"

/-- The refusal of a claim that is pointed to a place. -/
def pointedTo (f : Family) (place : Int) : Except Error Bag :=
  (Address.ofInt f place).bind fun expected => .error (.misaligned expected.text)

theorem pointedTo_space (f : Family) : pointedTo f f.space = .error (pastTheEnd f) := by
  cases f <;> rfl

theorem pointedTo_start {f : Family} (m : Network f) :
    pointedTo f m.start = .error (.misaligned m.first.text) := by
  have address : Address.ofInt f m.start = .ok m.first := Address.ofInt_value m.first
  rw [pointedTo, address]
  rfl

theorem NetworkPool.refuse_misaligned {f : Family} (pool : NetworkPool f) (n : Int) (desired : String)
    (next : Int) : (pool.refuse n desired (.misaligned next)).result = pointedTo f next := by
  simp only [refuse, Logged.result_bind, Logged.result_record, Logged.result_lift, Logged.result_fail]
  rfl

section Place
variable {f : Family} {B : Nat} {place : Int}

theorem pos_of_power (power : ∃ k, B = Nat.pow 2 k) : 0 < (B : Int) := by
  obtain ⟨k, rfl⟩ := power
  exact Int.ofNat_lt.mpr (Nat.two_pow_pos k)

/-- A power of two that the space has room for divides it. -/
theorem Family.dvd_space (power : ∃ k, B = Nat.pow 2 k) (le : B ≤ f.space) : (B : Int) ∣ f.space := by
  obtain ⟨k, rfl⟩ := power
  exact Int.natCast_dvd_natCast.mpr (two_pow_dvd_of_le le)

/-- At every aligned place below the end of the space a network begins. -/
theorem Network.exists_block_eq_of_lt (power : ∃ k, B = Nat.pow 2 k) (le : B ≤ f.space)
    (natural : 0 ≤ place) (aligned : (B : Int) ∣ place) (lt : place < f.space) :
    ∃ m : Network f, m.block = ⟨place, B⟩ := by
  have room : (B : Int) ≤ f.space - place :=
    Int.le_of_dvd (by omega) (Int.dvd_sub (Family.dvd_space power le) aligned)
  obtain ⟨k, rfl⟩ := power
  have short : k ≤ f.bits := two_pow_le_iff.mp le
  have same : f.addresses (f.bits - k) = Nat.pow 2 k := by
    rw [Family.addresses, Nat.sub_sub_self short]
  obtain ⟨m, -, hm⟩ := exists_block_eq (Nat.sub_le ..) natural (same ▸ aligned) (by rw [same]; omega)
  exact ⟨m, by rw [hm, same]⟩

/-- A place at which a network begins is told by its first address. -/
theorem exists_pointedTo_eq (power : ∃ k, B = Nat.pow 2 k) (le : B ≤ f.space) (natural : 0 ≤ place)
    (aligned : (B : Int) ∣ place) (lt : place < f.space) :
    ∃ m : Network f, m.block = ⟨place, B⟩ ∧ pointedTo f place = .error (.misaligned m.first.text) := by
  obtain ⟨m, hm⟩ := Network.exists_block_eq_of_lt power le natural aligned lt
  obtain rfl : (m.start : Int) = place := congrArg Block.start hm
  exact ⟨m, hm, pointedTo_start m⟩

/-- Where the network of a size begins that an address falls into. -/
def Address.networkStart (a : Address f) (size : Nat) : Int := a.value - a.value % size

theorem Address.dvd_networkStart (a : Address f) (size : Nat) : (size : Int) ∣ a.networkStart size :=
  Int.dvd_self_sub_emod

theorem Address.networkStart_bounds (a : Address f) (size : Nat) :
    0 ≤ a.networkStart size ∧ a.networkStart size ≤ a.value := by
  have rest : (a.value : Int) % size = (a.value % size : Nat) := (Int.natCast_emod ..).symm
  have := Nat.mod_le a.value size
  rw [networkStart, rest]
  omega

theorem Network.bounds_of_contains {root : Network f} {size : Int} (h : root.block.Contains ⟨place, size⟩) :
    0 ≤ place ∧ size ≤ root.size ∧ place + size ≤ f.space := by
  obtain ⟨low, high⟩ := h
  have := root.block_stop_le
  dsimp only [Block.stop, Network.block] at *
  omega

/-- In a pool with room for the size, networks of that size do not reach across its start. -/
theorem Network.le_networkStart {root : Network f} {a : Address f} (power : ∃ k, B = Nat.pow 2 k)
    (le : B ≤ root.size) (within : (a.value : Int) ∈ root.block) :
    root.block.start ≤ a.networkStart B := by
  have filled := pos_of_power power
  have aligned : (B : Int) ∣ root.block.start := by
    obtain ⟨k, rfl⟩ := power
    exact Int.natCast_dvd_natCast.mpr (Nat.dvd_trans (two_pow_dvd_of_le le) root.aligned)
  obtain ⟨low, -⟩ := Block.mem_iff.mp within
  have rest := Int.emod_lt_of_pos a.value filled
  have step : (B : Int) ∣ a.networkStart B + B - root.block.start :=
    Int.dvd_sub (Int.dvd_add (a.dvd_networkStart B) (Int.dvd_refl _)) aligned
  have := Int.le_of_dvd (by rw [Address.networkStart]; omega) step
  omega

end Place

/-! ### Misaligned claims -/

section Misaligned
variable {f : Family} {s : Snapshot} {root : Network f} {nets : List (Network f)} {n : Int} {B : Nat}
  {text : String} {a : Address f}
  (pool : poolNetwork f s.properties = .ok root)
  (read : s.held.map (NetworkPool.heldNetwork f) = nets.map .ok)
  (apart : (nets.map Network.block).Pairwise Block.Apart)
  (inside : ∀ m ∈ nets, root.block.Contains m.block)
  (size : NetworkPool.desiredSize f s.input = .ok n) (large : 2 ≤ n)
  (least : IsLeast {b : Nat | (∃ k, b = Nat.pow 2 k) ∧
    (if s.properties.flag "subnet" then n + 2 else n) ≤ b} B)
  (asked : AddressPool.wanted? f s.input = .ok (some (text, a))) (broken : ¬B ∣ a.value)

include pool read apart inside size large least in
/-- A network of the needed size that is free in the pool is granted to whoever asks for its first address. -/
theorem allocate_network_of_free {m : Network f} (sized : m.size = B)
    (contains : root.block.Contains ⟨m.start, B⟩)
    (free : ∀ b ∈ nets.map Network.block, b.Apart ⟨m.start, B⟩) (script : Option (List UInt64)) :
    (Snapshot.allocate { s with input := s.input.set "desiredValue" (.text m.first.text) }
      (.network f) script).result = .ok (m.resource (s.properties.flag "subnet")) := by
  subst sized
  -- This claim differs from that of the snapshot in the wanted address alone.
  let again : Snapshot := { s with input := s.input.set "desiredValue" (.text m.first.text) }
  have opens : BlockKind.Opens (.network f) again root.block (nets.map Network.block) :=
    BlockKind.opens_network_iff.mpr ⟨root, nets, pool, read, rfl, rfl⟩
  have sized : BlockKind.size? (.network f) again.properties again.input = some (m.size : Int) := by
    have short : m.size ≤ f.space := Nat.le_trans (Nat.le_add_left ..) m.stop_le
    obtain ⟨mask, hmask, same⟩ := Family.exists_maskFor_of_least least short
    rw [BlockKind.size?_set_desiredValue]
    exact BlockKind.size?_network_eq_some_iff.mpr ⟨n, mask, size, large, hmask, congrArg Nat.cast same⟩
  have aligned : (m.size : Int) ∣ m.start := Int.natCast_dvd_natCast.mpr m.aligned
  have wanted : BlockKind.wanted (.network f) again.input = .ok (some (m.start : Int)) :=
    BlockKind.wanted_network_eq_some_iff.mpr ⟨m.first.text, m.first,
      AddressPool.wanted?_eq_some_iff.mpr ⟨by simp [again], Address.read_text _⟩, rfl⟩
  have clear : ∀ b ∈ nets.map Network.block, ¬b.Overlaps ⟨m.start, m.size⟩ := fun b hb =>
    (Block.apart_iff_not_overlaps ((Network.packed_blocks apart inside).filled b hb)
      (BlockKind.size?_pos sized)).mp (free b hb)
  obtain ⟨bag, granted, written, -⟩ := opens.exists_granted sized wanted aligned contains clear script
  exact granted.trans (written.symm.trans (BlockKind.resource_block m))

include pool read apart inside size large least asked broken

theorem exists_allocate_eq_pointedTo (le : B ≤ f.space) (script : Option (List UInt64)) :
    ∃ next : Int, IsLeast {q | Vacant (a.networkStart B) (nets.map Network.block) B B q} next ∧
      (s.allocate (.network f) script).result = pointedTo f next := by
  have filled := pos_of_power least.1.1
  have first := nextFreeAfter_isLeast (Network.packed_blocks apart inside) (Int.natCast_nonneg root.start)
    (a.dvd_networkStart B) filled filled
  refine ⟨_, first, ?_⟩
  obtain ⟨mask, hmask, rfl⟩ := Family.exists_maskFor_of_least least le
  have unaligned : ¬(f.addresses mask : Int) ∣ a.value := fun dvd => broken (Int.natCast_dvd_natCast.mp dvd)
  rw [BlockKind.allocate_network_of_refused pool read size large hmask asked
    (chooseBlock_eq_misaligned unaligned), NetworkPool.refuse_misaligned, map_sortBy]
  rfl

/-- A misaligned claim is pointed to the least vacant place from its own network on. If that is an address,
the claim is told the network that begins there; if not, it is the end of the address space. -/
theorem allocate_misaligned_vacant (le : B ≤ f.space) (script : Option (List UInt64)) :
    ∃ next : Int, IsLeast {q | Vacant (a.networkStart B) (nets.map Network.block) B B q} next ∧
      next ≤ f.space ∧
      (next < f.space → ∃ m : Network f, m.block = ⟨next, B⟩ ∧
        (s.allocate (.network f) script).result = .error (.misaligned m.first.text)) ∧
      (next = f.space → (s.allocate (.network f) script).result = .error (pastTheEnd f)) := by
  have power := least.1.1
  obtain ⟨natural, below⟩ := a.networkStart_bounds B
  obtain ⟨next, first, pointed⟩ := exists_allocate_eq_pointedTo pool read apart inside size large least asked
    broken le script
  refine ⟨next, first, first.2 ?_, fun lt => ?_, fun top => ?_⟩
  · -- Behind the pool, and so at the end of the space, every place is vacant.
    have := a.lt
    exact (Network.packed_blocks apart inside).vacant (Family.dvd_space power le) (by omega)
      root.block_stop_le
  · obtain ⟨m, hm, told⟩ := exists_pointedTo_eq power le (Int.le_trans natural first.1.after)
      first.1.aligned lt
    exact ⟨m, hm, pointed.trans told⟩
  · rw [pointed, top, pointedTo_space]

/-- In a pool with room from the network of the wanted address on, the claim is told the least network that
fits there, and is granted it when it asks for it. -/
theorem allocate_misaligned_room (within : (a.value : Int) ∈ root.block)
    (room : ∃ q, Fits root.block (nets.map Network.block) B B q ∧ a.networkStart B ≤ q)
    (script : Option (List UInt64)) :
    ∃ m : Network f, m.size = B ∧
      IsLeast {q | Fits root.block (nets.map Network.block) B B q ∧ a.networkStart B ≤ q} m.start ∧
      (s.allocate (.network f) script).result = .error (.misaligned m.first.text) ∧
      ∀ script, (Snapshot.allocate { s with input := s.input.set "desiredValue" (.text m.first.text) }
        (.network f) script).result = .ok (m.resource (s.properties.flag "subnet")) := by
  obtain ⟨q, fits, after⟩ := room
  have power := least.1.1
  have filled := pos_of_power power
  obtain ⟨low, roomy, high⟩ := Network.bounds_of_contains fits.inside
  have le : B ≤ f.space := by omega
  obtain ⟨next, vacant, pointed⟩ := exists_allocate_eq_pointedTo pool read apart inside size large least
    asked broken le script
  have first := Vacant.isLeast_fits vacant (Network.le_networkStart power (Int.ofNat_le.mp roomy) within)
    ⟨q, fits, after⟩
  obtain ⟨aligned, contains, free⟩ := first.1.1
  obtain ⟨natural, -, below⟩ := Network.bounds_of_contains contains
  obtain ⟨m, hm, told⟩ := exists_pointedTo_eq power le natural aligned (by omega)
  obtain rfl : (m.start : Int) = next := congrArg Block.start hm
  obtain rfl : m.size = B := Int.ofNat_inj.mp (congrArg Block.size hm)
  exact ⟨m, rfl, first, pointed.trans told, fun script =>
    allocate_network_of_free pool read apart inside size large least rfl contains free script⟩

end Misaligned

/-! ### Misaligned claims beside held networks and at the end of the space -/

/-- A pool whose first sixteen addresses and whose second thirty-two are held. The wanted address lies among
the latter. -/
def amongHeld : Snapshot where
  properties := .ofList [("address", .text "10.0.0.0"), ("prefix", .int 24)]
  held := [.ofList [("address", .text "10.0.0.32"), ("prefix", .int 27)],
    .ofList [("address", .text "10.0.0.0"), ("prefix", .int 28)]]
  input := .ofList [("desiredSize", .int 10), ("desiredValue", .text "10.0.0.37")]

theorem allocate_misaligned_room_among_held :
    ∃ m : Network .v4, m.size = 16 ∧
      IsLeast {q | Fits ⟨167772160, 256⟩ [⟨167772192, 32⟩, ⟨167772160, 16⟩] 16 16 q ∧ 167772192 ≤ q}
        m.start ∧
      (amongHeld.allocate (.network .v4) none).result = .error (.misaligned m.first.text) ∧
      ∀ script, (Snapshot.allocate
        { amongHeld with input := amongHeld.input.set "desiredValue" (.text m.first.text) }
        (.network .v4) script).result = .ok (m.resource false) := by
  let root : Network .v4 := ⟨167772160, 24, by decide, by decide, by decide⟩
  let second : Network .v4 := ⟨167772192, 27, by decide, by decide, by decide⟩
  let first : Network .v4 := ⟨167772160, 28, by decide, by decide, by decide⟩
  let a : Address .v4 := ⟨167772197, by decide⟩
  have pool : poolNetwork .v4 amongHeld.properties = .ok root := rfl
  have read : amongHeld.held.map (NetworkPool.heldNetwork .v4) = [second, first].map .ok := rfl
  have apart : ([second, first].map Network.block).Pairwise Block.Apart :=
    List.pairwise_pair.mpr (Block.apart_of_not_overlaps (by decide))
  have size : NetworkPool.desiredSize .v4 amongHeld.input = .ok 10 := rfl
  have asked : AddressPool.wanted? .v4 amongHeld.input = .ok (some ("10.0.0.37", a)) := rfl
  have room : Fits root.block ([second, first].map Network.block) 16 16 167772224 := by
    refine ⟨by decide, by decide, fun b hb => Block.apart_of_not_overlaps ?_⟩
    revert b
    decide
  have least : IsLeast {b : Nat | (∃ k, b = Nat.pow 2 k) ∧
      (if amongHeld.properties.flag "subnet" then (10 : Int) + 2 else 10) ≤ b} 16 :=
    isLeast_two_pow_ceilLog2 10
  have start : a.networkStart 16 = 167772192 := by decide
  have told := allocate_misaligned_room pool read apart (by decide) size (by decide) least asked (by decide)
    (Block.mem_iff.mpr (by decide)) ⟨_, room, by decide⟩ none
  rw [start] at told
  exact told

/-- The last addresses of a family, the very last sixteen of which are held. The wanted address lies among
these. -/
def upToTheEnd : Family → Snapshot
  | .v4 =>
    { properties := .ofList [("address", .text "255.255.255.0"), ("prefix", .int 24)]
      held := [.ofList [("address", .text "255.255.255.240"), ("prefix", .int 28)]]
      input := .ofList [("desiredSize", .int 16), ("desiredValue", .text "255.255.255.241")] }
  | .v6 =>
    { properties := .ofList [("address", .text "ffff:ffff:ffff:ffff:ffff:ffff:ffff:ff00"), ("prefix", .int 120)]
      held := [.ofList [("address", .text "ffff:ffff:ffff:ffff:ffff:ffff:ffff:fff0"), ("prefix", .int 124)]]
      input := .ofList [("desiredSize", .int 16),
        ("desiredValue", .text "ffff:ffff:ffff:ffff:ffff:ffff:ffff:fff1")] }

/-- From the held network on nothing is vacant before the end of the space. -/
theorem allocate_misaligned_vacant_up_to_the_end :
    IsLeast {q | Vacant 340282366920938463463374607431768211440
        [⟨340282366920938463463374607431768211440, 16⟩] 16 16 q} 340282366920938463463374607431768211456 ∧
      ((upToTheEnd .v6).allocate (.network .v6) none).result = .error (pastTheEnd .v6) := by
  let root : Network .v6 := ⟨340282366920938463463374607431768211200, 120, by decide, by decide, by decide⟩
  let last : Network .v6 := ⟨340282366920938463463374607431768211440, 124, by decide, by decide, by decide⟩
  let a : Address .v6 := ⟨340282366920938463463374607431768211441, by decide⟩
  have pool : poolNetwork .v6 (upToTheEnd .v6).properties = .ok root := rfl
  have read : (upToTheEnd .v6).held.map (NetworkPool.heldNetwork .v6) = [last].map .ok := rfl
  have size : NetworkPool.desiredSize .v6 (upToTheEnd .v6).input = .ok 16 := rfl
  have least : IsLeast {b : Nat | (∃ k, b = Nat.pow 2 k) ∧
      (if (upToTheEnd .v6).properties.flag "subnet" then (16 : Int) + 2 else 16) ≤ b} 16 :=
    isLeast_two_pow_ceilLog2 16
  have asked : AddressPool.wanted? .v6 (upToTheEnd .v6).input =
      .ok (some ("ffff:ffff:ffff:ffff:ffff:ffff:ffff:fff1", a)) := rfl
  have start : a.networkStart 16 = 340282366920938463463374607431768211440 := by decide
  obtain ⟨next, first, high, -, told⟩ := allocate_misaligned_vacant pool read (List.pairwise_singleton _ _)
    (by decide) size (by decide) least asked (by decide) (by decide) none
  rw [start] at first
  obtain rfl : next = 340282366920938463463374607431768211456 := by
    obtain ⟨⟨⟨k, multiple⟩, after, free⟩, -⟩ := first
    have high : next ≤ 340282366920938463463374607431768211456 := high
    have apart := free ⟨340282366920938463463374607431768211440, 16⟩ (List.mem_singleton_self _)
      340282366920938463463374607431768211440 (Block.mem_iff.mpr (by decide))
    rw [Block.mem_iff, Block.stop] at apart
    dsimp only at apart
    omega
  exact ⟨first, told rfl⟩

/-- In a pool that is full up to the end of the space a claim is told an address at which no network of the
needed size begins. -/
theorem misaligned_names_no_network :
    BlockKind.Opens (.network .v4) (upToTheEnd .v4) ⟨4294967040, 256⟩ [⟨4294967280, 16⟩] ∧
      Block.Contains ⟨4294967040, 256⟩ ⟨4294967280, 16⟩ ∧
      BlockKind.size? (.network .v4) (upToTheEnd .v4).properties (upToTheEnd .v4).input = some 16 ∧
      BlockKind.wanted (.network .v4) (upToTheEnd .v4).input = .ok (some 4294967281) ∧
      ¬(16 : Int) ∣ 4294967281 ∧
      ((upToTheEnd .v4).allocate (.network .v4) none).result = .error (.misaligned "255.255.255.255") ∧
      Address.read .v4 "255.255.255.255" = .ok (Address.last .v4) ∧ ¬16 ∣ (Address.last .v4).value :=
  ⟨⟨rfl, rfl⟩, by decide, rfl, rfl, by decide, rfl, rfl, by decide⟩

end ResourcePool
