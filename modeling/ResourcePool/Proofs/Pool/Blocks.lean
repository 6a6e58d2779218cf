import ResourcePool.Proofs.Pool.BlockKind
import ResourcePool.Proofs.Pool.Call

/-! Claims in pools of blocks come down to the choice of a block. In a pool of networks a valid request
finds its mask or no room at all: the smallest networks of a pool of subnets are never refused for want
of hosts, since no request is met with one. -/

namespace ResourcePool

/-! ### Networks -/

namespace NetworkPool
variable {f : Family}

theorem ofSnapshot_eq_ok_iff {s : Snapshot} {pool : NetworkPool f} :
    ofSnapshot f s = .ok pool ↔
      ∃ held, poolNetwork f s.properties = .ok pool.network ∧
        s.held.map (heldNetwork f) = held.map .ok ∧ pool.subnet = s.properties.flag "subnet" ∧
        pool.held = sortBy (fun n => n.block.stop) held := by
  obtain ⟨network, subnet, sorted⟩ := pool
  constructor
  · intro h
    obtain ⟨_, network, h⟩ := bind_eq_ok_iff.mp h
    obtain ⟨held, read, h⟩ := bind_eq_ok_iff.mp h
    cases h
    exact ⟨held, network, Snapshot.ofHeld_eq_ok_iff.mp read, rfl, rfl⟩
  · rintro ⟨held, network, read, rfl, rfl⟩
    exact bind_eq_ok_iff.mpr ⟨_, network, bind_eq_ok_iff.mpr
      ⟨held, Snapshot.ofHeld_eq_ok_iff.mpr read, rfl⟩⟩

theorem requested_eq_ok_iff {pool : NetworkPool f} {input : Bag} {n : Int} :
    pool.requested input = .ok n ↔ desiredSize f input = .ok n ∧ 2 ≤ n := by
  constructor
  · intro h
    obtain ⟨m, hm, h⟩ := bind_eq_ok_iff.mp h
    split at h
    case isTrue => cases h
    case isFalse large =>
      cases h
      exact ⟨hm, by omega⟩
  · rintro ⟨hn, large⟩
    refine bind_eq_ok_iff.mpr ⟨n, hn, ?_⟩
    rw [if_neg (by omega)]

/-- For a request of two or more the mask is never refused for want of hosts. -/
theorem maskFor_result {pool : NetworkPool f} {n : Int} (large : 2 ≤ n) :
    (pool.maskFor n).result =
      match f.maskFor (pool.needed n) with
      | none => (pool.exhausted n : Logged Nat).result
      | some mask => .ok mask := by
  unfold maskFor
  cases hmask : f.maskFor (pool.needed n) with
  | none => rfl
  | some mask =>
    -- With the two addresses kept back a valid request is for four or more.
    have roomy : ¬(pool.subnet ∧ f.bits ≤ mask + 1) := by
      rintro ⟨subnet, short⟩
      rw [needed, if_pos subnet] at hmask
      have := Family.mask_lt_of_maskFor hmask (by omega)
      omega
    simp only [if_neg roomy, Logged.result_pure]

theorem refuse_ne_ok (pool : NetworkPool f) (n : Int) (desired : String) (why : NoBlock (Network f))
    (bag : Bag) : (pool.refuse n desired why).result ≠ .ok bag := by
  cases why with
  | misaligned next =>
    simp only [refuse, Logged.result_bind, Logged.result_lift, Logged.result_record,
      Logged.result_fail, ne_eq, bind_eq_ok_iff]
    rintro ⟨-, -, expected, -, h⟩
    cases h
  | outside => rintro ⟨⟩
  | overlaps holder => rintro ⟨⟩
  | exhausted => rintro ⟨⟩

/-- A claim is answered with a network exactly when its size is valid and a place is chosen. -/
theorem allocate_eq_ok_iff {pool : NetworkPool f} {input bag : Bag} :
    (pool.allocate input).result = .ok bag ↔
      ∃ n mask wanted start, desiredSize f input = .ok n ∧ 2 ≤ n ∧
        f.maskFor (pool.needed n) = some mask ∧ AddressPool.wanted? f input = .ok wanted ∧
        chooseBlock pool.network.block pool.held Network.block (f.addresses mask) (f.addresses mask)
          (wanted.map fun w => w.2.value) = .ok start ∧
        (pool.grant start mask).result = .ok bag := by
  simp only [allocate, Logged.result_bind, Logged.result_lift, Logged.result_record, bind_eq_ok_iff,
    requested_eq_ok_iff]
  constructor
  · rintro ⟨n, ⟨hn, large⟩, mask, hmask, -, -, wanted, hwanted, h⟩
    rw [maskFor_result large] at hmask
    split at hmask
    case h_1 => cases hmask
    case h_2 found =>
      cases hmask
      split at h
      case h_1 start chosen => exact ⟨n, mask, wanted, start, hn, large, found, hwanted, chosen, h⟩
      case h_2 why refused =>
        exact absurd h (refuse_ne_ok pool n _ why bag)
  · rintro ⟨n, mask, wanted, start, hn, large, hmask, hwanted, chosen, h⟩
    refine ⟨n, ⟨hn, large⟩, mask, ?_, (), trivial, wanted, hwanted, ?_⟩
    · rw [maskFor_result large, hmask]
    · rw [chosen]
      exact h

/-- A valid request for which no block is chosen is refused for the reason of the choice. -/
theorem allocate_of_refused {pool : NetworkPool f} {input : Bag} {n : Int} {mask : Nat}
    {wanted : Option (String × Address f)} {desired : String} {why : NoBlock (Network f)}
    (size : desiredSize f input = .ok n) (large : 2 ≤ n) (hmask : f.maskFor (pool.needed n) = some mask)
    (asked : AddressPool.wanted? f input = .ok wanted) (named : (wanted.map Prod.fst).getD "" = desired)
    (refused : chooseBlock pool.network.block pool.held Network.block (f.addresses mask)
      (f.addresses mask) (wanted.map fun w => w.2.value) = .error why) :
    (pool.allocate input).result = (pool.refuse n s!"{desired}/{mask}" why).result := by
  have sized : pool.requested input = .ok n := requested_eq_ok_iff.mpr ⟨size, large⟩
  simp only [allocate, Logged.result_bind, Logged.result_lift, Logged.result_record, sized, Except.bind,
    maskFor_result large, hmask, asked, named, refused]

theorem allocate_exhausted {pool : NetworkPool f} {input : Bag} {n : Int}
    (size : desiredSize f input = .ok n) (large : 2 ≤ n) (plain : AddressPool.wanted? f input = .ok none)
    (full : ∀ mask, f.maskFor (pool.needed n) = some mask →
      firstFit pool.network.block (pool.held.map Network.block) (f.addresses mask) (f.addresses mask) =
        none) :
    ∃ e, (pool.allocate input).result = .error e ∧ e.isExhausted = true := by
  cases hmask : f.maskFor (pool.needed n) with
  | none =>
    have sized : pool.requested input = .ok n := requested_eq_ok_iff.mpr ⟨size, large⟩
    simp only [allocate, Logged.result_bind, Logged.result_lift, sized, Except.bind,
      maskFor_result large, hmask]
    exact ⟨_, rfl, rfl⟩
  | some mask =>
    rw [allocate_of_refused size large hmask plain rfl (chooseBlock_of_full (full mask hmask))]
    exact ⟨_, rfl, rfl⟩

theorem grant_result (pool : NetworkPool f) (start : Int) {mask : Nat} (le : mask ≤ f.bits) :
    (pool.grant start mask).result =
      (Address.ofInt f start).map fun address =>
        ((Bag.empty.set "address" (.text address.text)).set "prefix"
          (.int (.ofNat (f.bits - (f.addresses mask).log2)))).set "subnet" (.bool pool.subnet) := by
  rw [Family.bits_sub_log2_addresses le]
  simp only [grant, Logged.result_bind, Logged.result_lift, Logged.result_record,
    Logged.result_recordAll, Logged.result_pure]
  cases Address.ofInt f start <;> rfl

end NetworkPool

/-- A network is granted exactly when a block is chosen that can be written down. -/
theorem BlockKind.allocate_network_eq_ok_iff {f : Family} {s : Snapshot} {script : Option (List UInt64)}
    {bag : Bag} :
    (s.allocate (.network f) script).result = .ok bag ↔
      ∃ parent held b, Chooses (network f) s parent held b ∧
        resource (network f) s.properties b = .ok bag := by
  simp only [Snapshot.allocate_network, bind_eq_ok_iff, NetworkPool.allocate_eq_ok_iff,
    NetworkPool.ofSnapshot_eq_ok_iff]
  constructor
  · rintro ⟨⟨root, _, _⟩, ⟨nets, hroot, hnets, rfl, rfl⟩, n, mask, wanted, start, hn, large, hmask,
      hwanted, chosen, grant⟩
    rw [chooseBlock_eq_ok_iff_map, map_sortBy] at chosen
    rw [NetworkPool.grant_result _ _ (Family.mask_le_of_maskFor hmask)] at grant
    exact ⟨root.block, nets.map Network.block, ⟨start, f.addresses mask⟩,
      ⟨opens_network_iff.mpr ⟨root, nets, hroot, hnets, rfl, rfl⟩,
        size?_network_eq_some_iff.mpr ⟨n, mask, hn, large, hmask, rfl⟩, _,
        map_eq_ok_iff.mpr ⟨wanted, hwanted, rfl⟩, chosen⟩, grant⟩
  · rintro ⟨_, _, ⟨start, _⟩, ⟨opens, size, _, asked, chosen⟩, written⟩
    obtain ⟨root, nets, hroot, hnets, rfl, rfl⟩ := opens_network_iff.mp opens
    obtain ⟨n, mask, hn, large, hmask, rfl⟩ := size?_network_eq_some_iff.mp size
    obtain ⟨wanted, hwanted, rfl⟩ := map_eq_ok_iff.mp asked
    refine ⟨⟨root, s.properties.flag "subnet", sortBy (fun n => n.block.stop) nets⟩,
      ⟨nets, hroot, hnets, rfl, rfl⟩, n, mask, wanted, start, hn, large, hmask, hwanted, ?_, ?_⟩
    · rw [chooseBlock_eq_ok_iff_map, map_sortBy]
      exact chosen
    · rw [NetworkPool.grant_result _ _ (Family.mask_le_of_maskFor hmask)]
      exact written

/-! ### VLAN ranges -/

namespace VlanRangePool

theorem ofSnapshot_eq_ok_iff {s : Snapshot} {pool : VlanRangePool} :
    ofSnapshot s = .ok pool ↔
      ∃ held, BlockKind.vlanRange.range s.properties = .ok pool.parent ∧
        s.held.map heldBlock = held.map .ok ∧ pool.held = sortBy Block.stop held := by
  obtain ⟨parent, sorted⟩ := pool
  constructor
  · intro h
    obtain ⟨first, hfirst, h⟩ := bind_eq_ok_iff.mp h
    obtain ⟨last, hlast, h⟩ := bind_eq_ok_iff.mp h
    obtain ⟨held, read, h⟩ := bind_eq_ok_iff.mp h
    cases h
    refine ⟨held, ?_, Snapshot.ofHeld_eq_ok_iff.mp read, rfl⟩
    exact bind_eq_ok_iff.mpr ⟨first, hfirst, map_eq_ok_iff.mpr ⟨last, hlast, rfl⟩⟩
  · rintro ⟨held, range, read, rfl⟩
    obtain ⟨first, hfirst, range⟩ := bind_eq_ok_iff.mp range
    obtain ⟨last, hlast, rfl⟩ := map_eq_ok_iff.mp range
    exact bind_eq_ok_iff.mpr ⟨first, hfirst, bind_eq_ok_iff.mpr ⟨last, hlast, bind_eq_ok_iff.mpr
      ⟨held, Snapshot.ofHeld_eq_ok_iff.mpr read, rfl⟩⟩⟩

theorem requested_eq_ok_iff {pool : VlanRangePool} {input : Bag} {n : Int} :
    pool.requested input = .ok n ↔
      ∃ size, input.int64 "desiredSize" .input = .ok size ∧ 1 ≤ n ∧ size.toInt = n := by
  constructor
  · intro h
    obtain ⟨size, hsize, h⟩ := bind_eq_ok_iff.mp h
    split at h
    case isTrue => cases h
    case isFalse large =>
      cases h
      exact ⟨size, hsize, by omega, rfl⟩
  · rintro ⟨size, hsize, large, rfl⟩
    refine bind_eq_ok_iff.mpr ⟨size, hsize, ?_⟩
    rw [if_neg (by omega)]

theorem refuse_ne_ok (pool : VlanRangePool) (n : Int) (desired : String) (why : NoBlock Block)
    (bag : Bag) : (pool.refuse n desired why).result ≠ .ok bag := by
  cases why <;> rintro ⟨⟩

/-- A claim is answered with a range exactly when its size is valid and a place is chosen. -/
theorem allocate_eq_ok_iff {pool : VlanRangePool} {input bag : Bag} :
    (pool.allocate input).result = .ok bag ↔
      ∃ n wanted start, pool.requested input = .ok n ∧ VlanPool.wanted? input = .ok wanted ∧
        chooseBlock pool.parent pool.held id n 1 (wanted.map Int64.toInt) = .ok start ∧
        (pool.grant ⟨start, n⟩).result = .ok bag := by
  simp only [allocate, Logged.result_bind, Logged.result_lift, Logged.result_record, bind_eq_ok_iff]
  constructor
  · rintro ⟨n, hn, -, -, wanted, hwanted, h⟩
    split at h
    case h_1 start chosen => exact ⟨n, wanted, start, hn, hwanted, chosen, h⟩
    case h_2 why refused => exact absurd h (refuse_ne_ok pool n _ why bag)
  · rintro ⟨n, wanted, start, hn, hwanted, chosen, h⟩
    refine ⟨n, hn, (), trivial, wanted, hwanted, ?_⟩
    rw [chosen]
    exact h

/-- A valid request for which no block is chosen is refused for the reason of the choice. -/
theorem allocate_of_refused {pool : VlanRangePool} {input : Bag} {n : Int} {wanted : Option Int64}
    {why : NoBlock Block} (sized : pool.requested input = .ok n)
    (asked : VlanPool.wanted? input = .ok wanted)
    (refused : chooseBlock pool.parent pool.held id n 1 (wanted.map Int64.toInt) = .error why) :
    (pool.allocate input).result =
      (pool.refuse n ((wanted.map fun w => Block.described ⟨w.toInt, n⟩).getD "") why).result := by
  simp only [allocate, Logged.result_bind, Logged.result_lift, sized, Except.bind,
    Logged.result_record, asked, refused]

theorem allocate_exhausted {pool : VlanRangePool} {input : Bag} {n : Int}
    (sized : pool.requested input = .ok n) (plain : VlanPool.wanted? input = .ok none)
    (full : firstFit pool.parent pool.held n 1 = none) :
    ∃ e, (pool.allocate input).result = .error e ∧ e.isExhausted = true := by
  have refused : chooseBlock pool.parent pool.held id n 1 none = .error .exhausted :=
    chooseBlock_of_full (by rw [List.map_id, full])
  rw [allocate_of_refused sized plain refused]
  exact ⟨_, rfl, rfl⟩

theorem grant_result (pool : VlanRangePool) (properties : Bag) (b : Block) :
    (pool.grant b).result = BlockKind.vlanRange.resource properties b := by
  simp only [grant, Logged.result_bind, Logged.result_lift, Logged.result_record, Logged.result_pure,
    BlockKind.resource]
  show (bound b.start).bind _ = _
  refine congrArg _ (funext fun first => ?_)
  cases bound (b.stop - 1) <;> rfl

end VlanRangePool

/-- A range is granted exactly when a block is chosen that can be written down. -/
theorem BlockKind.allocate_vlanRange_eq_ok_iff {s : Snapshot} {script : Option (List UInt64)}
    {bag : Bag} :
    (s.allocate .vlanRange script).result = .ok bag ↔
      ∃ parent held b, Chooses vlanRange s parent held b ∧
        resource vlanRange s.properties b = .ok bag := by
  simp only [Snapshot.allocate_vlanRange, bind_eq_ok_iff, VlanRangePool.allocate_eq_ok_iff,
    VlanRangePool.ofSnapshot_eq_ok_iff, VlanRangePool.requested_eq_ok_iff]
  constructor
  · rintro ⟨⟨parent, _⟩, ⟨held, range, read, rfl⟩, n, wanted, start, sized, hwanted, chosen, grant⟩
    rw [VlanRangePool.grant_result _ s.properties] at grant
    exact ⟨parent, held, ⟨start, n⟩, ⟨⟨range, read⟩, size?_vlanRange_eq_some_iff.mpr sized, _,
      map_eq_ok_iff.mpr ⟨wanted, hwanted, rfl⟩, chosen⟩, grant⟩
  · rintro ⟨parent, held, ⟨start, n⟩, ⟨⟨range, read⟩, size, _, asked, chosen⟩, written⟩
    obtain ⟨wanted, hwanted, rfl⟩ := map_eq_ok_iff.mp asked
    refine ⟨⟨parent, sortBy Block.stop held⟩, ⟨held, range, read, rfl⟩, n, wanted, start,
      size?_vlanRange_eq_some_iff.mp size, hwanted, chosen, ?_⟩
    rw [VlanRangePool.grant_result _ s.properties]
    exact written

/-! ### Both kinds -/

namespace BlockKind
variable {kind : BlockKind} {s : Snapshot} {parent : Block} {held : List Block} {b : Block}

/-- A claim is granted exactly when a block is chosen that can be written down. -/
theorem allocate_eq_ok_iff {script : Option (List UInt64)} {bag : Bag} :
    (s.allocate kind.kind script).result = .ok bag ↔
      ∃ parent held b, kind.Chooses s parent held b ∧ kind.resource s.properties b = .ok bag := by
  cases kind with
  | network f => exact allocate_network_eq_ok_iff
  | vlanRange => exact allocate_vlanRange_eq_ok_iff

theorem Opens.unique {parent' : Block} {held' : List Block} (h : kind.Opens s parent held)
    (h' : kind.Opens s parent' held') : parent' = parent ∧ held' = held :=
  ⟨Except.ok.inj (h'.range.symm.trans h.range),
    (List.map_inj_right fun _ _ => Except.ok.inj).mp (h'.held.symm.trans h.held)⟩

/-- In a pool that can be opened there is one parent and one list of held blocks to choose beside. -/
theorem Opens.allocate_eq_ok_iff (h : kind.Opens s parent held) {script : Option (List UInt64)}
    {bag : Bag} :
    (s.allocate kind.kind script).result = .ok bag ↔
      ∃ b, kind.Chooses s parent held b ∧ kind.resource s.properties b = .ok bag := by
  rw [BlockKind.allocate_eq_ok_iff]
  constructor
  · rintro ⟨parent', held', b, chosen, written⟩
    obtain ⟨rfl, rfl⟩ := h.unique chosen.opens
    exact ⟨b, chosen, written⟩
  · rintro ⟨b, chosen, written⟩
    exact ⟨parent, held, b, chosen, written⟩

end BlockKind

end ResourcePool
