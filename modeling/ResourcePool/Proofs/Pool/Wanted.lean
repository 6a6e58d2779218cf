import ResourcePool.Proofs.Block.Refusal
import ResourcePool.Proofs.Pool.Blocks

/-! Claims for a particular block. The block is granted exactly if it is aligned, lies inside the pool and
shares no number with what is held, however the held blocks lie to one another and to the pool. Otherwise
the refusal tells which of these fails first, and which held block is in the way. -/

namespace ResourcePool
namespace BlockKind
variable {kind : BlockKind} {s : Snapshot} {parent : Block} {held : List Block} {size start : Int}

/-! ### Texts of refusals -/

/-- How messages name a wanted block: an address as the user spells it, or a range by its ends. -/
def wantedText : BlockKind → Bag → Block → String
  | network f, input, b =>
    let address := ((input.get? "desiredValue").map Value.plain).getD ""
    s!"{address}/{f.bits - b.size.toNat.log2}"
  | vlanRange, _, b => b.described

/-- How messages name the pool that a wanted block lies outside of. -/
def poolText : BlockKind → Bag → Except Error String
  | network f, properties => (poolNetwork f properties).map Network.text
  | vlanRange, properties =>
    (vlanRange.range properties).map fun parent => s!"range: {parent.start} - {parent.stop - 1}"

/-- How messages name the block of a granted resource. -/
def heldText : BlockKind → Bag → Except Error String
  | network f, bag => (NetworkPool.heldNetwork f bag).map Network.rangeText
  | vlanRange, bag => (VlanRangePool.heldBlock bag).map Block.described

/-- The text names a held resource in the way of the block, one whose block has the least end of all that
share a number with it. -/
def InTheWay (kind : BlockKind) (s : Snapshot) (held : List Block) (b : Block) (text : String) : Prop :=
  ∃ bag ∈ s.held, ∃ c, kind.heldText bag = .ok text ∧ kind.heldBlock bag = .ok c ∧ ¬c.Apart b ∧
    ∀ d ∈ held, ¬d.Apart b → c.stop ≤ d.stop

/-- How a claim for the block is answered beside the held ones. -/
structure Decides (kind : BlockKind) (s : Snapshot) (parent : Block) (held : List Block) (b : Block)
    (result : Except Error Bag) : Prop where
  granted : (∃ bag, result = .ok bag) ↔
    kind.alignment b.size ∣ b.start ∧ parent.Contains b ∧ ∀ c ∈ held, c.Apart b
  exact : ∀ bag, result = .ok bag → kind.resource s.properties b = .ok bag ∧ kind.heldBlock bag = .ok b
  outside : kind.alignment b.size ∣ b.start → ¬parent.Contains b →
    ∃ pool, kind.poolText s.properties = .ok pool ∧
      result = .error (.outside kind.kind (kind.wantedText s.input b) pool)
  taken : kind.alignment b.size ∣ b.start → parent.Contains b → (∃ c ∈ held, ¬c.Apart b) →
    ∃ text, kind.InTheWay s held b text ∧
      result = .error (.overlap kind.kind (kind.wantedText s.input b) text)

/-! ### Grants -/

theorem Opens.allocate_wanted_eq_ok_iff (opens : kind.Opens s parent held)
    (sized : kind.size? s.properties s.input = some size) (asked : kind.wanted s.input = .ok (some start))
    {script : Option (List UInt64)} {bag : Bag} :
    (s.allocate kind.kind script).result = .ok bag ↔
      (kind.alignment size ∣ start ∧ parent.Contains ⟨start, size⟩ ∧
        ∀ c ∈ held, ¬c.Overlaps ⟨start, size⟩) ∧
      kind.resource s.properties ⟨start, size⟩ = .ok bag := by
  have same : ∀ c, c ∈ (sortBy Block.stop held).map id ↔ c ∈ held := fun c => by
    rw [List.map_id, (perm_sortBy Block.stop held).mem_iff]
  rw [opens.allocate_eq_ok_iff]
  constructor
  · rintro ⟨⟨place, size'⟩, ⟨-, sized', wanted, asked', chosen⟩, written⟩
    obtain rfl := Option.some.inj (sized'.symm.trans sized)
    obtain rfl := Except.ok.inj (asked'.symm.trans asked)
    obtain ⟨rfl, aligned, inside, clear⟩ := chooseBlock_some_eq_ok_iff.mp chosen
    exact ⟨⟨aligned, inside, fun c hc => clear c ((same c).mpr hc)⟩, written⟩
  · rintro ⟨⟨aligned, inside, clear⟩, written⟩
    refine ⟨⟨start, size⟩, ⟨opens, sized, some start, asked, ?_⟩, written⟩
    exact chooseBlock_some_eq_ok_iff.mpr
      ⟨rfl, aligned, inside, fun c hc => clear c ((same c).mp hc)⟩

/-- A free block of the pool is granted to whoever asks for it. -/
theorem Opens.exists_granted (opens : kind.Opens s parent held)
    (sized : kind.size? s.properties s.input = some size) (asked : kind.wanted s.input = .ok (some start))
    (aligned : kind.alignment size ∣ start) (inside : parent.Contains ⟨start, size⟩)
    (clear : ∀ c ∈ held, ¬c.Overlaps ⟨start, size⟩) (script : Option (List UInt64)) :
    ∃ bag, (s.allocate kind.kind script).result = .ok bag ∧
      kind.resource s.properties ⟨start, size⟩ = .ok bag ∧ kind.heldBlock bag = .ok ⟨start, size⟩ := by
  obtain ⟨bag, written, read⟩ := exists_resource (b := ⟨start, size⟩) opens.range sized aligned inside
  exact ⟨bag, (opens.allocate_wanted_eq_ok_iff sized asked).mpr ⟨⟨aligned, inside, clear⟩, written⟩,
    written, read⟩

/-! ### Refusals -/

section Network
variable {f : Family} {root : Network f} {nets : List (Network f)} {n : Int} {mask : Nat} {text : String}
  {a : Address f}

theorem wantedText_network (asked : AddressPool.wanted? f s.input = .ok (some (text, a)))
    (le : mask ≤ f.bits) :
    wantedText (network f) s.input ⟨start, f.addresses mask⟩ = s!"{text}/{mask}" := by
  obtain ⟨found, -⟩ := AddressPool.wanted?_eq_some_iff.mp asked
  simp only [wantedText, found, Option.map_some, Value.plain, Option.getD_some, Int.toNat_natCast,
    Family.bits_sub_log2_addresses le]

/-- A claim for a network that is not chosen is refused for the reason of the choice. -/
theorem allocate_network_of_refused {script : Option (List UInt64)} {why : NoBlock (Network f)}
    (pool : poolNetwork f s.properties = .ok root)
    (read : s.held.map (NetworkPool.heldNetwork f) = nets.map .ok)
    (size : NetworkPool.desiredSize f s.input = .ok n) (large : 2 ≤ n)
    (hmask : f.maskFor (if s.properties.flag "subnet" then n + 2 else n) = some mask)
    (asked : AddressPool.wanted? f s.input = .ok (some (text, a)))
    (refused : chooseBlock root.block (sortBy (fun m => m.block.stop) nets) Network.block
      (f.addresses mask) (f.addresses mask) (some a.value) = .error why) :
    (s.allocate (.network f) script).result =
      (NetworkPool.refuse ⟨root, s.properties.flag "subnet", sortBy (fun m => m.block.stop) nets⟩ n
        s!"{text}/{mask}" why).result := by
  let opened : NetworkPool f := ⟨root, s.properties.flag "subnet", sortBy (fun m => m.block.stop) nets⟩
  have opens : NetworkPool.ofSnapshot f s = .ok opened :=
    NetworkPool.ofSnapshot_eq_ok_iff.mpr ⟨nets, pool, read, rfl, rfl⟩
  have hmask : f.maskFor (opened.needed n) = some mask := hmask
  rw [Snapshot.allocate_network, opens, Except.bind,
    NetworkPool.allocate_of_refused size large hmask asked rfl refused]
  rfl

end Network

/-- A claim for a range that is not chosen is refused for the reason of the choice. -/
theorem allocate_vlanRange_of_refused {script : Option (List UInt64)} {w first : Int64}
    {why : NoBlock Block} (opens : vlanRange.Opens s parent held)
    (size : s.input.int64 "desiredSize" .input = .ok w) (legal : 1 ≤ w.toInt)
    (asked : VlanPool.wanted? s.input = .ok (some first))
    (refused : chooseBlock parent (sortBy Block.stop held) id w.toInt 1 (some first.toInt) = .error why) :
    (s.allocate .vlanRange script).result =
      (VlanRangePool.refuse ⟨parent, sortBy Block.stop held⟩ w.toInt
        (Block.described ⟨first.toInt, w.toInt⟩) why).result := by
  have opened : VlanRangePool.ofSnapshot s = .ok ⟨parent, sortBy Block.stop held⟩ :=
    VlanRangePool.ofSnapshot_eq_ok_iff.mpr ⟨held, opens.range, opens.held, rfl⟩
  rw [Snapshot.allocate_vlanRange, opened, Except.bind, VlanRangePool.allocate_of_refused
    (VlanRangePool.requested_eq_ok_iff.mpr ⟨w, size, legal, rfl⟩) asked refused]
  rfl

theorem Opens.outside (opens : kind.Opens s parent held)
    (sized : kind.size? s.properties s.input = some size) (asked : kind.wanted s.input = .ok (some start))
    (aligned : kind.alignment size ∣ start) (out : ¬parent.Contains ⟨start, size⟩)
    (script : Option (List UInt64)) :
    ∃ pool, kind.poolText s.properties = .ok pool ∧ (s.allocate kind.kind script).result =
      .error (.outside kind.kind (kind.wantedText s.input ⟨start, size⟩) pool) := by
  cases kind with
  | network f =>
    obtain ⟨root, nets, hroot, hnets, rfl, -⟩ := opens_network_iff.mp opens
    obtain ⟨n, mask, hn, large, hmask, rfl⟩ := size?_network_eq_some_iff.mp sized
    obtain ⟨text, a, hwanted, rfl⟩ := wanted_network_eq_some_iff.mp asked
    refine ⟨root.text, map_eq_ok_iff.mpr ⟨root, hroot, rfl⟩, ?_⟩
    rw [wantedText_network hwanted (Family.mask_le_of_maskFor hmask)]
    exact allocate_network_of_refused hroot hnets hn large hmask hwanted (chooseBlock_eq_outside aligned out)
  | vlanRange =>
    obtain ⟨w, hw, legal, rfl⟩ := size?_vlanRange_eq_some_iff.mp sized
    obtain ⟨first, hwanted, rfl⟩ := wanted_vlanRange_eq_some_iff.mp asked
    exact ⟨_, map_eq_ok_iff.mpr ⟨parent, opens.range, rfl⟩,
      allocate_vlanRange_of_refused opens hw legal hwanted (chooseBlock_eq_outside aligned out)⟩

/-- If some of the things that are held share a number with a block, the claim for it is refused because of
one of them that ends first. -/
theorem exists_holder {α : Type} {heldThing : Bag → Except Error α} {things : List α} {block : α → Block}
    {alignment : Int} {b : Block} (read : s.held.map heldThing = things.map .ok)
    (filled : ∀ x ∈ things, 0 < (block x).size) (large : 0 < b.size) (aligned : alignment ∣ b.start)
    (inside : parent.Contains b) (taken : ∃ x ∈ things, ¬(block x).Apart b) :
    ∃ bag ∈ s.held, ∃ holder, heldThing bag = .ok holder ∧ ¬(block holder).Apart b ∧
      (∀ x ∈ things, ¬(block x).Apart b → (block holder).stop ≤ (block x).stop) ∧
      chooseBlock parent (sortBy (fun x => (block x).stop) things) block b.size alignment (some b.start) =
        .error (.overlaps holder) := by
  have order : ∀ x, x ∈ sortBy (fun x => (block x).stop) things ↔ x ∈ things := fun x =>
    (perm_sortBy _ things).mem_iff
  have shares : ∀ x ∈ things, ¬(block x).Apart b ↔ (block x).Overlaps b := fun x hx =>
    (Block.apart_iff_not_overlaps (filled x hx) large).not_left
  obtain ⟨x, hx, meets⟩ := taken
  obtain ⟨holder, hholder, refused, overlaps, least⟩ := exists_chooseBlock_eq_overlaps aligned inside
    (pairwise_sortBy _ things) ⟨x, (order x).mpr hx, (shares x hx).mp meets⟩
  rw [order] at hholder
  obtain ⟨bag, hbag, hread⟩ := exists_of_mem_read read hholder
  exact ⟨bag, hbag, holder, hread, (shares holder hholder).mpr overlaps,
    fun x hx meets => least x ((order x).mpr hx) ((shares x hx).mp meets), refused⟩

theorem Opens.taken (opens : kind.Opens s parent held) (filled : ∀ c ∈ held, 0 < c.size)
    (sized : kind.size? s.properties s.input = some size) (asked : kind.wanted s.input = .ok (some start))
    (aligned : kind.alignment size ∣ start) (inside : parent.Contains ⟨start, size⟩)
    (taken : ∃ c ∈ held, ¬c.Apart ⟨start, size⟩) (script : Option (List UInt64)) :
    ∃ text, kind.InTheWay s held ⟨start, size⟩ text ∧ (s.allocate kind.kind script).result =
      .error (.overlap kind.kind (kind.wantedText s.input ⟨start, size⟩) text) := by
  have large := size?_pos sized
  cases kind with
  | network f =>
    obtain ⟨root, nets, hroot, hnets, rfl, rfl⟩ := opens_network_iff.mp opens
    obtain ⟨n, mask, hn, legal, hmask, rfl⟩ := size?_network_eq_some_iff.mp sized
    obtain ⟨text, a, hwanted, rfl⟩ := wanted_network_eq_some_iff.mp asked
    rw [List.forall_mem_map] at filled
    obtain ⟨c, hc, meets⟩ := taken
    obtain ⟨m, hm, rfl⟩ := List.mem_map.mp hc
    obtain ⟨bag, hbag, holder, read, meets, least, refused⟩ :=
      exists_holder hnets filled large aligned inside ⟨m, hm, meets⟩
    refine ⟨holder.rangeText, ⟨bag, hbag, holder.block, map_eq_ok_iff.mpr ⟨_, read, rfl⟩,
      map_eq_ok_iff.mpr ⟨_, read, rfl⟩, meets, List.forall_mem_map.mpr least⟩, ?_⟩
    rw [wantedText_network hwanted (Family.mask_le_of_maskFor hmask)]
    exact allocate_network_of_refused hroot hnets hn legal hmask hwanted refused
  | vlanRange =>
    obtain ⟨w, hw, legal, rfl⟩ := size?_vlanRange_eq_some_iff.mp sized
    obtain ⟨first, hwanted, rfl⟩ := wanted_vlanRange_eq_some_iff.mp asked
    obtain ⟨bag, hbag, holder, read, meets, least, refused⟩ :=
      @exists_holder _ _ _ _ _ id _ _ opens.held filled large aligned inside taken
    exact ⟨holder.described, ⟨bag, hbag, holder, map_eq_ok_iff.mpr ⟨_, read, rfl⟩, read, meets, least⟩,
      allocate_vlanRange_of_refused opens hw legal hwanted refused⟩

/-- Ids from 0 to 40. One held range lies inside another, and one goes on past the last id. -/
def crowded : Snapshot where
  properties := .ofList [("from", .int 0), ("to", .int 40)]
  held := [(5, 20), (8, 9), (35, 60)].map fun range =>
    .ofList [("from", .int range.1), ("to", .int range.2)]
  input := .ofList [("desiredSize", .int 4), ("desiredValue", .int 7)]

example : (crowded.allocate .vlanRange none).result = .error (.overlap .vlanRange "7-10" "8-9") := rfl

end BlockKind
end ResourcePool
