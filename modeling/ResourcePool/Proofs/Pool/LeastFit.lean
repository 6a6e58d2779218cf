import Mathlib.Order.Bounds.Basic
import ResourcePool.Proofs.Pool.Blocks

/-! Where a claim is met. In a packed pool every chosen block fits beside the held ones, and a claim for
no particular block takes the least place where one fits. For networks this makes the whole call exact:
it answers with the least free network of the least sufficient size, and fails only for want of one. -/

namespace ResourcePool
namespace BlockKind
variable {kind : BlockKind} {s : Snapshot} {parent : Block} {held : List Block} {b : Block} {size : Int}

/-- A chosen block fits beside the held ones when these are packed, in whatever order they are held. -/
theorem Chooses.fits (h : kind.Chooses s parent held b) (packed : Packed parent held) :
    Fits parent held b.size (kind.alignment b.size) b.start := by
  obtain ⟨opens, size, wanted, -, chosen⟩ := h
  have order := perm_sortBy Block.stop held
  have fits := chooseBlock_fits (by rw [List.map_id]; exact packed.perm order)
    (by rw [List.map_id]; exact pairwise_sortBy Block.stop held) (alignment_pos (size?_pos size)) chosen
  rw [List.map_id] at fits
  exact (Fits.perm_iff order).mp fits

/-- The place of a claim that asks for no particular block. -/
def firstPlace (kind : BlockKind) (parent : Block) (held : List Block) (size : Int) : Option Int :=
  firstFit parent (sortBy Block.stop held) size (kind.alignment size)

theorem firstPlace_eq_some_iff (packed : Packed parent held)
    (natural : 0 ≤ parent.start ∨ kind.alignment size = 1) (filled : 0 < size) {place : Int} :
    kind.firstPlace parent held size = some place ↔
      IsLeast {q | Fits parent held size (kind.alignment size) q} place := by
  have order := perm_sortBy Block.stop held
  rw [firstPlace, firstFit_eq_some_iff (packed.perm order) (pairwise_sortBy ..) natural
    (alignment_pos filled) filled]
  simp only [Fits.perm_iff order]

theorem firstPlace_eq_none_iff (packed : Packed parent held)
    (natural : 0 ≤ parent.start ∨ kind.alignment size = 1) (filled : 0 < size) :
    kind.firstPlace parent held size = none ↔ ¬∃ q, Fits parent held size (kind.alignment size) q := by
  have order := perm_sortBy Block.stop held
  rw [firstPlace, firstFit_eq_none_iff (packed.perm order) (pairwise_sortBy ..) natural
    (alignment_pos filled) filled]
  simp only [Fits.perm_iff order]

/-- Where there is room, a claim for no particular block is granted the least place. -/
theorem allocate_of_room {script : Option (List UInt64)} (opens : kind.Opens s parent held)
    (packed : Packed parent held) (plain : kind.wanted s.input = .ok none)
    (sized : kind.size? s.properties s.input = some size)
    (room : ∃ q, Fits parent held size (kind.alignment size) q) :
    ∃ place bag, IsLeast {q | Fits parent held size (kind.alignment size) q} place ∧
      kind.resource s.properties ⟨place, size⟩ = .ok bag ∧
      (s.allocate kind.kind script).result = .ok bag := by
  have natural : 0 ≤ parent.start ∨ kind.alignment size = 1 := natural_of_range opens.range
  cases hplace : kind.firstPlace parent held size with
  | none => exact absurd room ((firstPlace_eq_none_iff packed natural (size?_pos sized)).mp hplace)
  | some place =>
    have least := (firstPlace_eq_some_iff packed natural (size?_pos sized)).mp hplace
    obtain ⟨bag, written, -⟩ :=
      exists_resource (b := ⟨place, size⟩) opens.range sized least.1.aligned least.1.inside
    have chosen : kind.Chooses s parent held ⟨place, size⟩ := by
      refine ⟨opens, sized, none, plain, ?_⟩
      rw [chooseBlock_none_eq_ok_iff, List.map_id]
      exact hplace
    exact ⟨place, bag, least, written, allocate_eq_ok_iff.mpr ⟨parent, held, _, chosen, written⟩⟩

end BlockKind

/-! ### Networks -/

theorem Network.packed_blocks {f : Family} {root : Network f} {nets : List (Network f)}
    (apart : (nets.map Network.block).Pairwise Block.Apart)
    (inside : ∀ m ∈ nets, root.block.Contains m.block) : Packed root.block (nets.map Network.block) := by
  refine ⟨?_, ?_, apart⟩
  · intro b hb
    obtain ⟨m, -, rfl⟩ := List.mem_map.mp hb
    exact m.block_filled
  · intro b hb
    obtain ⟨m, hm, rfl⟩ := List.mem_map.mp hb
    exact inside m hm

/-- A request is met with the least power of two that holds it, unless that is more than the space. -/
theorem Family.addresses_eq_of_least {f : Family} {need : Int} {mask B : Nat}
    (h : f.maskFor need = some mask) (least : IsLeast {b : Nat | (∃ k, b = Nat.pow 2 k) ∧ need ≤ b} B) :
    f.addresses mask = B := by
  rw [addresses_of_maskFor h]
  exact (isLeast_two_pow_ceilLog2 need).unique least

/-- A mask exists for every request whose power of two the space has room for. -/
theorem Family.exists_maskFor_of_least {f : Family} {need : Int} {B : Nat}
    (least : IsLeast {b : Nat | (∃ k, b = Nat.pow 2 k) ∧ need ≤ b} B) (le : B ≤ f.space) :
    ∃ mask, f.maskFor need = some mask ∧ f.addresses mask = B := by
  cases hmask : f.maskFor need with
  | none =>
    have large := Family.maskFor_eq_none_iff.mp hmask
    have := least.1.2
    omega
  | some mask => exact ⟨mask, rfl, Family.addresses_eq_of_least hmask least⟩

section Network
variable {f : Family} {s : Snapshot} {script : Option (List UInt64)} {root : Network f}
  {nets : List (Network f)} {n need : Int} {B : Nat}

/-- A claim for addresses in a pool that holds disjoint networks of its own is met with the least free
network of the least sufficient power of two; it fails only when there is none, for want of room. -/
theorem allocate_network_least (pool : poolNetwork f s.properties = .ok root)
    (read : s.held.map (NetworkPool.heldNetwork f) = nets.map .ok)
    (apart : (nets.map Network.block).Pairwise Block.Apart)
    (inside : ∀ m ∈ nets, root.block.Contains m.block)
    (plain : s.input.get? "desiredValue" = none)
    (size : NetworkPool.desiredSize f s.input = .ok n) (large : 2 ≤ n)
    (needed : need = if s.properties.flag "subnet" then n + 2 else n)
    (least : IsLeast {b : Nat | (∃ k, b = Nat.pow 2 k) ∧ need ≤ b} B) :
    ((∃ place, Fits root.block (nets.map Network.block) B B place) →
      ∃ m : Network f, IsLeast {q | Fits root.block (nets.map Network.block) B B q} m.start ∧
        Nat.pow 2 (f.bits - m.mask) = B ∧
        (s.allocate (.network f) script).result = .ok (m.resource (s.properties.flag "subnet"))) ∧
    ((¬∃ place, Fits root.block (nets.map Network.block) B B place) →
      ∃ e, (s.allocate (.network f) script).result = .error e ∧ e.isExhausted = true) := by
  have packed := Network.packed_blocks apart inside
  have wanted : AddressPool.wanted? f s.input = .ok none := by rw [AddressPool.wanted?, plain]
  constructor
  · rintro room
    cases hmask : f.maskFor need with
    | none =>
      -- More addresses than there are in the whole space have no room.
      obtain ⟨place, -, ⟨low, high⟩, -⟩ := room
      have tooLarge := Family.maskFor_eq_none_iff.mp hmask
      have := root.block_stop_le
      have : 0 ≤ root.block.start := Int.natCast_nonneg _
      have := least.1.2
      dsimp only [Block.stop] at *
      omega
    | some mask =>
      have same := Family.addresses_eq_of_least hmask least
      have sized : BlockKind.size? (.network f) s.properties s.input = some (B : Int) :=
        BlockKind.size?_network_eq_some_iff.mpr
          ⟨n, mask, size, large, needed ▸ hmask, congrArg Nat.cast same⟩
      have opens : BlockKind.Opens (.network f) s root.block (nets.map Network.block) :=
        BlockKind.opens_network_iff.mpr ⟨root, nets, pool, read, rfl, rfl⟩
      obtain ⟨place, bag, hleast, written, granted⟩ := BlockKind.allocate_of_room opens packed
        (map_eq_ok_iff.mpr ⟨none, wanted, rfl⟩) sized room
      obtain ⟨m, hm, written'⟩ := BlockKind.exists_resource_network (b := ⟨place, B⟩) sized
        hleast.1.aligned hleast.1.inside
      rw [written] at written'
      cases written'
      refine ⟨m, ?_, ?_, granted⟩
      · rw [show (m.start : Int) = place from congrArg Block.start hm]
        exact hleast
      · exact Int.ofNat_inj.mp (congrArg Block.size hm)
  · intro full
    have opened : NetworkPool.ofSnapshot f s = .ok
        ⟨root, s.properties.flag "subnet", sortBy (fun n => n.block.stop) nets⟩ :=
      NetworkPool.ofSnapshot_eq_ok_iff.mpr ⟨nets, pool, read, rfl, rfl⟩
    rw [Snapshot.allocate_network, opened]
    refine NetworkPool.allocate_exhausted size large wanted fun mask hmask => ?_
    rw [NetworkPool.needed, ← needed] at hmask
    have same := Family.addresses_eq_of_least hmask least
    have filled : 0 < (f.addresses mask : Int) := Int.ofNat_lt.mpr (Nat.two_pow_pos _)
    have nowhere : BlockKind.firstPlace (.network f) root.block (nets.map Network.block)
        (f.addresses mask) = none :=
      (BlockKind.firstPlace_eq_none_iff packed (Or.inl (Int.natCast_nonneg _)) filled).mpr (same ▸ full)
    rw [map_sortBy]
    exact nowhere

/-- A pool of subnets whose first four addresses are held, asked for two hosts. -/
def besideHeld : Snapshot where
  properties := .ofList [("address", .text "10.0.0.0"), ("prefix", .int 24), ("subnet", .bool true)]
  held := [.ofList [("address", .text "10.0.0.0"), ("prefix", .int 30)]]
  input := .ofList [("desiredSize", .int 2)]

/-- Two hosts take four addresses in a pool of subnets, which stand next to the four that are held. -/
theorem allocate_network_least_beside_held :
    ∃ m : Network .v4, IsLeast {q | Fits ⟨167772160, 256⟩ [⟨167772160, 4⟩] 4 4 q} m.start ∧
      Nat.pow 2 (Family.v4.bits - m.mask) = 4 ∧
      (besideHeld.allocate (.network .v4) none).result = .ok (m.resource true) := by
  let root : Network .v4 := ⟨167772160, 24, by decide, by decide, by decide⟩
  let taken : Network .v4 := ⟨167772160, 30, by decide, by decide, by decide⟩
  have pool : poolNetwork .v4 besideHeld.properties = .ok root := rfl
  have read : besideHeld.held.map (NetworkPool.heldNetwork .v4) = [taken].map .ok := rfl
  have size : NetworkPool.desiredSize .v4 besideHeld.input = .ok 2 := rfl
  have room : Fits root.block [taken.block] 4 4 167772164 := by
    refine ⟨by decide, by decide, fun b hb => ?_⟩
    obtain rfl := List.mem_singleton.mp hb
    exact Block.apart_of_not_overlaps (by decide)
  exact (allocate_network_least pool read (List.pairwise_singleton _ _) (by decide) rfl size (by decide)
    rfl (isLeast_two_pow_ceilLog2 4)).1 ⟨_, room⟩

end Network
end ResourcePool
