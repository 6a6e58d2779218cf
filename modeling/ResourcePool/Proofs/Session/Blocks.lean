import ResourcePool.Proofs.Pool.LeastFit
import ResourcePool.Proofs.Session.Run

/-! Sessions of a block pool. Claims and returns keep the granted blocks apart and inside the pool,
whichever way a block is chosen: each claim starts from what the granted resources are read back as,
and that is what was granted. -/

namespace ResourcePool

namespace BlockKind
variable {kind : BlockKind} {parent : Block}

/-- The held resources grant the blocks: each is written as its block's resource and read back as its
block. The blocks have members, lie in the pool's range and share no number. -/
structure Granted (kind : BlockKind) (properties : Bag) (held : List Bag) (blocks : List Block) :
    Prop where
  written : blocks.map (kind.resource properties) = held.map .ok
  read : held.map kind.heldBlock = blocks.map .ok
  filled : ∀ b ∈ blocks, 0 < b.size
  inside : ∀ b ∈ blocks, ∃ parent, kind.range properties = .ok parent ∧ parent.Contains b
  apart : blocks.Pairwise Block.Apart

namespace Granted
variable {properties : Bag} {bags : List Bag} {blocks : List Block}

theorem nil : kind.Granted properties [] [] := ⟨rfl, rfl, by simp, by simp, .nil⟩

theorem packed (h : kind.Granted properties bags blocks) (range : kind.range properties = .ok parent) :
    Packed parent blocks where
  filled := h.filled
  inside b hb := by
    obtain ⟨parent', range', contains⟩ := h.inside b hb
    rw [range] at range'
    cases range'
    exact contains
  apart := h.apart

/-- A granted claim adds a block of the requested size. -/
theorem claim_sized (h : kind.Granted properties bags blocks) {input bag : Bag}
    {script : Option (List UInt64)}
    (granted : (Snapshot.allocate ⟨properties, bags, input⟩ kind.kind script).result = .ok bag) :
    ∃ b, kind.size? properties input = some b.size ∧
      kind.Granted properties (bags ++ [bag]) (blocks ++ [b]) := by
  obtain ⟨parent, held, b, chosen, written⟩ := allocate_eq_ok_iff.mp granted
  have range := chosen.opens.range
  -- What is read back is what was granted, so the choice was made beside the granted blocks.
  obtain rfl : held = blocks :=
    (List.map_inj_right fun _ _ => Except.ok.inj).mp (chosen.opens.held.symm.trans h.read)
  have fits := chosen.fits (h.packed range)
  obtain ⟨bag', written', read⟩ := exists_resource range chosen.size fits.aligned fits.inside
  rw [written] at written'
  cases written'
  have packed := (h.packed range).append_singleton (size?_pos chosen.size) fits.inside fits.free
  exact ⟨b, chosen.size, map_read_append h.written written, map_read_append h.read read, packed.filled,
    fun c hc => ⟨parent, range, packed.inside c hc⟩, packed.apart⟩

theorem claim (h : kind.Granted properties bags blocks) {input bag : Bag}
    {script : Option (List UInt64)}
    (granted : (Snapshot.allocate ⟨properties, bags, input⟩ kind.kind script).result = .ok bag) :
    ∃ b, kind.Granted properties (bags ++ [bag]) (blocks ++ [b]) := by
  obtain ⟨b, -, h⟩ := h.claim_sized granted
  exact ⟨b, h⟩

theorem giveBack (h : kind.Granted properties bags blocks) (index : Nat) :
    kind.Granted properties (bags.eraseIdx index) (blocks.eraseIdx index) where
  written := map_read_eraseIdx h.written index
  read := map_read_eraseIdx h.read index
  filled b hb := h.filled b (List.mem_of_mem_eraseIdx hb)
  inside b hb := h.inside b (List.mem_of_mem_eraseIdx hb)
  apart := h.apart.sublist (List.eraseIdx_sublist ..)

end Granted
end BlockKind

namespace Session

/-- Whatever is claimed and given back in a pool of blocks, what is held are disjoint blocks of the
pool, each read back as it was granted. -/
theorem exists_granted_after (kind : BlockKind) (properties : Bag) (moves : List Move) :
    ∃ blocks, kind.Granted properties
      ((start kind.kind properties).after (moves.map Move.step)).held blocks := by
  have kept : ∃ held, (start kind.kind properties).after (moves.map Move.step) =
      ⟨kind.kind, properties, held⟩ ∧ ∃ blocks, kind.Granted properties held blocks := by
    refine after_moves ?_ ?_ moves ⟨[], .nil⟩
    · rintro held input script bag ⟨blocks, h⟩ granted
      obtain ⟨b, h⟩ := h.claim granted
      exact ⟨blocks ++ [b], h⟩
    · rintro held index ⟨blocks, h⟩
      exact ⟨blocks.eraseIdx index, h.giveBack index⟩
  obtain ⟨held, run, granted⟩ := kept
  rw [run]
  exact granted

end Session
end ResourcePool
