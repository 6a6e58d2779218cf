import ResourcePool.Proofs.Pool.Accounting
import ResourcePool.Proofs.Session.Blocks

/-! What a pool of blocks reports in a session is true. Claims and returns keep every held block at the
size of some request, so the held blocks are made of whole units. Hence the reported room is there for a
smallest request, and where none is reported there is none for any request. -/

namespace ResourcePool

namespace BlockKind
variable {kind : BlockKind} {properties : Bag} {parent : Block} {bags : List Bag} {blocks : List Block}

/-- Each block has the size that meets some request. -/
def Sized (kind : BlockKind) (properties : Bag) (blocks : List Block) : Prop :=
  ∀ b ∈ blocks, ∃ n, kind.least ≤ n ∧ kind.blockSize properties n = b.size

/-- The held resources are read back as the blocks. What is reported as utilized are the numbers that the
blocks cover, and in a pool that keeps nothing back the rest of its numbers is reported as free. Something
is reported as free exactly when a smallest plain request would be granted; otherwise every plain request
would be refused for want of room. -/
structure Reports (kind : BlockKind) (properties : Bag) (parent : Block) (s : Session)
    (blocks : List Block) (free : Int) : Prop where
  read : s.held.map kind.heldBlock = blocks.map .ok
  reported : (s.take .capacity).1 = .capacity (.ok ⟨free, (covered blocks).card⟩)
  whole : kind.Flat properties → free + (covered blocks).card = parent.size
  granted {input : Bag} (script : Option (List UInt64)) : kind.Asks input kind.least →
    (0 < free ↔ ∃ bag, (s.take (.allocate input script)).1 = .allocated (.ok bag))
  refused {input : Bag} {n : Int} (script : Option (List UInt64)) : free = 0 → kind.Asks input n →
    ∃ e, (s.take (.allocate input script)).1 = .allocated (.error e) ∧ e.isExhausted = true

namespace Granted

theorem opens (h : kind.Granted properties bags blocks) (range : kind.range properties = .ok parent)
    (input : Bag) : kind.Opens ⟨properties, bags, input⟩ parent blocks :=
  ⟨range, h.read⟩

theorem exists_granted (h : kind.Granted properties bags blocks)
    (range : kind.range properties = .ok parent) {input : Bag} (script : Option (List UInt64))
    (asks : kind.Asks input kind.least)
    (room : ∃ q, Fits parent blocks (kind.unit properties) (kind.unit properties) q) :
    ∃ bag, (Snapshot.allocate ⟨properties, bags, input⟩ kind.kind script).result = .ok bag := by
  obtain ⟨q, hq⟩ := room
  have fits : Fits parent blocks (kind.blockSize properties kind.least)
      (kind.alignment (kind.blockSize properties kind.least)) q := (alignment_unit kind properties).symm ▸ hq
  have sized := asks.size?_eq range fits.inside.2 fits.inside.1
  obtain ⟨-, bag, -, -, granted⟩ := allocate_of_room (h.opens range input) (h.packed range)
    (wanted_of_plain asks.plain) sized ⟨q, fits⟩
  exact ⟨bag, granted⟩

theorem exists_refused (h : kind.Granted properties bags blocks)
    (range : kind.range properties = .ok parent) {input : Bag} {n : Int}
    (script : Option (List UInt64)) (asks : kind.Asks input n)
    (full : ¬∃ q, Fits parent blocks (kind.unit properties) (kind.unit properties) q) :
    ∃ e, (Snapshot.allocate ⟨properties, bags, input⟩ kind.kind script).result = .error e ∧
      e.isExhausted = true := by
  refine allocate_of_full (h.opens range input) (h.packed range) asks ?_
  rintro ⟨q, hq⟩
  have dvd := alignment_dvd kind properties asks.legal
  have positive : 0 < kind.blockSize properties n := blockSize_pos asks.legal
  have le : kind.unit properties ≤ kind.blockSize properties n := by
    cases kind with
    | network f => exact Int.le_of_dvd positive dvd
    | vlanRange => exact asks.legal
  exact full ⟨q, hq.mono le (alignment_unit kind properties ▸ dvd)⟩

theorem reports (h : kind.Granted properties bags blocks) (sized : kind.Sized properties blocks)
    (range : kind.range properties = .ok parent) (roomy : kind.Roomy properties) :
    ∃ free, kind.Reports properties parent ⟨kind.kind, properties, bags⟩ blocks free := by
  have packed := h.packed range
  have count := packed.card_covered
  have room := usable_pos_iff_exists_fits range roomy packed (units_of_read h.read sized)
  refine ⟨max (kind.usable properties parent - totalSize blocks) 0, h.read, ?_, ?_, ?_, ?_⟩
  · show Answer.capacity (Snapshot.capacity ⟨properties, bags, .empty⟩ kind.kind).result = _
    rw [capacity_of_opens (h.opens range .empty), count]
  · intro flat
    have whole : kind.usable properties parent = parent.size := by
      cases kind with
      | network f => exact if_neg (Bool.eq_false_iff.mp flat)
      | vlanRange => rfl
    have within := Finset.card_le_card packed.covered_subset
    have natural := size_nonneg range
    rw [parent.card_numbers] at within
    rw [whole, count]
    omega
  · intro input script asks
    constructor
    · intro some
      obtain ⟨bag, granted⟩ := h.exists_granted range script asks (room.mp (by omega))
      exact ⟨bag, congrArg Answer.allocated granted⟩
    · rintro ⟨bag, granted⟩
      by_contra none
      obtain ⟨e, refused, -⟩ := h.exists_refused range script asks fun fits => by
        have := room.mpr fits
        omega
      rw [Session.take, Session.snapshot, refused] at granted
      cases granted
  · intro input n script none asks
    obtain ⟨e, refused, exhausted⟩ := h.exists_refused range script asks fun fits => by
      have := room.mpr fits
      omega
    exact ⟨e, congrArg Answer.allocated refused, exhausted⟩

end Granted
end BlockKind

namespace Session
variable {kind : BlockKind} {properties : Bag} {parent : Block}

theorem exists_sized_after (kind : BlockKind) (properties : Bag) (moves : List Move) :
    ∃ held, (start kind.kind properties).after (moves.map Move.step) = ⟨kind.kind, properties, held⟩ ∧
      ∃ blocks, kind.Granted properties held blocks ∧ kind.Sized properties blocks := by
  refine after_moves ?_ ?_ moves ⟨[], .nil, by simp [BlockKind.Sized]⟩
  · rintro held input script bag ⟨blocks, h, sized⟩ granted
    obtain ⟨b, size, h⟩ := h.claim_sized granted
    refine ⟨blocks ++ [b], h, fun c hc => ?_⟩
    rcases List.mem_append.mp hc with hc | hc
    · exact sized c hc
    · obtain rfl := List.mem_singleton.mp hc
      exact BlockKind.exists_blockSize_eq size
  · rintro held index ⟨blocks, h, sized⟩
    exact ⟨blocks.eraseIdx index, h.giveBack index, fun b hb => sized b (List.mem_of_mem_eraseIdx hb)⟩

/-- Whatever is claimed and given back in a pool of blocks, its reports are true. -/
theorem exists_reports_after (range : kind.range properties = .ok parent)
    (roomy : kind.Roomy properties) (moves : List Move) :
    ∃ blocks free, kind.Reports properties parent
      ((start kind.kind properties).after (moves.map Move.step)) blocks free := by
  obtain ⟨held, run, blocks, h, sized⟩ := exists_sized_after kind properties moves
  obtain ⟨free, reports⟩ := h.reports sized range roomy
  exact ⟨blocks, free, run ▸ reports⟩

def fourAddresses : Bag := .ofList [("address", .text "10.0.0.0"), ("prefix", .int 30)]

/-- Two addresses are claimed, the other two are asked for by name, and the first two are given back. -/
theorem exists_reports_after_four_addresses :
    BlockKind.Reports (.network .v4) fourAddresses ⟨167772160, 4⟩
      ((start (.network .v4) fourAddresses).after
        [.allocate (.ofList [("desiredSize", .int 2)]) none,
          .allocate (.ofList [("desiredSize", .int 2), ("desiredValue", .text "10.0.0.2")]) none,
          .release 0]) [⟨167772162, 2⟩] 2 := by
  obtain ⟨blocks, free, reports⟩ := @exists_reports_after (.network .v4) fourAddresses ⟨167772160, 4⟩ rfl
    ⟨_, rfl, by decide⟩
    [.claim (.ofList [("desiredSize", .int 2)]) none,
      .claim (.ofList [("desiredSize", .int 2), ("desiredValue", .text "10.0.0.2")]) none, .giveBack 0]
  obtain rfl : [⟨167772162, 2⟩] = blocks :=
    (List.map_inj_right fun _ _ => Except.ok.inj).mp reports.read
  have whole : free + 2 = 4 := reports.whole rfl
  obtain rfl : free = 2 := by omega
  exact reports

end Session
end ResourcePool
