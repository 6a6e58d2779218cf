import ResourcePool.Proofs.Block.Row
import ResourcePool.Proofs.Pool.Accounting
import ResourcePool.Proofs.Session.Blocks

/-! A pool of blocks is filled without gaps. Plain requests to a fresh pool are granted one behind the
other from the start of the pool, as long as no request needs a coarser alignment than those before it;
VLAN ranges need none, so their requests may come in any order. -/

namespace ResourcePool

namespace BlockKind
variable {kind : BlockKind} {properties : Bag} {parent : Block} {bags : List Bag} {blocks : List Block}
  {n : Int}

/-- The step is a plain request for so many units. -/
def Demands (kind : BlockKind) : Step → Int → Prop
  | .allocate input _, n => kind.Asks input n
  | _, _ => False

theorem Demands.legal {step : Step} (h : kind.Demands step n) : kind.least ≤ n := by
  cases step with
  | allocate input script => exact Asks.legal h
  | _ => exact h.elim

/-- The answer grants the block, or refuses for want of room where there is none. -/
def Meets (kind : BlockKind) : Answer → Option Block → Prop
  | .allocated (.ok bag), some b => kind.heldBlock bag = .ok b
  | .allocated (.error e), none => e.isExhausted = true
  | _, _ => False

/-- Sizes in descending order suit each other: what a later one is aligned to divides the earlier ones. -/
theorem pairwise_dvd_of_descending {sizes : List Int}
    (descending : kind = .vlanRange ∨ (sizes.map (kind.blockSize properties)).Pairwise (· ≥ ·)) :
    sizes.Pairwise fun n m =>
      kind.alignment (kind.blockSize properties m) ∣ kind.blockSize properties n := by
  rcases descending with rfl | descending
  · exact List.pairwise_of_forall fun _ _ => Int.one_dvd _
  · refine (List.pairwise_map.mp descending).imp fun {n m} ge => ?_
    cases kind with
    | network f => exact Int.natCast_dvd_natCast.mpr (two_pow_dvd_of_le (Int.ofNat_le.mp ge))
    | vlanRange => exact Int.one_dvd _

namespace Granted

theorem exists_granted_at (h : kind.Granted properties bags blocks)
    (range : kind.range properties = .ok parent) {cursor : Int} (lined : Lined parent blocks cursor)
    {input : Bag} (script : Option (List UInt64)) (asks : kind.Asks input n)
    (aligned : kind.alignment (kind.blockSize properties n) ∣ cursor)
    (room : cursor + kind.blockSize properties n ≤ parent.stop) :
    ∃ bag, (Snapshot.allocate ⟨properties, bags, input⟩ kind.kind script).result = .ok bag ∧
      kind.heldBlock bag = .ok ⟨cursor, kind.blockSize properties n⟩ ∧
      kind.Granted properties (bags ++ [bag]) (blocks ++ [⟨cursor, kind.blockSize properties n⟩]) := by
  obtain ⟨bag, granted, read⟩ :=
    @allocate_of_least kind ⟨properties, bags, input⟩ parent blocks n cursor script ⟨range, h.read⟩
      (h.packed range) asks (lined.isLeast (blockSize_pos asks.legal) aligned room)
  obtain ⟨b, h'⟩ := h.claim granted
  have last : b = ⟨cursor, kind.blockSize properties n⟩ := by
    have both := h'.read
    rw [List.map_append, List.map_append, h.read, List.map_singleton, read] at both
    simpa using both.symm
  exact ⟨bag, granted, read, last ▸ h'⟩

/-- Plain requests of a session in which the blocks stand in a row go on with the row. -/
theorem forall₂_answers (h : kind.Granted properties bags blocks)
    (range : kind.range properties = .ok parent) {cursor : Int} (lined : Lined parent blocks cursor)
    {steps : List Step} {sizes : List Int} (demands : List.Forall₂ kind.Demands steps sizes)
    (aligned : ∀ n ∈ sizes, kind.blockSize properties n ≤ parent.size →
      kind.alignment (kind.blockSize properties n) ∣ cursor)
    (suited : sizes.Pairwise fun n m =>
      kind.alignment (kind.blockSize properties m) ∣ kind.blockSize properties n) :
    List.Forall₂ kind.Meets ((⟨kind.kind, properties, bags⟩ : Session).answers steps)
      (row parent.stop cursor (sizes.map (kind.blockSize properties))) := by
  induction demands generalizing bags blocks cursor with
  | nil => exact .nil
  | @cons step n steps sizes demand _ ih =>
    obtain ⟨first, suited⟩ := List.pairwise_cons.mp suited
    cases step with
    | allocate input script =>
      have asks : kind.Asks input n := demand
      rw [List.map_cons, row]
      by_cases room : cursor + kind.blockSize properties n ≤ parent.stop
      · have le := lined.le
        have fits : kind.blockSize properties n ≤ parent.size := by
          dsimp only [Block.stop] at room
          omega
        have place := aligned n List.mem_cons_self fits
        obtain ⟨bag, granted, read, h'⟩ := h.exists_granted_at range lined script asks place room
        rw [if_pos room, Session.answers, Session.take, Session.snapshot, granted]
        refine .cons read (ih h' (lined.append_singleton (blockSize_pos asks.legal)) ?_ suited)
        intro m hm small
        exact Int.dvd_add (aligned m (List.mem_cons_of_mem _ hm) small) (first m hm)
      · obtain ⟨e, refused, exhausted⟩ :=
          @allocate_of_full kind ⟨properties, bags, input⟩ parent blocks n script ⟨range, h.read⟩
            (h.packed range) asks (lined.not_fits (blockSize_pos asks.legal) room)
        rw [if_neg room, Session.answers, Session.take, Session.snapshot, refused]
        exact .cons exhausted
          (ih h lined (fun m hm => aligned m (List.mem_cons_of_mem _ hm)) suited)
    | capacity => exact demand.elim
    | release index => exact demand.elim
    | add resource => exact demand.elim
    | replacePool properties => exact demand.elim

end Granted
end BlockKind

namespace Session
variable {kind : BlockKind} {properties : Bag} {parent : Block}

/-- Plain requests to a fresh pool are granted in a row from the start of the pool, each as long as it
fits, and else refused for want of room. Equal requests are granted as often as the pool holds their
blocks. -/
theorem answers_meet_row (range : kind.range properties = .ok parent) {steps : List Step}
    {sizes : List Int} (demands : List.Forall₂ kind.Demands steps sizes)
    (descending : kind = .vlanRange ∨ (sizes.map (kind.blockSize properties)).Pairwise (· ≥ ·)) :
    List.Forall₂ kind.Meets ((start kind.kind properties).answers steps)
        (row parent.stop parent.start (sizes.map (kind.blockSize properties))) ∧
      ∀ n, (∀ m ∈ sizes, m = n) →
        List.Forall₂ kind.Meets ((start kind.kind properties).answers steps)
          ((List.range steps.length).map fun i : Nat =>
            if i < parent.size / kind.blockSize properties n then
              some ⟨parent.start + i * kind.blockSize properties n, kind.blockSize properties n⟩
            else none) := by
  have rows : List.Forall₂ kind.Meets ((start kind.kind properties).answers steps)
      (row parent.stop parent.start (sizes.map (kind.blockSize properties))) :=
    BlockKind.Granted.nil.forall₂_answers range (.nil parent) demands
      (fun n _ small => (BlockKind.alignment_dvd_range range small).1)
      (BlockKind.pairwise_dvd_of_descending descending)
  refine ⟨rows, fun n same => ?_⟩
  cases demands with
  | nil => exact rows
  | @cons step m steps sizes demand rest =>
    obtain rfl := same m List.mem_cons_self
    have span : parent.stop - parent.start = parent.size := by
      dsimp only [Block.stop]
      omega
    rw [List.eq_replicate_of_mem same, List.map_replicate,
      row_replicate (BlockKind.blockSize_pos demand.legal), span] at rows
    rwa [List.length_cons, rest.length_eq]

def eightAddresses : Bag := .ofList [("address", .text "10.0.0.0"), ("prefix", .int 29)]

/-- Nine addresses are refused, but four and three fill the pool, so that two more are refused. -/
theorem answers_meet_row_eight_addresses :
    List.Forall₂ (BlockKind.Meets (.network .v4))
      ((start (.network .v4) eightAddresses).answers
        [.allocate (.ofList [("desiredSize", .int 9)]) none,
          .allocate (.ofList [("desiredSize", .int 4)]) none,
          .allocate (.ofList [("desiredSize", .int 3)]) none,
          .allocate (.ofList [("desiredSize", .int 2)]) none])
      [none, some ⟨167772160, 4⟩, some ⟨167772164, 4⟩, none] := by
  have demand (n : Int64) (legal : 2 ≤ n.toInt) :
      BlockKind.Demands (.network .v4) (.allocate (.ofList [("desiredSize", .int n)]) none) n.toInt :=
    ⟨rfl, rfl, legal⟩
  have demands := List.Forall₂.cons (demand 9 (by decide)) (.cons (demand 4 (by decide))
    (.cons (demand 3 (by decide)) (.cons (demand 2 (by decide)) .nil)))
  exact (@answers_meet_row (.network .v4) eightAddresses ⟨167772160, 8⟩ rfl _ _ demands
    (.inr (by decide))).1

end Session
end ResourcePool
