import ResourcePool.Proofs.Pool.Blocks
import ResourcePool.Proofs.Unit.Basic

/-! The order of the resources does not matter. Pools of numbers keep a set of them, pools of blocks sort
theirs, and blocks that share no number have different ends to be sorted by. A pool of route
distinguishers keeps its texts as they come, but only looks for one of them and counts. -/

namespace ResourcePool

/-- The resources are read back as numbers. -/
def UnitKind.Decodes (kind : UnitKind) (held : List Bag) : Prop :=
  ∃ values : List Int, held.map kind.heldNumber = values.map .ok

/-- The resources are read back as blocks that have members and share none. -/
def BlockKind.Decodes (kind : BlockKind) (held : List Bag) : Prop :=
  ∃ blocks : List Block, held.map kind.heldBlock = blocks.map .ok ∧ (∀ b ∈ blocks, 0 < b.size) ∧
    blocks.Pairwise Block.Apart

/-- The resources are read back. A pool of route distinguishers reads what it can. -/
def Kind.Decodes : Kind → List Bag → Prop
  | .address f => UnitKind.Decodes (.address f)
  | .network f => BlockKind.Decodes (.network f)
  | .vlan => UnitKind.Decodes .vlan
  | .vlanRange => BlockKind.Decodes .vlanRange
  | .uniqueId => UnitKind.Decodes .uniqueId
  | .randomInt32 => UnitKind.Decodes .randomInt32
  | .routeDistinguisher => fun _ => True

section Order
variable {s : Snapshot} {held : List Bag}

/-! ### Opening a pool -/

theorem Snapshot.ofHeld_perm {α : Type} {read : Bag → Except Error α} {values : List α}
    (p : held.Perm s.held) (h : s.held.map read = values.map .ok) :
    s.ofHeld read = .ok values ∧
      ∃ values' : List α, values'.Perm values ∧ { s with held := held }.ofHeld read = .ok values' := by
  obtain ⟨values', order, h'⟩ := exists_perm_read p h
  exact ⟨ofHeld_eq_ok_iff.mpr h, values', order, ofHeld_eq_ok_iff.mpr h'⟩

theorem RandomInt32Pool.ofSnapshot_perm (p : held.Perm s.held)
    (decodes : UnitKind.Decodes .randomInt32 s.held) :
    ofSnapshot { s with held := held } = ofSnapshot s := by
  obtain ⟨values, read⟩ := decodes
  obtain ⟨opened, values', order, opened'⟩ := Snapshot.ofHeld_perm p read
  simp only [UnitKind.heldNumber] at opened opened'
  simp only [ofSnapshot, opened, opened', IntSet.ofList_perm order, bind, Except.bind]

theorem UnitKind.ofSnapshot_perm (kind : UnitKind) (p : held.Perm s.held) (decodes : kind.Decodes s.held) :
    Pool.ofSnapshot kind.kind { s with held := held } = Pool.ofSnapshot kind.kind s := by
  obtain ⟨values, read⟩ := decodes
  obtain ⟨opened, values', order, opened'⟩ := Snapshot.ofHeld_perm p read
  have same := IntSet.ofList_perm order
  cases kind with
  | address f =>
    simp only [heldNumber] at opened opened'
    simp only [UnitKind.kind, Pool.ofSnapshot, AddressPool.ofSnapshot, opened, opened', same, bind,
      Except.bind]
  | vlan =>
    simp only [heldNumber] at opened opened'
    simp only [UnitKind.kind, Pool.ofSnapshot, VlanPool.ofSnapshot, opened, opened', same, bind,
      Except.bind]
  | randomInt32 => exact congrArg (Except.map _) (RandomInt32Pool.ofSnapshot_perm p ⟨values, read⟩)
  | uniqueId =>
    simp only [heldNumber] at opened opened'
    simp only [UnitKind.kind, Pool.ofSnapshot, UniqueIdPool.ofSnapshot, opened, opened', same, bind,
      Except.bind]

theorem BlockKind.ofSnapshot_perm (kind : BlockKind) (p : held.Perm s.held)
    (decodes : kind.Decodes s.held) :
    Pool.ofSnapshot kind.kind { s with held := held } = Pool.ofSnapshot kind.kind s := by
  obtain ⟨blocks, read, filled, apart⟩ := decodes
  have distinct := nodup_stops filled apart
  cases kind with
  | network f =>
    obtain ⟨nets, names, rfl⟩ := map_heldBlock_network_iff.mp read
    obtain ⟨opened, nets', order, opened'⟩ := Snapshot.ofHeld_perm p names
    rw [List.map_map] at distinct
    have same : sortBy (fun n : Network f => n.block.stop) nets' = sortBy (fun n => n.block.stop) nets :=
      sortBy_perm order distinct
    simp only [BlockKind.kind, Pool.ofSnapshot, NetworkPool.ofSnapshot, opened, opened', same, bind,
      Except.bind]
  | vlanRange =>
    have read : s.held.map VlanRangePool.heldBlock = blocks.map .ok := read
    obtain ⟨opened, blocks', order, opened'⟩ := Snapshot.ofHeld_perm p read
    have same := sortBy_perm order distinct
    simp only [BlockKind.kind, Pool.ofSnapshot, VlanRangePool.ofSnapshot, opened, opened', same, bind,
      Except.bind]

/-- Only the pool of route distinguishers shows the order of its resources. -/
theorem Pool.ofSnapshot_perm {kind : Kind} (ordered : kind ≠ .routeDistinguisher) (p : held.Perm s.held)
    (decodes : kind.Decodes s.held) :
    Pool.ofSnapshot kind { s with held := held } = Pool.ofSnapshot kind s := by
  cases kind with
  | address f => exact UnitKind.ofSnapshot_perm (.address f) p decodes
  | network f => exact BlockKind.ofSnapshot_perm (.network f) p decodes
  | vlan => exact UnitKind.ofSnapshot_perm .vlan p decodes
  | vlanRange => exact BlockKind.ofSnapshot_perm .vlanRange p decodes
  | uniqueId => exact UnitKind.ofSnapshot_perm .uniqueId p decodes
  | randomInt32 => exact UnitKind.ofSnapshot_perm .randomInt32 p decodes
  | routeDistinguisher => exact absurd rfl ordered

theorem Pool.openFor_perm {kind : Kind} (ordered : kind ≠ .routeDistinguisher) (p : held.Perm s.held)
    (decodes : kind.Decodes s.held) :
    Pool.openFor kind { s with held := held } = Pool.openFor kind s := by
  simp only [Pool.openFor, Pool.ofSnapshot_perm ordered p decodes, p.length_eq]

/-! ### Route distinguishers -/

namespace RouteDistinguisherPool

/-- Pools that have granted the same texts and equally many resources answer alike. -/
theorem allocate_congr {pool pool' : RouteDistinguisherPool}
    (taken : ∀ text, text ∈ pool'.taken ↔ text ∈ pool.taken) (count : pool'.count = pool.count)
    (input : Bag) : pool'.allocate input = pool.allocate input := by
  have chosen : pool'.choose input = pool.choose input := by
    simp only [choose, taken]
  have refused : pool'.refuse = pool.refuse := by
    funext e
    cases e <;> simp only [refuse, count]
  simp only [allocate, chosen, refused]

theorem ofSnapshot_perm (p : held.Perm s.held) :
    (∀ text, text ∈ (ofSnapshot { s with held := held }).taken ↔ text ∈ (ofSnapshot s).taken) ∧
      (ofSnapshot { s with held := held }).count = (ofSnapshot s).count :=
  ⟨fun _ => (p.filterMap _).mem_iff, p.length_eq⟩

end RouteDistinguisherPool

/-! ### Whole calls -/

namespace Snapshot

theorem openFor_bind {α : Type} {kind : Kind} {pool : Pool} (k : Pool → Logged α)
    (opened : Pool.ofSnapshot kind s = .ok pool) :
    (Pool.openFor kind s >>= k) =
      Logged.record .debug s!"Building {kind.name} strategy over {s.held.length} allocated resources" >>=
        fun _ => k pool := by
  rw [Pool.openFor, opened]
  rfl

theorem routeDistinguisher_perm (p : held.Perm s.held) (script : Option (List UInt64)) :
    { s with held := held }.allocate .routeDistinguisher script = s.allocate .routeDistinguisher script ∧
      { s with held := held }.capacity .routeDistinguisher = s.capacity .routeDistinguisher := by
  obtain ⟨taken, count⟩ := RouteDistinguisherPool.ofSnapshot_perm p
  have alike := RouteDistinguisherPool.allocate_congr taken count
  constructor
  · rw [allocate_eq .routeDistinguisher (by simp), allocate_eq .routeDistinguisher (by simp),
      openFor_bind _ rfl, openFor_bind _ rfl]
    simp only [p.length_eq, Pool.allocate, alike]
  · rw [capacity, capacity, openFor_bind _ rfl, openFor_bind _ rfl]
    simp only [p.length_eq, Pool.capacity, RouteDistinguisherPool.capacity, count]

/-- In whatever order the resources come, a claim and a report have the same outcome, with the same
messages. -/
theorem allocate_capacity_perm {kind : Kind} (p : held.Perm s.held) (decodes : kind.Decodes s.held)
    (script : Option (List UInt64)) :
    { s with held := held }.allocate kind script = s.allocate kind script ∧
      { s with held := held }.capacity kind = s.capacity kind := by
  by_cases rd : kind = .routeDistinguisher
  · subst rd
    exact routeDistinguisher_perm p script
  · have same := Pool.openFor_perm rd p decodes
    refine ⟨?_, by rw [capacity, capacity, same]⟩
    by_cases random : kind = .randomInt32
    · -- With a script the pool is opened without a record.
      subst random
      cases script with
      | none => exact congrArg (· >>= _) same
      | some words => rw [allocate, allocate, RandomInt32Pool.ofSnapshot_perm p decodes]
    · rw [allocate_eq kind random, allocate_eq kind random, same]

end Snapshot
end Order

namespace Snapshot

/-- Two ranges are held, the later one first, and a third of the same size is asked for. -/
def laterFirst : Snapshot where
  properties := .ofList [("from", .int 0), ("to", .int 99)]
  held := [.ofList [("from", .int 40), ("to", .int 49)], .ofList [("from", .int 10), ("to", .int 19)]]
  input := .ofList [("desiredSize", .int 10)]

theorem allocate_capacity_perm_later_first :
    { laterFirst with held := laterFirst.held.reverse }.allocate .vlanRange none =
        laterFirst.allocate .vlanRange none ∧
      { laterFirst with held := laterFirst.held.reverse }.capacity .vlanRange =
        laterFirst.capacity .vlanRange := by
  have decodes : Kind.Decodes .vlanRange laterFirst.held :=
    ⟨[⟨40, 10⟩, ⟨10, 10⟩], rfl, by decide,
      List.pairwise_pair.mpr (Block.apart_of_not_overlaps (by decide))⟩
  exact allocate_capacity_perm (List.reverse_perm _) decodes none

end Snapshot
end ResourcePool
