import ResourcePool.Proofs.Pool.Blocks

/-! Asking for the block that one would get. A claim for no particular block looks for room by the order
of ends, a claim for a particular one looks at every held block. Where no held block lies inside another
the two agree on every block inside the pool. -/

namespace ResourcePool
namespace BlockKind
variable {kind : BlockKind} {s : Snapshot} {parent : Block} {held : List Block} {b : Block}

theorem size?_set_desiredValue (kind : BlockKind) (properties input : Bag) (v : Value) :
    kind.size? properties (input.set "desiredValue" v) = kind.size? properties input := by
  cases kind with
  | network f => cases f <;> simp [size?, NetworkPool.desiredSize, Bag.int64, Bag.integer, Bag.require]
  | vlanRange => simp [size?, Bag.int64, Bag.require]

/-- The property of a resource that names the start of its block. -/
def startKey : BlockKind → String
  | network _ => "address"
  | vlanRange => "from"

/-- A resource names the start of its block in a form in which the block can be asked for. -/
theorem exists_start {properties input : Bag} {bag : Bag} (range : kind.range properties = .ok parent)
    (size : kind.size? properties input = some b.size) (aligned : kind.alignment b.size ∣ b.start)
    (inside : parent.Contains b) (written : kind.resource properties b = .ok bag) :
    ∃ v, bag.get? kind.startKey = some v ∧
      kind.wanted (input.set "desiredValue" v) = .ok (some b.start) := by
  cases kind with
  | network f =>
    obtain ⟨root, -, rfl⟩ := map_eq_ok_iff.mp range
    obtain ⟨n, rfl, written'⟩ := exists_resource_network size aligned inside
    rw [written] at written'
    cases written'
    refine ⟨.text n.first.text, by simp [Network.resource, startKey], map_eq_ok_iff.mpr
      ⟨some (n.first.text, n.first), ?_, rfl⟩⟩
    exact AddressPool.wanted?_eq_some_iff.mpr ⟨by simp, Address.read_text _⟩
  | vlanRange =>
    obtain ⟨first, last, hfirst, -, written'⟩ :=
      exists_resource_vlanRange range (size?_pos size) inside
    rw [written] at written'
    cases written'
    refine ⟨.int first, by simp [VlanRangePool.granted, startKey], map_eq_ok_iff.mpr
      ⟨some first, ?_, by rw [Option.map_some, hfirst]⟩⟩
    simp [VlanPool.wanted?, readVlan, Value.toInt64?, Except.map]

/-- What the search found is chosen again when it is asked for, if nothing held is in its way. -/
theorem Chooses.again (h : kind.Chooses s parent held b) {v : Value}
    (asked : kind.wanted (s.input.set "desiredValue" v) = .ok (some b.start))
    (aligned : kind.alignment b.size ∣ b.start) (inside : parent.Contains b)
    (clear : ∀ c ∈ held, ¬c.Overlaps b) :
    kind.Chooses { s with input := s.input.set "desiredValue" v } parent held b where
  opens := ⟨h.opens.range, h.opens.held⟩
  size := by
    rw [size?_set_desiredValue]
    exact h.size
  place := by
    refine ⟨some b.start, asked, chooseBlock_some_eq_ok_iff.mpr ⟨rfl, aligned, inside, ?_⟩⟩
    intro c hc
    rw [List.map_id, (perm_sortBy Block.stop held).mem_iff] at hc
    exact clear c hc

/-- Among blocks that are not nested, the block that a claim gets unasked overlaps no held one. If it is
inside the pool, as it is unless a held block starts past the pool's end, then it is read back, and asking
for its start gets the same resource. -/
theorem allocate_wanted_of_plain {script : Option (List UInt64)} {bag : Bag}
    (opens : kind.Opens s parent held) (unnested : Unnested held)
    (plain : s.input.get? "desiredValue" = none)
    (granted : (s.allocate kind.kind script).result = .ok bag) :
    ∃ b, kind.resource s.properties b = .ok bag ∧ (∀ c ∈ held, ¬c.Overlaps b) ∧
      ((∀ c ∈ held, c.start ≤ parent.stop) → parent.Contains b) ∧
      (parent.Contains b → kind.heldBlock bag = .ok b ∧
        (∃ v, bag.get? kind.startKey = some v ∧
          kind.wanted (s.input.set "desiredValue" v) = .ok (some b.start)) ∧
        ∀ v script, kind.wanted (s.input.set "desiredValue" v) = .ok (some b.start) →
          (Snapshot.allocate { s with input := s.input.set "desiredValue" v } kind.kind script).result =
            .ok bag) := by
  obtain ⟨parent', held', b, chosen, written⟩ := allocate_eq_ok_iff.mp granted
  obtain rfl : parent' = parent := Except.ok.inj (chosen.opens.range.symm.trans opens.range)
  obtain rfl : held' = held :=
    (List.map_inj_right fun _ _ => Except.ok.inj).mp (chosen.opens.held.symm.trans opens.held)
  obtain ⟨wanted, hwanted, found⟩ := chosen.place
  obtain rfl := Except.ok.inj (hwanted.symm.trans (wanted_of_plain plain))
  rw [chooseBlock_none_eq_ok_iff, List.map_id] at found
  -- The search looks at the blocks in the order of their ends, the checks at all of them.
  have order := perm_sortBy Block.stop held'
  have positive : 0 < kind.alignment b.size := alignment_pos (size?_pos chosen.size)
  have clear : ∀ c ∈ held', ¬c.Overlaps b := by
    intro c hc
    refine firstFit_clear positive (pairwise_sortBy ..) ?_ found c (order.mem_iff.mpr hc)
    exact fun d hd e he => unnested d (order.mem_iff.mp hd) e (order.mem_iff.mp he)
  have inside : (∀ c ∈ held', c.start ≤ parent'.stop) → parent'.Contains b := fun near =>
    firstFit_inside positive (fun c hc => near c (order.mem_iff.mp hc)) found
  refine ⟨b, written, clear, inside, fun inside => ?_⟩
  have aligned := dvd_firstFit found
  obtain ⟨bag', written', read⟩ := exists_resource opens.range chosen.size aligned inside
  rw [written] at written'
  cases written'
  refine ⟨read, exists_start opens.range chosen.size aligned inside written, fun v script asked => ?_⟩
  exact allocate_eq_ok_iff.mpr ⟨parent', held', b, chosen.again asked aligned inside clear, written⟩

/-- Ids below a hundred, of which overlapping ranges and one before the pool are held. -/
def overlapping : Snapshot where
  properties := .ofList [("from", .int 0), ("to", .int 99)]
  held := [VlanRangePool.granted 10 20, VlanRangePool.granted 5 12, VlanRangePool.granted (-9) (-5)]
  input := .ofList [("desiredSize", .int 4)]

/-- The first four ids are free, and the same resource whether they are asked for or not. -/
theorem allocate_wanted_of_plain_overlapping :
    (Snapshot.allocate { overlapping with input := overlapping.input.set "desiredValue" (.int 0) }
      .vlanRange none).result = .ok (VlanRangePool.granted 0 3) := by
  have opens : vlanRange.Opens overlapping ⟨0, 100⟩ [⟨10, 11⟩, ⟨5, 8⟩, ⟨-9, 5⟩] := ⟨rfl, rfl⟩
  have unnested : Unnested [⟨10, 11⟩, ⟨5, 8⟩, ⟨-9, 5⟩] := by
    unfold Unnested
    decide
  have granted : (overlapping.allocate vlanRange.kind none).result =
      .ok (VlanRangePool.granted 0 3) := rfl
  obtain ⟨b, -, -, inside, again⟩ := allocate_wanted_of_plain opens unnested rfl granted
  obtain ⟨read, -, again⟩ := again (inside (by decide))
  obtain rfl : ⟨0, 4⟩ = b := Except.ok.inj read
  exact again (.int 0) none rfl

/-- Ids below a hundred, of which one held range lies inside another that starts before it. -/
def nested : Snapshot where
  properties := .ofList [("from", .int 0), ("to", .int 99)]
  held := [VlanRangePool.granted 8 9, VlanRangePool.granted 0 20]
  input := .ofList [("desiredSize", .int 4)]

/-- Where blocks are nested, the ids granted unasked can be ids that are refused when asked for. -/
theorem nested_refused_when_wanted :
    (nested.allocate .vlanRange none).result = .ok (VlanRangePool.granted 0 3) ∧
      (Snapshot.allocate { nested with input := nested.input.set "desiredValue" (.int 0) }
        .vlanRange none).result = .error (.overlap .vlanRange "0-3" "0-20") :=
  ⟨rfl, rfl⟩

end BlockKind
end ResourcePool
