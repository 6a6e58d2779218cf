import ResourcePool.Proofs.Block.Cover
import ResourcePool.Proofs.Network.Text
import ResourcePool.Proofs.Word.Address

/-! Networks lie inside one another or apart, never across. A network is made up of whole networks of every
longer mask, so one address in common puts the network with the longer mask inside the other one. This is why
overlapping, containing and being cut off to the shorter mask are the same, and why networks that are apart
come in one order, by their ends as well as by their starts. -/

namespace ResourcePool

/-! ### Any two blocks -/

namespace Block
variable {b c : Block}

theorem start_lt_of_apart (filled : 0 < b.size) (apart : b.Apart c) (le : b.stop ≤ c.stop) :
    b.start < c.start := by
  by_contra late
  exact not_contains_of_apart filled apart ⟨Int.not_lt.mp late, le⟩

theorem contains_of_stop_eq (same : b.stop = c.stop) : b.Contains c ∨ c.Contains b := by
  rcases Int.le_total b.start c.start with before | after
  · exact Or.inl ⟨before, Int.le_of_eq same.symm⟩
  · exact Or.inr ⟨after, Int.le_of_eq same⟩

theorem overlaps_of_contains (filled : 0 < c.size) (h : b.Contains c) : b.Overlaps c := by
  obtain ⟨first, behind⟩ := start_mem filled
  exact ⟨Int.lt_of_le_of_lt h.1 behind, Int.lt_of_lt_of_le behind h.2⟩

theorem exists_mem_of_overlaps (hb : 0 < b.size) (hc : 0 < c.size) (h : b.Overlaps c) :
    ∃ n ∈ c, n ∈ b := by
  by_contra none
  exact (apart_iff_not_overlaps hb hc).mp (fun n inB inC => none ⟨n, inC, inB⟩) h

end Block

namespace Network
variable {f : Family} {p q : Network f} {m n : Int}

/-! ### Two networks -/

theorem size_dvd_size (shorter : p.mask ≤ q.mask) : q.size ∣ p.size :=
  Nat.pow_dvd_pow 2 (Nat.sub_le_sub_left shorter f.bits)

/-- The network with the longer mask is one of the units that the other is made up of. -/
theorem mem_block_of_mem (shorter : p.mask ≤ q.mask) (hm : m ∈ q.block) (common : m ∈ p.block)
    (hn : n ∈ q.block) : n ∈ p.block := by
  have unit : q.size ∣ p.start := Nat.dvd_trans (size_dvd_size shorter) p.aligned
  exact Block.mem_of_unit q.block_filled (Int.natCast_dvd_natCast.mpr unit)
    (Int.natCast_dvd_natCast.mpr (size_dvd_size shorter)) (Int.natCast_dvd_natCast.mpr q.aligned) hn hm common

theorem contains_of_mem (shorter : p.mask ≤ q.mask) (hm : m ∈ q.block) (common : m ∈ p.block) :
    p.block.Contains q.block := by
  have filled := q.block_filled
  have first : q.block.start ∈ p.block := mem_block_of_mem shorter hm common (Block.start_mem filled)
  have last : q.block.stop - 1 ∈ p.block := by
    refine mem_block_of_mem shorter hm common (Block.mem_iff.mpr ⟨?_, Int.sub_one_lt_of_le (Int.le_refl _)⟩)
    exact Int.le_sub_one_of_lt (Block.start_mem filled).2
  exact ⟨first.1, Int.le_of_sub_one_lt last.2⟩

theorem overlaps_iff_contains (shorter : p.mask ≤ q.mask) :
    p.block.Overlaps q.block ↔ p.block.Contains q.block := by
  refine ⟨fun meet => ?_, Block.overlaps_of_contains q.block_filled⟩
  obtain ⟨m, hm, common⟩ := Block.exists_mem_of_overlaps p.block_filled q.block_filled meet
  exact contains_of_mem shorter hm common

theorem apart_or_contains (shorter : p.mask ≤ q.mask) :
    p.block.Apart q.block ∨ p.block.Contains q.block := by
  by_cases meet : p.block.Overlaps q.block
  · exact Or.inr ((overlaps_iff_contains shorter).mp meet)
  · exact Or.inl (Block.apart_of_not_overlaps meet)

/-- Of the networks with a mask just one has an address in it. -/
theorem holding_eq_ok_iff_mem {a : Address f} : holding a p.mask = .ok p ↔ (a.value : Int) ∈ p.block := by
  refine ⟨block_holding, fun ⟨low, high⟩ => holding_eq_ok_iff.mpr ⟨rfl, ?_⟩⟩
  -- The start is a multiple of the size, and the address lies before the next one.
  obtain ⟨k, hk⟩ := p.aligned
  have low : p.start ≤ a.value := Int.ofNat_le.mp low
  have high : a.value < p.start + p.size := Int.ofNat_lt.mp high
  rw [hk] at low high
  have whole : a.value / p.size = k := by
    refine Nat.div_eq_of_lt_le ?_ ?_
    · rw [Nat.mul_comm]
      exact low
    · rw [Nat.add_one_mul, Nat.mul_comm]
      exact high
  calc p.start = p.size * (a.value / p.size) := by rw [whole]; exact hk
    _ = a.value - a.value % p.size := Nat.mul_div_self_eq_mod_sub_self

theorem contains_iff_holding (shorter : p.mask ≤ q.mask) :
    p.block.Contains q.block ↔ holding q.first p.mask = .ok p := by
  have start := Block.start_mem q.block_filled
  rw [holding_eq_ok_iff_mem]
  constructor
  · rintro ⟨low, high⟩
    exact ⟨low, Int.lt_of_lt_of_le start.2 high⟩
  · intro common
    exact contains_of_mem shorter start common

/-! ### The whole family -/

theorem pairwise_start_lt {nets : List (Network f)} (apart : nets.Pairwise (·.block.Apart ·.block))
    (sorted : nets.Pairwise (·.block.stop ≤ ·.block.stop)) : nets.Pairwise (·.start < ·.start) := by
  refine (apart.and sorted).imp fun {p q} ⟨away, le⟩ => ?_
  exact Int.ofNat_lt.mp (Block.start_lt_of_apart p.block_filled away le)

/-- The networks of a family are a laminar one: two of them are apart or one contains the other. As soon as
they overlap, the one with the shorter mask contains the other and is what the other is cut off to; words have
room to find this out. Networks with one end are nested, so networks that are apart and in the order of their
ends begin one after the other. -/
theorem blocks_laminar (f : Family) :
    (∀ p q : Network f, p.block.Apart q.block ∨ p.block.Contains q.block ∨ q.block.Contains p.block) ∧
    (∀ p q : Network f, p.mask ≤ q.mask →
      (p.block.Overlaps q.block ↔ p.block.Contains q.block) ∧
      (p.block.Contains q.block ↔ holding q.first p.mask = .ok p)) ∧
    (∀ p q : Network f, f.word.overlaps p.block q.block = some (decide (p.block.Overlaps q.block)) ∧
      f.word.contains p.block q.block = some (decide (p.block.Contains q.block))) ∧
    (∀ p q : Network f, p.block.stop = q.block.stop →
      p.block.Contains q.block ∨ q.block.Contains p.block) ∧
    ∀ nets : List (Network f), nets.Pairwise (·.block.Apart ·.block) →
      (nets.Pairwise (·.block.stop ≤ ·.block.stop) → nets.Pairwise (·.start < ·.start)) ∧
      (sortBy (·.block.stop) nets).Pairwise (·.start < ·.start) := by
  refine ⟨fun p q => ?_, fun p q shorter => ?_, fun p q => ?_, fun p q => Block.contains_of_stop_eq,
    fun nets apart => ?_⟩
  · rcases Nat.le_total p.mask q.mask with shorter | longer
    · exact (apart_or_contains shorter).imp_right Or.inl
    · exact (apart_or_contains longer).imp Block.Apart.symm Or.inr
  · exact ⟨overlaps_iff_contains shorter, contains_iff_holding shorter⟩
  · have spans := f.word_spans
    exact ⟨spans.overlaps_eq p.block_within q.block_within, spans.contains_eq p.block_within q.block_within⟩
  · have order := perm_sortBy (·.block.stop) nets
    have reordered := (order.pairwise_iff Block.Apart.symm).mpr apart
    exact ⟨pairwise_start_lt apart, pairwise_start_lt reordered (pairwise_sortBy (·.block.stop) nets)⟩

/-- A network, its upper half, which ends where it does, and the next network. -/
theorem blocks_laminar_upper_half :
    ∃ p q next : Network .v4, read .v4 "10.0.0.77/24" = .ok p ∧ read .v4 "10.0.0.200/25" = .ok q ∧
      read .v4 "10.0.1.3/24" = .ok next ∧
      (p.mask ≤ q.mask ∧ p.block.Overlaps q.block ∧ p.block.Contains q.block ∧
        holding q.first p.mask = .ok p) ∧
      (p.block.stop = q.block.stop ∧ (p.block.Contains q.block ∨ q.block.Contains p.block)) ∧
      [next, q].Pairwise (·.block.Apart ·.block) ∧
      (sortBy (·.block.stop) [next, q]).Pairwise (·.start < ·.start) := by
  let p : Network .v4 := ⟨167772160, 24, by decide, by decide, by decide⟩
  let q : Network .v4 := ⟨167772288, 25, by decide, by decide, by decide⟩
  let next : Network .v4 := ⟨167772416, 24, by decide, by decide, by decide⟩
  obtain ⟨-, cuts, -, nested, ordered⟩ := blocks_laminar .v4
  have shorter : p.mask ≤ q.mask := by decide
  have meet : p.block.Overlaps q.block := by decide
  obtain ⟨contains, cut⟩ := cuts p q shorter
  have within := contains.mp meet
  have apart : [next, q].Pairwise (·.block.Apart ·.block) :=
    List.pairwise_pair.mpr (Block.apart_of_not_overlaps (by decide))
  exact ⟨p, q, next, rfl, rfl, rfl, ⟨shorter, meet, within, cut.mp within⟩, ⟨rfl, nested p q rfl⟩, apart,
    (ordered [next, q] apart).2⟩

end Network
end ResourcePool
