import ResourcePool.Proofs.Block.Cover

/-! Blocks in a row. As long as the held blocks are exactly what lies between the start of the parent and
a cursor, the least place that fits is the cursor itself, and when a block does not fit there it fits
nowhere. -/

namespace ResourcePool

/-- Blocks of the given sizes one behind the other from a cursor on; a size that would go past the end is
left out. -/
def row (stop : Int) : Int → List Int → List (Option Block)
  | _, [] => []
  | cursor, size :: rest =>
    if cursor + size ≤ stop then some ⟨cursor, size⟩ :: row stop (cursor + size) rest
    else none :: row stop cursor rest

/-- Equal blocks follow one another until the room is used up, and none does from then on. -/
theorem row_replicate {stop size : Int} (positive : 0 < size) (k : Nat) (cursor : Int) :
    row stop cursor (List.replicate k size) = (List.range k).map fun i : Nat =>
      if i < (stop - cursor) / size then some ⟨cursor + i * size, size⟩ else none := by
  induction k generalizing cursor with
  | zero => rfl
  | succ k ih =>
    rw [List.replicate_succ, List.range_succ_eq_map, List.map_cons, List.map_map, row]
    by_cases fits : cursor + size ≤ stop
    · have step : (stop - cursor) / size = (stop - (cursor + size)) / size + 1 := by
        rw [show stop - cursor = stop - (cursor + size) + 1 * size by omega,
          Int.add_mul_ediv_right _ _ positive.ne']
      have rest : 0 ≤ (stop - (cursor + size)) / size := Int.ediv_nonneg (by omega) positive.le
      rw [if_pos fits, ih, if_pos (by omega)]
      refine List.cons_eq_cons.mpr ⟨by simp, List.map_congr_left fun i _ => ?_⟩
      have next : cursor + size + i * size = cursor + (i + 1 : Nat) * size := by
        rw [Int.natCast_add, Int.add_mul]
        omega
      simp only [Function.comp_apply, Nat.succ_eq_add_one, step, next]
      exact if_congr (by omega) rfl rfl
    · have full : (stop - cursor) / size < 1 := Int.ediv_lt_of_lt_mul positive (by omega)
      rw [if_neg fits, ih, if_neg (by omega)]
      refine List.cons_eq_cons.mpr ⟨rfl, List.map_congr_left fun i _ => ?_⟩
      rw [Function.comp_apply, if_neg (by omega), if_neg (by omega)]

/-- The blocks are what lies between the start of the parent and the cursor. -/
structure Lined (parent : Block) (blocks : List Block) (cursor : Int) : Prop where
  le : parent.start ≤ cursor
  covers : ∀ n, n ∈ covered blocks ↔ parent.start ≤ n ∧ n < cursor

namespace Lined
variable {parent : Block} {blocks : List Block} {cursor size alignment : Int}

theorem nil (parent : Block) : Lined parent [] parent.start where
  le := Int.le_refl _
  covers n := by
    rw [mem_covered]
    simp only [List.not_mem_nil, false_and, exists_false, false_iff]
    omega

theorem append_singleton (h : Lined parent blocks cursor) (filled : 0 < size) :
    Lined parent (blocks ++ [⟨cursor, size⟩]) (cursor + size) where
  le := by
    have := h.le
    omega
  covers n := by
    have := h.le
    rw [covered_append, Finset.mem_union, h.covers, mem_covered]
    simp only [List.mem_singleton, exists_eq_left, Block.mem_iff, Block.stop]
    omega

theorem le_of_fits (h : Lined parent blocks cursor) (filled : 0 < size) {q : Int}
    (hq : Fits parent blocks size alignment q) : cursor ≤ q := by
  have free := hq.not_mem_covered filled
  rw [h.covers, not_and, Int.not_lt] at free
  exact free hq.inside.1

theorem isLeast (h : Lined parent blocks cursor) (filled : 0 < size) (aligned : alignment ∣ cursor)
    (room : cursor + size ≤ parent.stop) : IsLeast {q | Fits parent blocks size alignment q} cursor := by
  refine ⟨⟨aligned, ⟨h.le, room⟩, fun b hb n hn within => ?_⟩, fun q hq => h.le_of_fits filled hq⟩
  obtain ⟨-, before⟩ := (h.covers n).mp (mem_covered.mpr ⟨b, hb, hn⟩)
  obtain ⟨low, -⟩ := within
  dsimp only at low
  omega

theorem not_fits (h : Lined parent blocks cursor) (filled : 0 < size)
    (short : ¬cursor + size ≤ parent.stop) : ¬∃ q, Fits parent blocks size alignment q := by
  rintro ⟨q, hq⟩
  have := h.le_of_fits filled hq
  obtain ⟨-, high⟩ := hq.inside
  dsimp only [Block.stop] at high short
  omega

end Lined
end ResourcePool
