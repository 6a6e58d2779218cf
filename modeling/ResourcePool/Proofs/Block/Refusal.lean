import ResourcePool.Proofs.Block.Fit

/-! Why a wanted block is refused: first for its alignment, then for its place, and last for a held block in
its way. In a list that is in the order of the ends the block that is told is the one with the least end. -/

namespace ResourcePool

/-- In ascending order the first item with a property has the least key of all that have it. -/
theorem le_of_find?_eq_some {α : Type} {key : α → Int} {p : α → Bool} {items : List α} {x y : α}
    (sorted : items.Pairwise (key · ≤ key ·)) (h : items.find? p = some x) (hy : y ∈ items)
    (hp : p y = true) : key x ≤ key y := by
  obtain ⟨-, before, after, rfl, clear⟩ := List.find?_eq_some_iff_append.mp h
  rcases List.mem_append.mp hy with early | late
  · have := clear y early
    rw [hp] at this
    cases this
  · rcases List.mem_cons.mp late with rfl | late
    · exact Int.le_refl _
    · exact List.rel_of_pairwise_cons (List.pairwise_append.mp sorted).2.1 late

section
variable {α : Type} {parent : Block} {held : List α} {block : α → Block} {size alignment wanted : Int}

theorem chooseBlock_eq_misaligned (broken : ¬alignment ∣ wanted) :
    chooseBlock parent held block size alignment (some wanted) =
      .error (.misaligned (nextFreeAfter (wanted - wanted % alignment) (held.map block) size alignment)) := by
  rw [Int.dvd_iff_emod_eq_zero] at broken
  simp only [chooseBlock]
  rw [if_pos (by omega)]

section Aligned
variable (aligned : alignment ∣ wanted)
include aligned

theorem chooseBlock_eq_outside (outside : ¬parent.Contains ⟨wanted, size⟩) :
    chooseBlock parent held block size alignment (some wanted) = .error .outside := by
  rw [Int.dvd_iff_emod_eq_zero] at aligned
  simp only [chooseBlock]
  rw [if_neg (by omega), if_pos outside]

theorem exists_chooseBlock_eq_overlaps (inside : parent.Contains ⟨wanted, size⟩)
    (sorted : held.Pairwise fun x y => (block x).stop ≤ (block y).stop)
    (taken : ∃ x ∈ held, (block x).Overlaps ⟨wanted, size⟩) :
    ∃ holder ∈ held, chooseBlock parent held block size alignment (some wanted) = .error (.overlaps holder) ∧
      (block holder).Overlaps ⟨wanted, size⟩ ∧
      ∀ x ∈ held, (block x).Overlaps ⟨wanted, size⟩ → (block holder).stop ≤ (block x).stop := by
  rw [Int.dvd_iff_emod_eq_zero] at aligned
  simp only [chooseBlock]
  rw [if_neg (by omega), if_neg (not_not_intro inside)]
  cases hfind : held.find? fun holder => decide ((block holder).Overlaps ⟨wanted, size⟩) with
  | none =>
    obtain ⟨x, hx, overlap⟩ := taken
    exact absurd (decide_eq_true overlap) (List.find?_eq_none.mp hfind x hx)
  | some holder =>
    refine ⟨holder, List.mem_of_find?_eq_some hfind, rfl, ?_, fun x hx overlap => ?_⟩
    · simpa using List.find?_some hfind
    · exact @le_of_find?_eq_some α (fun x => (block x).stop) _ _ _ _ sorted hfind hx (decide_eq_true overlap)

end Aligned
end
end ResourcePool
