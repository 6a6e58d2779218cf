import ResourcePool.Proofs.Block.Fit

/-! The place that a misaligned claim is pointed to. Its search is the search for room, begun at the network
that the claim falls into and without an end. In a packed parent it finds the least aligned place from there
on that is apart from every held block, which may lie past the parent but not past an aligned bound of it. -/

namespace ResourcePool

/-- A block of the size at the place is aligned, begins no earlier than the network and is apart from every
held block. -/
structure Vacant (network : Int) (held : List Block) (size alignment place : Int) : Prop where
  aligned : alignment ∣ place
  after : network ≤ place
  free : ∀ b ∈ held, b.Apart ⟨place, size⟩

section
variable {parent : Block} {network size alignment cursor stop place : Int} {held held' : List Block}

theorem Vacant.perm_iff (p : held'.Perm held) :
    Vacant network held' size alignment place ↔ Vacant network held size alignment place :=
  ⟨fun h => ⟨h.aligned, h.after, fun b hb => h.free b (p.mem_iff.mpr hb)⟩,
    fun h => ⟨h.aligned, h.after, fun b hb => h.free b (p.mem_iff.mp hb)⟩⟩

/-- Where no parent ends before it, the place is the one that the search for room finds. -/
theorem fitFrom_eq_some_freeAfterFrom (filled : 0 < size) (after : network ≤ cursor)
    (room : freeAfterFrom network size alignment cursor held + size ≤ stop) :
    fitFrom stop size alignment cursor held =
      some (freeAfterFrom network size alignment cursor held) := by
  induction held generalizing cursor with
  | nil => exact if_pos room
  | cons b rest ih =>
    -- A block that leaves room begins after the cursor, hence after the network.
    have ahead : network < b.start ∧ b.LeavesRoom cursor size ↔ b.LeavesRoom cursor size :=
      and_iff_right_of_imp fun leaves => by
        obtain ⟨-, gap⟩ := leaves
        omega
    rw [freeAfterFrom] at room ⊢
    simp only [ahead] at room ⊢
    rw [fitFrom]
    split
    case isTrue => rfl
    case isFalse leaves =>
      rw [if_neg leaves] at room
      exact ih (Int.le_trans after (le_pass ..)) room

theorem nextFreeAfter_vacant (packed : Packed parent held) (sorted : held.Pairwise (·.stop ≤ ·.stop))
    (aligned : alignment ∣ network) (positive : 0 < alignment) (filled : 0 < size) :
    Vacant network held size alignment (nextFreeAfter network held size alignment) := by
  let place := nextFreeAfter network held size alignment
  have reached : fitFrom (place + size) size alignment network held = some place :=
    fitFrom_eq_some_freeAfterFrom filled (Int.le_refl _) (Int.le_refl _)
  -- The search for room does the same in a parent that begins at the network and ends right behind the place.
  have found : firstFit ⟨network, place + size - network⟩ held size alignment = some place := by
    have stop : Block.stop ⟨network, place + size - network⟩ = place + size := by
      simp only [Block.stop]
      omega
    rw [firstFit, stop, alignUp_of_dvd aligned]
    exact reached
  have clear := firstFit_clear positive sorted packed.unnested found
  exact ⟨dvd_firstFit found, le_fitFrom reached, fun b hb => Block.apart_of_not_overlaps (clear b hb)⟩

/-- No vacant place is passed over. -/
theorem nextFreeAfter_le (packed : Packed parent held) (natural : 0 ≤ parent.start) (filled : 0 < size)
    (h : Vacant network held size alignment place) :
    nextFreeAfter network held size alignment ≤ place := by
  let next := nextFreeAfter network held size alignment
  have reached : fitFrom (max next place + size) size alignment network held = some next :=
    fitFrom_eq_some_freeAfterFrom filled (Int.le_refl _) (Int.add_le_add_right (Int.le_max_left ..) _)
  have clear : ∀ b ∈ held, ¬b.Overlaps ⟨place, size⟩ := fun b hb =>
    (Block.apart_iff_not_overlaps (packed.filled b hb) filled).mp (h.free b hb)
  obtain ⟨found, hfound, le⟩ := exists_fitFrom_le filled h.aligned (packed.round (Or.inl natural)) clear
    h.after (Int.add_le_add_right (Int.le_max_right next place) size)
  rw [reached] at hfound
  cases hfound
  exact le

/-- The place is the least vacant one, in whatever order the blocks are held. -/
theorem nextFreeAfter_isLeast (packed : Packed parent held) (natural : 0 ≤ parent.start)
    (aligned : alignment ∣ network) (positive : 0 < alignment) (filled : 0 < size) :
    IsLeast {q | Vacant network held size alignment q}
      (nextFreeAfter network (sortBy Block.stop held) size alignment) := by
  have order := perm_sortBy Block.stop held
  have packed := packed.perm order
  have vacant := nextFreeAfter_vacant packed (pairwise_sortBy Block.stop held) aligned positive filled
  exact ⟨(Vacant.perm_iff order).mp vacant, fun q hq =>
    nextFreeAfter_le packed natural filled ((Vacant.perm_iff order).mpr hq)⟩

/-- Behind all held blocks every aligned place is vacant. -/
theorem Packed.vacant (packed : Packed parent held) (aligned : alignment ∣ place) (after : network ≤ place)
    (behind : parent.stop ≤ place) : Vacant network held size alignment place where
  aligned := aligned
  after := after
  free b hb n hn within := by
    have before := Int.lt_of_lt_of_le hn.2 (packed.inside b hb).2
    have := within.1
    dsimp only at this
    omega

/-- A place that fits into the parent is vacant from any network on that does not lie behind it. -/
theorem Fits.vacant (h : Fits parent held size alignment place) (after : network ≤ place) :
    Vacant network held size alignment place :=
  ⟨h.aligned, after, h.free⟩

/-- As long as a place fits from the network on, the least vacant place is the least of those that fit. -/
theorem Vacant.isLeast_fits {next : Int} (least : IsLeast {q | Vacant network held size alignment q} next)
    (inside : parent.start ≤ network) (room : ∃ q, Fits parent held size alignment q ∧ network ≤ q) :
    IsLeast {q | Fits parent held size alignment q ∧ network ≤ q} next := by
  obtain ⟨q, fits, after⟩ := room
  obtain ⟨vacant, first⟩ := least
  have le : next ≤ q := first (fits.vacant after)
  have contains : parent.Contains ⟨next, size⟩ := by
    have high := fits.inside.2
    refine ⟨Int.le_trans inside vacant.after, ?_⟩
    dsimp only [Block.stop] at high ⊢
    omega
  exact ⟨⟨⟨vacant.aligned, contains, vacant.free⟩, vacant.after⟩, fun k ⟨fits, after⟩ =>
    first (fits.vacant after)⟩

end
end ResourcePool
