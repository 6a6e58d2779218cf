import Mathlib.Order.Bounds.Defs
import ResourcePool.Proofs.Block.Room

/-! The search for room is exact. It stops before the first block that leaves room for the size, or
behind all of them, and every aligned place that its cursor jumps over is taken by the block it jumps
over it for. Hence in a packed parent it finds the least place that fits, and fails only when there is
none. -/

namespace ResourcePool

/-! ### Rounding up -/

theorem le_alignUp (value : Int) {alignment : Int} (h : 0 < alignment) :
    value ≤ alignUp value alignment := by
  have below := Int.tmod_lt_of_pos value h
  simp only [alignUp]
  split <;> omega

/-- Rounding up goes to the next multiple, unless it starts below zero between two multiples. -/
theorem alignUp_le {value alignment place : Int} (h : 0 ≤ value ∨ alignment ∣ value)
    (dvd : alignment ∣ place) (le : value ≤ place) : alignUp value alignment ≤ place := by
  rcases h with natural | whole
  · have rest := Int.tmod_nonneg alignment natural
    simp only [alignUp]
    split
    case isTrue => exact le
    case isFalse broken =>
      rw [Int.tmod_eq_emod_of_nonneg natural] at broken rest ⊢
      -- Two multiples are at least one alignment apart.
      have step : alignment ≤ place - (value - value % alignment) :=
        Int.le_of_dvd (by omega) (Int.dvd_sub dvd Int.dvd_self_sub_emod)
      omega
  · rwa [alignUp_of_dvd whole]

/-! ### Where the search stops -/

section Fit
variable {stop size alignment cursor place : Int} {held : List Block}

theorem dvd_fitFrom (h : fitFrom stop size alignment cursor held = some place)
    (aligned : alignment ∣ cursor) : alignment ∣ place := by
  induction held generalizing cursor with
  | nil =>
    simp only [fitFrom] at h
    split at h
    · cases h
      exact aligned
    · cases h
  | cons b rest ih =>
    simp only [fitFrom] at h
    split at h
    · cases h
      exact aligned
    · refine ih h ?_
      rcases Int.le_total cursor (alignUp b.stop alignment) with le | le
      · rw [pass, Int.max_eq_right le]
        exact dvd_alignUp ..
      · rw [pass, Int.max_eq_left le]
        exact aligned

/-- The search stops before a block that leaves room or behind all of them, and does not stop before
the end of a block that it has passed. -/
theorem fitFrom_split (positive : 0 < alignment)
    (h : fitFrom stop size alignment cursor held = some place) :
    ∃ passed ahead, held = passed ++ ahead ∧ (∀ b ∈ passed, b.stop ≤ place) ∧
      ((ahead = [] ∧ place + size ≤ stop) ∨ ∃ b rest, ahead = b :: rest ∧ place + size ≤ b.start) := by
  induction held generalizing cursor with
  | nil =>
    simp only [fitFrom] at h
    split at h
    case isTrue fits =>
      cases h
      exact ⟨[], [], rfl, by simp, Or.inl ⟨rfl, fits⟩⟩
    case isFalse => cases h
  | cons b rest ih =>
    simp only [fitFrom] at h
    split at h
    case isTrue room =>
      cases h
      obtain ⟨-, gap⟩ := room
      exact ⟨[], b :: rest, rfl, by simp, Or.inr ⟨b, rest, rfl, by omega⟩⟩
    case isFalse =>
      obtain ⟨passed, ahead, rfl, before, after⟩ := ih h
      refine ⟨b :: passed, ahead, rfl, ?_, after⟩
      intro c hc
      rcases List.mem_cons.mp hc with rfl | hc
      · have jump : c.stop ≤ pass cursor c alignment :=
          Int.le_trans (le_alignUp c.stop positive) (Int.le_max_right ..)
        exact Int.le_trans jump (le_fitFrom h)
      · exact before c hc

/-- A place that no held block overlaps is never jumped over. -/
theorem exists_fitFrom_le (positive : 0 < size) (aligned : alignment ∣ place)
    (round : ∀ b ∈ held, 0 ≤ b.stop ∨ alignment ∣ b.stop)
    (free : ∀ b ∈ held, ¬b.Overlaps ⟨place, size⟩) (from_ : cursor ≤ place)
    (fits : place + size ≤ stop) :
    ∃ found, fitFrom stop size alignment cursor held = some found ∧ found ≤ place := by
  induction held generalizing cursor with
  | nil => exact ⟨cursor, by rw [fitFrom, if_pos (by omega)], from_⟩
  | cons b rest ih =>
    by_cases room : b.LeavesRoom cursor size
    · exact ⟨cursor, by rw [fitFrom, if_pos room], from_⟩
    · -- A block that is neither ahead of the place nor over it has ended before it.
      have behind : b.stop ≤ place := by
        have clear := free b List.mem_cons_self
        simp only [Block.Overlaps, Block.stop, Block.LeavesRoom] at clear room ⊢
        omega
      rw [fitFrom, if_neg room]
      exact ih (fun c hc => round c (List.mem_cons_of_mem _ hc))
        (fun c hc => free c (List.mem_cons_of_mem _ hc))
        (Int.max_le.mpr ⟨from_, alignUp_le (round b List.mem_cons_self) aligned behind⟩)

end Fit

/-! ### The least place that fits -/

/-- A block of the size at the place is aligned, lies inside the parent and is apart from every held
block. -/
structure Fits (parent : Block) (held : List Block) (size alignment place : Int) : Prop where
  aligned : alignment ∣ place
  inside : parent.Contains ⟨place, size⟩
  free : ∀ b ∈ held, b.Apart ⟨place, size⟩

theorem Fits.perm_iff {parent : Block} {held held' : List Block} {size alignment place : Int}
    (p : held'.Perm held) :
    Fits parent held' size alignment place ↔ Fits parent held size alignment place :=
  ⟨fun h => ⟨h.aligned, h.inside, fun b hb => h.free b (p.mem_iff.mpr hb)⟩,
    fun h => ⟨h.aligned, h.inside, fun b hb => h.free b (p.mem_iff.mp hb)⟩⟩

section FirstFit
variable {parent : Block} {held : List Block} {size alignment place : Int}

/-- The search stops no further than the end of the parent and the starts of the held blocks. -/
theorem firstFit_bounds {limit : Int} (positive : 0 < alignment) (stop_le : parent.stop ≤ limit)
    (near : ∀ b ∈ held, b.start ≤ limit) (h : firstFit parent held size alignment = some place) :
    parent.start ≤ place ∧ place + size ≤ limit := by
  have low : parent.start ≤ place := Int.le_trans (le_alignUp _ positive) (le_fitFrom h)
  obtain ⟨passed, ahead, rfl, -, after⟩ := fitFrom_split positive h
  refine ⟨low, ?_⟩
  rcases after with ⟨-, inside⟩ | ⟨b, rest, rfl, gap⟩
  · exact Int.le_trans inside stop_le
  · exact Int.le_trans gap (near b (by simp))

/-- The search stays inside the parent unless a held block starts past the parent's end. -/
theorem firstFit_inside (positive : 0 < alignment) (near : ∀ b ∈ held, b.start ≤ parent.stop)
    (h : firstFit parent held size alignment = some place) : parent.Contains ⟨place, size⟩ :=
  firstFit_bounds positive (Int.le_refl _) near h

/-- In a list without nested blocks the search finds a place that no held block overlaps. -/
theorem firstFit_clear (positive : 0 < alignment) (sorted : held.Pairwise (·.stop ≤ ·.stop))
    (unnested : Unnested held) (h : firstFit parent held size alignment = some place) :
    ∀ b ∈ held, ¬b.Overlaps ⟨place, size⟩ := by
  have starts := unnested.pairwise_start sorted
  obtain ⟨passed, ahead, rfl, before, after⟩ := fitFrom_split positive h
  rintro b hb ⟨left, right⟩
  dsimp only [Block.stop] at left right
  rcases List.mem_append.mp hb with hb | hb
  · have := before b hb
    dsimp only [Block.stop] at this
    omega
  · -- What lies ahead starts no earlier than the block that the search stopped before.
    rcases after with ⟨rfl, -⟩ | ⟨c, rest, rfl, gap⟩
    · cases hb
    · have later : c.start ≤ b.start := by
        rcases List.mem_cons.mp hb with rfl | hb
        · exact Int.le_refl _
        · exact List.rel_of_pairwise_cons (List.pairwise_append.mp starts).2.1 hb
      omega

theorem dvd_firstFit (h : firstFit parent held size alignment = some place) : alignment ∣ place :=
  dvd_fitFrom h (dvd_alignUp ..)

theorem Packed.near (h : Packed parent held) : ∀ b ∈ held, b.start ≤ parent.stop := by
  intro b hb
  have filled := h.filled b hb
  have inside := (h.inside b hb).2
  dsimp only [Block.stop] at inside ⊢
  omega

theorem Packed.round (h : Packed parent held) (natural : 0 ≤ parent.start ∨ alignment = 1) :
    ∀ b ∈ held, 0 ≤ b.stop ∨ alignment ∣ b.stop := by
  intro b hb
  rcases natural with natural | rfl
  · have filled := h.filled b hb
    have inside := (h.inside b hb).1
    exact Or.inl (by dsimp only [Block.stop]; omega)
  · exact Or.inr (Int.one_dvd _)

theorem exists_firstFit_le (packed : Packed parent held) (natural : 0 ≤ parent.start ∨ alignment = 1)
    (filled : 0 < size) (h : Fits parent held size alignment place) :
    ∃ found, firstFit parent held size alignment = some found ∧ found ≤ place := by
  have start : alignUp parent.start alignment ≤ place :=
    alignUp_le (natural.imp_right fun (one : alignment = 1) => one ▸ Int.one_dvd _) h.aligned
      h.inside.1
  exact exists_fitFrom_le filled h.aligned (packed.round natural)
    (fun b hb => (Block.apart_iff_not_overlaps (packed.filled b hb) filled).mp (h.free b hb)) start
    h.inside.2

/-- The search finds exactly the least place that fits. -/
theorem firstFit_eq_some_iff (packed : Packed parent held) (sorted : held.Pairwise (·.stop ≤ ·.stop))
    (natural : 0 ≤ parent.start ∨ alignment = 1) (positive : 0 < alignment) (filled : 0 < size) :
    firstFit parent held size alignment = some place ↔
      IsLeast {q | Fits parent held size alignment q} place := by
  have sound : ∀ {found}, firstFit parent held size alignment = some found →
      Fits parent held size alignment found := by
    intro found h
    have clear := firstFit_clear positive sorted packed.unnested h
    exact ⟨dvd_firstFit h, firstFit_inside positive packed.near h,
      fun b hb => Block.apart_of_not_overlaps (clear b hb)⟩
  constructor
  · intro h
    refine ⟨sound h, fun q hq => ?_⟩
    obtain ⟨found, hfound, le⟩ := exists_firstFit_le packed natural filled hq
    rw [h] at hfound
    cases hfound
    exact le
  · rintro ⟨fits, least⟩
    obtain ⟨found, hfound, le⟩ := exists_firstFit_le packed natural filled fits
    rw [hfound, Int.le_antisymm le (least (sound hfound))]

theorem firstFit_eq_none_iff (packed : Packed parent held) (sorted : held.Pairwise (·.stop ≤ ·.stop))
    (natural : 0 ≤ parent.start ∨ alignment = 1) (positive : 0 < alignment) (filled : 0 < size) :
    firstFit parent held size alignment = none ↔ ¬∃ q, Fits parent held size alignment q := by
  constructor
  · rintro h ⟨q, hq⟩
    obtain ⟨found, hfound, -⟩ := exists_firstFit_le packed natural filled hq
    rw [h] at hfound
    cases hfound
  · intro h
    cases hfirst : firstFit parent held size alignment with
    | none => rfl
    | some found =>
      exact absurd ⟨found, ((firstFit_eq_some_iff packed sorted natural positive filled).mp hfirst).1⟩ h

end FirstFit

/-! ### The choice of a block -/

section Choice
variable {α : Type} {parent : Block} {held : List α} {block : α → Block} {size alignment place : Int}

theorem chooseBlock_none_eq_ok_iff :
    chooseBlock parent held block size alignment none = .ok place ↔
      firstFit parent (held.map block) size alignment = some place := by
  simp only [chooseBlock]
  cases firstFit parent (held.map block) size alignment <;> simp

theorem chooseBlock_of_full (full : firstFit parent (held.map block) size alignment = none) :
    chooseBlock parent held block size alignment none = .error .exhausted := by
  simp only [chooseBlock, full]

/-- A wanted block is chosen exactly when it is aligned, inside the parent and overlaps no held one. -/
theorem chooseBlock_some_eq_ok_iff {wanted : Int} :
    chooseBlock parent held block size alignment (some wanted) = .ok place ↔
      place = wanted ∧ alignment ∣ wanted ∧ parent.Contains ⟨wanted, size⟩ ∧
        ∀ b ∈ held.map block, ¬b.Overlaps ⟨wanted, size⟩ := by
  have aligned : wanted - wanted % alignment ≠ wanted ↔ ¬alignment ∣ wanted := by
    rw [Int.dvd_iff_emod_eq_zero]
    omega
  simp only [chooseBlock, aligned]
  by_cases dvd : alignment ∣ wanted
  · by_cases inside : parent.Contains ⟨wanted, size⟩
    · rw [if_neg (not_not_intro dvd), if_neg (not_not_intro inside)]
      cases hfind : held.find? fun holder => decide ((block holder).Overlaps ⟨wanted, size⟩) with
      | none =>
        have clear : ∀ b ∈ held.map block, ¬b.Overlaps ⟨wanted, size⟩ := by
          simpa using List.find?_eq_none.mp hfind
        exact ⟨fun h => ⟨(Except.ok.inj h).symm, dvd, inside, clear⟩, fun h => by rw [h.1]⟩
      | some holder =>
        have overlap : (block holder).Overlaps ⟨wanted, size⟩ := by simpa using List.find?_some hfind
        have mem := List.mem_map_of_mem (f := block) (List.mem_of_find?_eq_some hfind)
        simp only [reduceCtorEq, false_iff, not_and]
        exact fun _ _ _ clear => clear _ mem overlap
    · rw [if_neg (not_not_intro dvd), if_pos inside]
      simp [inside]
  · rw [if_pos dvd]
    simp [dvd]

theorem mem_of_chooseBlock_overlaps {wanted : Option Int} {holder : α}
    (h : chooseBlock parent held block size alignment wanted = .error (.overlaps holder)) : holder ∈ held := by
  cases wanted with
  | none =>
    simp only [chooseBlock] at h
    split at h <;> cases h
  | some wanted =>
    simp only [chooseBlock] at h
    split at h
    · cases h
    · split at h
      · cases h
      · split at h
        case h_1 found =>
          cases h
          exact List.mem_of_find?_eq_some found
        case h_2 => cases h

theorem chooseBlock_eq_ok_iff_map {wanted : Option Int} :
    chooseBlock parent held block size alignment wanted = .ok place ↔
      chooseBlock parent (held.map block) id size alignment wanted = .ok place := by
  cases wanted with
  | none => simp only [chooseBlock_none_eq_ok_iff, List.map_id]
  | some w => simp only [chooseBlock_some_eq_ok_iff, List.map_id]

theorem chooseBlock_bounds {limit : Int} {wanted : Option Int} (positive : 0 < alignment)
    (stop_le : parent.stop ≤ limit) (near : ∀ b ∈ held.map block, b.start ≤ limit)
    (h : chooseBlock parent held block size alignment wanted = .ok place) :
    alignment ∣ place ∧ parent.start ≤ place ∧ place + size ≤ limit := by
  cases wanted with
  | none =>
    have found := chooseBlock_none_eq_ok_iff.mp h
    exact ⟨dvd_firstFit found, firstFit_bounds positive stop_le near found⟩
  | some wanted =>
    obtain ⟨rfl, aligned, inside, -⟩ := chooseBlock_some_eq_ok_iff.mp h
    exact ⟨aligned, inside.1, Int.le_trans inside.2 stop_le⟩

theorem chooseBlock_fits {wanted : Option Int} (packed : Packed parent (held.map block))
    (sorted : (held.map block).Pairwise (·.stop ≤ ·.stop)) (positive : 0 < alignment)
    (h : chooseBlock parent held block size alignment wanted = .ok place) :
    Fits parent (held.map block) size alignment place := by
  have found : alignment ∣ place ∧ parent.Contains ⟨place, size⟩ ∧
      ∀ b ∈ held.map block, ¬b.Overlaps ⟨place, size⟩ := by
    cases wanted with
    | none =>
      have found := chooseBlock_none_eq_ok_iff.mp h
      exact ⟨dvd_firstFit found, firstFit_inside positive packed.near found,
        firstFit_clear positive sorted packed.unnested found⟩
    | some wanted =>
      obtain ⟨rfl, found⟩ := chooseBlock_some_eq_ok_iff.mp h
      exact found
  exact ⟨found.1, found.2.1, fun b hb => Block.apart_of_not_overlaps (found.2.2 b hb)⟩

end Choice
end ResourcePool
