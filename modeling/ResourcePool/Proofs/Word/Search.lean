import ResourcePool.Choice
import ResourcePool.Proofs.Block.Fit
import ResourcePool.Proofs.Word.Basic

/-! Searches in words. Cursors never add up: each place a search comes to is the aligned end of one block,
so a type that holds a few times the bounds of the blocks holds every number on the way, however many
blocks there are. -/

namespace ResourcePool

/-! ### One number -/

namespace Width

/-- The least number from `first` to `last` that is not among ascending ones. -/
def freeFrom (w : Width) (first last : Int) : List Int → Option (Option Int)
  | [] => some (if first ≤ last then some first else none)
  | n :: rest =>
    if last < first then some none
    else if n < first then w.freeFrom first last rest
    else if first < n then some (some first)
    else if first = last then some none
    else do w.freeFrom (← w.fit (first + 1)) last rest

/-- The wanted number, or the least one that is free. -/
def chooseNumber (w : Width) (first last : Int) (taken : IntSet) :
    Option Int → Option (Except NoNumber Int)
  | some wanted =>
    if wanted < first ∨ last < wanted then some (.error .outside)
    else if wanted ∈ taken then some (.error .taken)
    else some (.ok wanted)
  | none => do
    match ← w.freeFrom first last taken.elements with
    | some n => some (.ok n)
    | none => some (.error .exhausted)

variable {w : Width} {first last : Int}

/-- The search goes up by one only below the last number. -/
theorem freeFrom_eq {taken : List Int} (holds : ∀ n, first ≤ n → n ≤ last → w.Holds n) :
    w.freeFrom first last taken = some (ResourcePool.freeFrom first last taken) := by
  induction taken generalizing first with
  | nil => rfl
  | cons n rest ih =>
    simp only [freeFrom, ResourcePool.freeFrom]
    split
    · rfl
    · split
      · exact ih holds
      · split
        · rfl
        · split
          · rfl
          · rw [fit_of_holds (holds (first + 1) (by omega) (by omega))]
            exact ih fun n low high => holds n (by omega) high

theorem chooseNumber_eq {taken : IntSet} {wanted : Option Int}
    (holds : ∀ n, first ≤ n → n ≤ last → w.Holds n) :
    w.chooseNumber first last taken wanted = some (ResourcePool.chooseNumber first last taken wanted) := by
  cases wanted with
  | none =>
    simp only [chooseNumber, ResourcePool.chooseNumber, freeFrom_eq holds, firstFree]
    cases ResourcePool.freeFrom first last taken.elements <;> rfl
  | some wanted =>
    simp only [chooseNumber, ResourcePool.chooseNumber]
    split
    · rfl
    · split <;> rfl

end Width

/-! ### One block -/

/-- Both ends of the block are between the bounds. -/
structure Block.Within (low high : Int) (b : Block) : Prop where
  low_start : low ≤ b.start
  start_high : b.start ≤ high
  low_stop : low ≤ b.stop
  stop_high : b.stop ≤ high

theorem Block.Within.mono {low high high' : Int} {b : Block} (h : b.Within low high) (le : high ≤ high') :
    b.Within low high' :=
  ⟨h.low_start, Int.le_trans h.start_high le, h.low_stop, Int.le_trans h.stop_high le⟩

namespace Width

/-- The type holds all numbers from the lower bound to four times the upper one. -/
structure Spans (w : Width) (low high : Int) : Prop where
  low_nonpos : low ≤ 0
  neg_high : -high ≤ low
  holds : ∀ n, low ≤ n → n ≤ 4 * high → w.Holds n

/-- The items in the order of their blocks' ends, all of which have to fit. -/
def sortBy {α : Type} (w : Width) (block : α → Block) (items : List α) : Option (List α) :=
  if items.all fun item => (w.stop (block item)).isSome then
    some (ResourcePool.sortBy (fun item => (block item).stop) items)
  else none

/-- The start of the wanted block, or the first place that fits. The blocks are those of the holders. -/
def chooseBlock {α : Type} (w : Width) (parent : Block) (holders : List α) (blocks : List Block)
    (size alignment : Int) : Option Int → Option (Except (NoBlock α) Int)
  | some wanted => do
    let candidate : Block := ⟨wanted, size⟩
    let network ← w.fit (wanted - wanted % alignment)
    if network ≠ wanted then
      let next ← w.nextFreeAfter network blocks size alignment
      some (.error (.misaligned next))
    else if ← w.contains parent candidate then
      match (← w.firstOverlap candidate blocks).bind (holders[·]?) with
      | some holder => some (.error (.overlaps holder))
      | none => some (.ok wanted)
    else some (.error .outside)
  | none => do
    match ← w.firstFit parent blocks size alignment with
    | some start => some (.ok start)
    | none => some (.error .exhausted)

namespace Spans
variable {w : Width} {low high value alignment size cursor : Int} {a b parent : Block} {held : List Block}

theorem stop_eq (h : w.Spans low high) (within : b.Within low high) : w.stop b = some b.stop := by
  obtain ⟨-, -, lower, upper⟩ := within
  have := h.low_nonpos
  have := h.neg_high
  have inside : b.stop ≤ 4 * high := by omega
  exact fit_of_holds (h.holds _ lower inside)

theorem sortBy_eq {α : Type} {block : α → Block} {items : List α} (h : w.Spans low high)
    (within : ∀ item ∈ items, (block item).Within low high) :
    w.sortBy block items = some (ResourcePool.sortBy (fun item => (block item).stop) items) := by
  refine if_pos (List.all_eq_true.mpr fun item hitem => ?_)
  rw [h.stop_eq (within item hitem)]
  rfl

theorem sortByStop_eq (h : w.Spans low high) (within : ∀ b ∈ held, b.Within low high) :
    w.sortByStop held = some (ResourcePool.sortBy Block.stop held) := by
  have blocks : w.sortBy id held = some (ResourcePool.sortBy Block.stop held) := h.sortBy_eq within
  exact blocks

theorem alignUp_eq (h : w.Spans low high) (lower : low ≤ value) (upper : value ≤ high)
    (positive : 0 < alignment) (small : alignment ≤ high) :
    w.alignUp value alignment = some (ResourcePool.alignUp value alignment) ∧
      low ≤ ResourcePool.alignUp value alignment ∧ ResourcePool.alignUp value alignment ≤ 3 * high := by
  have above := le_alignUp value positive
  have rest_lt := Int.tmod_lt_of_pos value positive
  have lt_rest : -alignment < value.tmod alignment := Int.lt_tmod_of_pos value positive
  have := h.low_nonpos
  simp only [alignUp, ResourcePool.alignUp, if_neg (Int.ne_of_gt positive)] at above ⊢
  split
  case isTrue whole =>
    exact ⟨rfl, lower, by omega⟩
  case isFalse broken =>
    rw [if_neg broken] at above
    rw [fit_of_holds (h.holds _ (by omega) (by omega)), Option.bind_some,
      fit_of_holds (h.holds _ (by omega) (by omega))]
    exact ⟨rfl, by omega, by omega⟩

/-- Past a block the cursor stays within three times the bound. -/
theorem pass_eq (h : w.Spans low high) (within : b.Within low high) (lower : low ≤ cursor)
    (upper : cursor ≤ 3 * high) (positive : 0 < alignment) (small : alignment ≤ high) :
    w.pass cursor b alignment = some (ResourcePool.pass cursor b alignment) ∧
      low ≤ ResourcePool.pass cursor b alignment ∧ ResourcePool.pass cursor b alignment ≤ 3 * high := by
  obtain ⟨aligned, alignedLow, alignedHigh⟩ :=
    h.alignUp_eq within.low_stop within.stop_high positive small
  refine ⟨?_, ?_, ?_⟩
  · simp only [pass, h.stop_eq within, aligned, Option.bind_eq_bind, Option.bind_some, ResourcePool.pass]
  · exact Int.le_trans lower (le_pass ..)
  · exact Int.max_le.mpr ⟨upper, alignedHigh⟩

theorem leavesRoom_eq (h : w.Spans low high) (within : b.Within low high) (lower : low ≤ cursor) :
    w.leavesRoom b cursor size = some (decide (b.LeavesRoom cursor size)) := by
  obtain ⟨-, upper, -, -⟩ := within
  have := h.low_nonpos
  have := h.neg_high
  rw [leavesRoom]
  split
  case isTrue le =>
    rw [fit_of_holds (h.holds _ (by omega) (by omega)), Option.map_some]
    simp [Block.LeavesRoom, le]
  case isFalse lt => simp [Block.LeavesRoom, lt]

theorem fitFrom_eq (h : w.Spans low high) (inside : parent.Within low high)
    (within : ∀ b ∈ held, b.Within low high) (lower : low ≤ cursor) (upper : cursor ≤ 3 * high)
    (natural : 0 ≤ size) (size_le : size ≤ high) (positive : 0 < alignment) (small : alignment ≤ high) :
    w.fitFrom parent size alignment cursor held =
      some (ResourcePool.fitFrom parent.stop size alignment cursor held) := by
  induction held generalizing cursor with
  | nil =>
    simp only [fitFrom, fit_of_holds (h.holds (cursor + size) (by omega) (by omega)), h.stop_eq inside,
      Option.bind_eq_bind, Option.bind_some, ResourcePool.fitFrom]
  | cons b rest ih =>
    obtain ⟨first, others⟩ := List.forall_mem_cons.mp within
    obtain ⟨passed, passedLow, passedHigh⟩ := h.pass_eq first lower upper positive small
    simp only [fitFrom, h.leavesRoom_eq first lower, passed, Option.bind_eq_bind, Option.bind_some,
      decide_eq_true_eq, ResourcePool.fitFrom]
    split
    · rfl
    · exact ih others passedLow passedHigh

theorem firstFit_eq (h : w.Spans low high) (inside : parent.Within low high)
    (within : ∀ b ∈ held, b.Within low high) (natural : 0 ≤ size) (size_le : size ≤ high)
    (positive : 0 < alignment) (small : alignment ≤ high) :
    w.firstFit parent held size alignment =
      some (ResourcePool.firstFit parent held size alignment) := by
  obtain ⟨aligned, alignedLow, alignedHigh⟩ :=
    h.alignUp_eq inside.low_start inside.start_high positive small
  simp only [firstFit, aligned, Option.bind_eq_bind, Option.bind_some, ResourcePool.firstFit]
  exact h.fitFrom_eq inside within alignedLow alignedHigh natural size_le positive small

theorem nextFreeAfter_eq {network : Int} (h : w.Spans low high) (within : ∀ b ∈ held, b.Within low high)
    (lower : low ≤ network) (upper : network ≤ high) (positive : 0 < alignment)
    (small : alignment ≤ high) :
    w.nextFreeAfter network held size alignment =
      some (ResourcePool.nextFreeAfter network held size alignment) := by
  have run : ∀ cursor, low ≤ cursor → cursor ≤ 3 * high →
      w.freeAfterFrom network size alignment cursor held =
        some (ResourcePool.freeAfterFrom network size alignment cursor held) := by
    induction held with
    | nil => exact fun cursor _ _ => rfl
    | cons b rest ih =>
      intro cursor cursorLow cursorHigh
      obtain ⟨first, others⟩ := List.forall_mem_cons.mp within
      obtain ⟨passed, passedLow, passedHigh⟩ := h.pass_eq first cursorLow cursorHigh positive small
      have room : w.leavesRoomAfter network b cursor size =
          some (decide (network < b.start ∧ b.LeavesRoom cursor size)) := by
        rw [leavesRoomAfter]
        split
        case isTrue lt => simp [h.leavesRoom_eq first cursorLow, lt]
        case isFalse ge => simp [ge]
      simp only [freeAfterFrom, room, passed, Option.bind_eq_bind, Option.bind_some, decide_eq_true_eq,
        ResourcePool.freeAfterFrom]
      split
      · rfl
      · exact ih others _ passedLow passedHigh
  exact run network lower (by have := h.low_nonpos; have := h.neg_high; omega)

theorem contains_eq (h : w.Spans low high) (ha : a.Within low high) (hb : b.Within low high) :
    w.contains a b = some (decide (a.Contains b)) := by
  simp only [contains, h.stop_eq ha, h.stop_eq hb, Option.bind_eq_bind, Option.bind_some]
  split
  case isTrue le => simp [Block.Contains, le]
  case isFalse lt => simp [Block.Contains, lt]

theorem overlaps_eq (h : w.Spans low high) (ha : a.Within low high) (hb : b.Within low high) :
    w.overlaps a b = some (decide (a.Overlaps b)) := by
  simp only [overlaps, h.stop_eq ha, h.stop_eq hb, Option.bind_eq_bind, Option.bind_some]
  split
  case isTrue lt => simp [Block.Overlaps, lt]
  case isFalse ge => simp [Block.Overlaps, ge]

theorem firstOverlap_eq (h : w.Spans low high) (ha : a.Within low high)
    (within : ∀ b ∈ held, b.Within low high) :
    w.firstOverlap a held = some (ResourcePool.firstOverlap a held) := by
  induction held with
  | nil => rfl
  | cons b rest ih =>
    obtain ⟨first, others⟩ := List.forall_mem_cons.mp within
    simp only [firstOverlap, h.overlaps_eq first ha, ih others, Option.bind_eq_bind, Option.bind_some,
      Option.map_some, ResourcePool.firstOverlap, List.findIdx?_cons]
    split <;> rfl

end Spans

section Choice
variable {α : Type} {w : Width} {low high size alignment : Int} {parent : Block} {holders : List α}
  {block : α → Block}

/-- The holder at the position of the first overlap is the first that overlaps. -/
theorem getElem?_firstOverlap (candidate : Block) (holders : List α) :
    (ResourcePool.firstOverlap candidate (holders.map block)).bind (holders[·]?) =
      holders.find? fun holder => decide ((block holder).Overlaps candidate) := by
  induction holders with
  | nil => rfl
  | cons holder rest ih =>
    rw [ResourcePool.firstOverlap, List.map_cons, List.findIdx?_cons, List.find?_cons]
    by_cases overlap : (block holder).Overlaps candidate
    · simp [overlap]
    · simp only [overlap, decide_false, Bool.false_eq_true, ↓reduceIte]
      rw [← ih, ResourcePool.firstOverlap, Option.bind_map]
      rfl

theorem Spans.chooseBlock_eq {wanted : Option Int} (h : w.Spans low high) (inside : parent.Within low high)
    (within : ∀ holder ∈ holders, (block holder).Within low high) (natural : 0 ≤ size)
    (size_le : size ≤ high) (positive : 0 < alignment) (small : alignment ≤ high)
    (candidate : ∀ n, wanted = some n →
      (⟨n, size⟩ : Block).Within low high ∧ low ≤ n - n % alignment) :
    w.chooseBlock parent holders (holders.map block) size alignment wanted =
      some (ResourcePool.chooseBlock parent holders block size alignment wanted) := by
  have blocks : ∀ b ∈ holders.map block, b.Within low high := List.forall_mem_map.mpr within
  cases wanted with
  | none =>
    simp only [chooseBlock, h.firstFit_eq inside blocks natural size_le positive small, Option.bind_eq_bind,
      Option.bind_some, ResourcePool.chooseBlock]
    cases ResourcePool.firstFit parent (holders.map block) size alignment <;> rfl
  | some n =>
    obtain ⟨wantedWithin, lower⟩ := candidate n rfl
    have upper : n - n % alignment ≤ high := by
      have := Int.emod_nonneg n (Int.ne_of_gt positive)
      have := wantedWithin.start_high
      dsimp only at this
      omega
    have network : w.Holds (n - n % alignment) := h.holds _ lower (by omega)
    simp only [chooseBlock, fit_of_holds network, Option.bind_eq_bind, Option.bind_some,
      ResourcePool.chooseBlock]
    split
    case isTrue =>
      rw [h.nextFreeAfter_eq blocks lower upper positive small]
      rfl
    case isFalse =>
      simp only [h.contains_eq inside wantedWithin, h.firstOverlap_eq wantedWithin blocks,
        Option.bind_some, getElem?_firstOverlap, decide_eq_true_eq]
      by_cases contained : parent.Contains ⟨n, size⟩
      · simp only [contained, ↓reduceIte, not_true_eq_false]
        cases holders.find? fun holder => decide ((block holder).Overlaps ⟨n, size⟩) <;> rfl
      · simp only [contained, ↓reduceIte, not_false_eq_true]

end Choice
end Width
end ResourcePool
