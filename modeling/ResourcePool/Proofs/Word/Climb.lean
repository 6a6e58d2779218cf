import ResourcePool.Proofs.IntSet
import ResourcePool.Proofs.Word.Fit

/-! The search for a free number as a loop in words. It takes up one candidate after the other until one is
free or is the last. All candidates before the one it stops at are taken, so there is at most one more of
them than there are numbers taken; and as it never goes up from the last one, it never leaves the type. -/

namespace ResourcePool

/-- The candidates that the loop comes to, one after the other, and its answer. -/
structure Climb where
  candidates : List Int
  answer : Option Int

/-- The loop came to one candidate before. -/
def Climb.after (candidate : Int) (c : Climb) : Climb := ⟨candidate :: c.candidates, c.answer⟩

/-- The run of the loop from a candidate on, unless a candidate does not fit the type. -/
def Width.climb (w : Width) (last : Int) (taken : IntSet) (candidate : Int) : Option Climb :=
  if last < candidate then some ⟨[candidate], none⟩
  else if candidate ∉ taken then some ⟨[candidate], some candidate⟩
  else if candidate = last then some ⟨[candidate], none⟩
  else if w.Holds (candidate + 1) then (w.climb last taken (candidate + 1)).map (Climb.after candidate)
  else none
termination_by (last + 1 - candidate).toNat

section FirstFree
variable {first last : Int} {taken : IntSet}

theorem firstFree_of_lt (empty : last < first) : firstFree first last taken = none := by
  rw [firstFree_eq_none_iff]
  intro k low high
  omega

theorem firstFree_of_not_mem (low : first ≤ last) (free : first ∉ taken) :
    firstFree first last taken = some first := by
  rw [firstFree_eq_some_iff]
  exact ⟨⟨Int.le_refl _, low, free⟩, fun k hk => hk.1⟩

theorem firstFree_of_mem (held : first ∈ taken) :
    firstFree first last taken = firstFree (first + 1) last taken := by
  have same : {k | first ≤ k ∧ k ≤ last ∧ k ∉ taken} = {k | first + 1 ≤ k ∧ k ≤ last ∧ k ∉ taken} := by
    ext k
    constructor
    · rintro ⟨low, high, free⟩
      have : k ≠ first := fun same => free (same ▸ held)
      exact ⟨by omega, high, free⟩
    · rintro ⟨low, high, free⟩
      exact ⟨by omega, high, free⟩
  refine Option.ext fun n => ?_
  rw [firstFree_eq_some_iff, firstFree_eq_some_iff, same]

end FirstFree

namespace Climb

/-- The candidates go up from the first one, none of them past the last number, and only the one that the
loop stops at may be free. -/
structure Finds (c : Climb) (first last : Int) (taken : IntSet) : Prop where
  answer : c.answer = firstFree first last taken
  starts : c.candidates.head? = some first
  ascending : c.candidates.Pairwise (· < ·)
  high : ∀ n ∈ c.candidates.tail, n ≤ last
  passed : ∀ n ∈ c.candidates.dropLast, n ∈ taken

namespace Finds
variable {c : Climb} {first last : Int} {taken : IntSet} {answer : Option Int}

theorem single (h : answer = firstFree first last taken) : Finds ⟨[first], answer⟩ first last taken where
  answer := h
  starts := rfl
  ascending := List.pairwise_singleton _ _
  high n hn := by cases hn
  passed n hn := by cases hn

theorem after (h : c.Finds (first + 1) last taken) (below : first < last) (held : first ∈ taken) :
    (c.after first).Finds first last taken := by
  obtain ⟨rest, hrest⟩ := List.head?_eq_some_iff.mp h.starts
  have ascending := h.ascending
  have high := h.high
  have passed := h.passed
  rw [hrest] at ascending high passed
  have next : c.after first = ⟨first :: (first + 1) :: rest, c.answer⟩ := by rw [Climb.after, hrest]
  rw [next]
  constructor
  · exact h.answer.trans (firstFree_of_mem held).symm
  · rfl
  · refine List.pairwise_cons.mpr ⟨fun n hn => ?_, ascending⟩
    rcases List.mem_cons.mp hn with rfl | hn
    · exact Int.lt_succ first
    · exact Int.lt_trans (Int.lt_succ first) ((List.pairwise_cons.mp ascending).1 n hn)
  · intro n hn
    rcases List.mem_cons.mp hn with rfl | hn
    · exact below
    · exact high n hn
  · intro n hn
    rcases List.mem_cons.mp hn with rfl | hn
    · exact held
    · exact passed n hn

theorem length_le (h : c.Finds first last taken) : c.candidates.length ≤ taken.size + 1 := by
  -- The candidates before the last one are different numbers, and all of them are taken.
  have distinct : c.candidates.dropLast.Nodup :=
    (h.ascending.sublist (List.dropLast_sublist _)).imp fun lt => Int.ne_of_lt lt
  have counted := (List.subperm_of_subset distinct h.passed).length_le
  rw [List.length_dropLast] at counted
  have : taken.size = taken.elements.length := rfl
  omega

end Finds
end Climb

namespace Width
variable {w : Width} {candidate first last : Int} {taken : IntSet}

/-- The loop comes to its end inside of the type. -/
theorem exists_climb (holds : ∀ n, candidate ≤ n → n ≤ last → w.Holds n) :
    ∃ c, w.climb last taken candidate = some c ∧ c.Finds candidate last taken := by
  induction candidate using Width.climb.induct w last taken with
  | case1 candidate past =>
    refine ⟨⟨[candidate], none⟩, by rw [climb, if_pos past], .single ?_⟩
    exact (firstFree_of_lt past).symm
  | case2 candidate within free =>
    refine ⟨⟨[candidate], some candidate⟩, by rw [climb, if_neg within, if_pos free], .single ?_⟩
    exact (firstFree_of_not_mem (Int.not_lt.mp within) free).symm
  | case3 within held =>
    refine ⟨⟨[last], none⟩, by rw [climb, if_neg within, if_neg held, if_pos rfl], .single ?_⟩
    rw [firstFree_of_mem (not_not.mp held), firstFree_of_lt (Int.lt_succ last)]
  | case4 candidate within held more fits ih =>
    obtain ⟨c, run, finds⟩ := ih fun n low high => holds n (by omega) high
    refine ⟨c.after candidate, ?_, finds.after (by omega) (not_not.mp held)⟩
    rw [climb, if_neg within, if_neg held, if_neg more, if_pos fits, run, Option.map_some]
  | case5 candidate within held more large =>
    exact absurd (holds (candidate + 1) (by omega) (by omega)) large

/-- In every type the loop finds the least number from the first to the last that is not taken, and nothing
exactly if all of them are taken. It comes to at most one candidate more than there are numbers taken, and
goes up to none past the last number. -/
theorem climb_finds_least (w : Width) (first last : Int) (taken : IntSet) (hfirst : w.Holds first)
    (hlast : w.Holds last) :
    ∃ c, w.climb last taken first = some c ∧ c.answer = firstFree first last taken ∧
      (∀ n, c.answer = some n ↔ IsLeast {k | first ≤ k ∧ k ≤ last ∧ k ∉ taken} n) ∧
      (c.answer = none ↔ ∀ k, first ≤ k → k ≤ last → k ∈ taken) ∧
      c.candidates.head? = some first ∧ c.candidates.length ≤ taken.size + 1 ∧
      ∀ n ∈ c.candidates.tail, n ≤ last := by
  obtain ⟨c, run, finds⟩ : ∃ c, w.climb last taken first = some c ∧ c.Finds first last taken :=
    exists_climb fun n low high => hfirst.between hlast low high
  refine ⟨c, run, finds.answer, fun n => ?_, ?_, finds.starts, finds.length_le, finds.high⟩
  · rw [finds.answer, firstFree_eq_some_iff]
  · rw [finds.answer, firstFree_eq_none_iff]

/-- Up to the greatest 64-bit integer, of which all but one of the last three are taken, and past which the
loop does not go when the last is taken too. -/
theorem climb_finds_least_at_the_end :
    ((Width.signed 64).Holds 9223372036854775805 ∧ (Width.signed 64).Holds 9223372036854775807) ∧
    (∃ c, (Width.signed 64).climb 9223372036854775807
        (.ofList [9223372036854775806, -1, 9223372036854775805]) 9223372036854775805 = some c ∧
      c.answer = some 9223372036854775807 ∧ c.candidates.length ≤ 4) ∧
    ∃ c, (Width.signed 64).climb 9223372036854775807
        (.ofList [9223372036854775806, 9223372036854775807, 9223372036854775805]) 9223372036854775805 = some c ∧
      c.answer = none ∧ ∀ n ∈ c.candidates.tail, n ≤ 9223372036854775807 := by
  have low : (Width.signed 64).Holds 9223372036854775805 := holds_signed_64_of_literals (by decide) (by decide)
  have high : (Width.signed 64).Holds 9223372036854775807 := holds_signed_64_of_literals (by decide) (by decide)
  refine ⟨⟨low, high⟩, ?_, ?_⟩
  · obtain ⟨c, run, found, -, -, -, few, -⟩ := climb_finds_least (.signed 64) 9223372036854775805
      9223372036854775807 (.ofList [9223372036854775806, -1, 9223372036854775805]) low high
    exact ⟨c, run, found.trans (by decide), few⟩
  · obtain ⟨c, run, found, -, -, -, -, below⟩ := climb_finds_least (.signed 64) 9223372036854775805
      9223372036854775807 (.ofList [9223372036854775806, 9223372036854775807, 9223372036854775805]) low high
    exact ⟨c, run, found.trans (by decide), below⟩

end Width
end ResourcePool
