import Mathlib.Data.Int.Range
import Mathlib.Data.List.Nodup
import Mathlib.Data.List.Perm.Subperm
import Mathlib.Order.Bounds.Defs
import ResourcePool.Choice

/-! The least free number. The walk over a set in ascending order finds exactly the least number of the
range outside the set, and a unit pool chooses nothing else unless it is asked to. -/

namespace ResourcePool

section FreeFrom
variable {first last n k : Int} {taken : List Int}

/-- What is found is not taken: the walk goes past a number only upwards. -/
theorem freeFrom_not_mem (ascending : taken.Pairwise (· < ·)) (h : freeFrom first last taken = some n) :
    n ∉ taken := by
  induction taken generalizing first with
  | nil => exact List.not_mem_nil
  | cons m rest ih =>
    obtain ⟨least, tail⟩ := List.pairwise_cons.mp ascending
    have bounds := freeFrom_bounds h
    rw [List.mem_cons, not_or]
    simp only [freeFrom] at h
    split at h
    · cases h
    split at h
    case isTrue => exact ⟨by omega, ih tail h⟩
    split at h
    case isTrue below =>
      cases h
      refine ⟨by omega, fun hn => ?_⟩
      have := least _ hn
      omega
    split at h
    · cases h
    · have := freeFrom_bounds h
      exact ⟨by omega, ih tail h⟩

/-- A free number of the range is never walked past. -/
theorem exists_freeFrom_le (low : first ≤ k) (high : k ≤ last) (free : k ∉ taken) :
    ∃ n, freeFrom first last taken = some n ∧ n ≤ k := by
  induction taken generalizing first with
  | nil => exact ⟨first, by rw [freeFrom, if_pos (by omega)], low⟩
  | cons m rest ih =>
    rw [List.mem_cons, not_or] at free
    simp only [freeFrom]
    rw [if_neg (by omega)]
    split
    · exact ih low free.2
    split
    · exact ⟨first, rfl, low⟩
    · rw [if_neg (by omega)]
      exact ih (by omega) free.2

end FreeFrom

section FirstFree
variable {first last n : Int} {taken : IntSet} {why : NoNumber}

/-- The search finds exactly the least number of the range that is not taken. -/
theorem firstFree_eq_some_iff :
    firstFree first last taken = some n ↔ IsLeast {k | first ≤ k ∧ k ≤ last ∧ k ∉ taken} n := by
  have sound : ∀ {found}, firstFree first last taken = some found →
      first ≤ found ∧ found ≤ last ∧ found ∉ taken := by
    intro found h
    obtain ⟨low, high⟩ := freeFrom_bounds h
    exact ⟨low, high, freeFrom_not_mem taken.ascending h⟩
  constructor
  · intro h
    refine ⟨sound h, fun k ⟨low, high, free⟩ => ?_⟩
    obtain ⟨found, hfound, le⟩ := exists_freeFrom_le low high free
    rw [← firstFree, h] at hfound
    cases hfound
    exact le
  · rintro ⟨⟨low, high, free⟩, least⟩
    obtain ⟨found, hfound, le⟩ := exists_freeFrom_le low high free
    rw [firstFree, hfound, Int.le_antisymm le (least (sound hfound))]

theorem firstFree_eq_none_iff :
    firstFree first last taken = none ↔ ∀ k, first ≤ k → k ≤ last → k ∈ taken := by
  constructor
  · intro h k low high
    by_cases free : k ∈ taken
    · exact free
    · obtain ⟨found, hfound, -⟩ := exists_freeFrom_le low high free
      rw [← firstFree, h] at hfound
      cases hfound
  · intro full
    cases h : firstFree first last taken with
    | none => rfl
    | some n =>
      obtain ⟨⟨low, high, free⟩, -⟩ := firstFree_eq_some_iff.mp h
      exact absurd (full n low high) free

theorem chooseNumber_none_eq_ok_iff :
    chooseNumber first last taken none = .ok n ↔ IsLeast {k | first ≤ k ∧ k ≤ last ∧ k ∉ taken} n := by
  rw [← firstFree_eq_some_iff, chooseNumber]
  cases firstFree first last taken <;> simp

theorem chooseNumber_none_eq_error_iff :
    chooseNumber first last taken none = .error why ↔
      why = .exhausted ∧ ∀ k, first ≤ k → k ≤ last → k ∈ taken := by
  rw [← firstFree_eq_none_iff, chooseNumber]
  cases firstFree first last taken <;> simp [eq_comm]

section Some
variable {wanted : Int}

theorem chooseNumber_some_eq_ok_iff :
    chooseNumber first last taken (some wanted) = .ok n ↔
      n = wanted ∧ first ≤ wanted ∧ wanted ≤ last ∧ wanted ∉ taken := by
  rw [chooseNumber]
  split
  case isTrue out => exact iff_of_false nofun (by omega)
  case isFalse within =>
    split
    case isTrue held => simp [held]
    case isFalse fresh =>
      have inside : first ≤ wanted ∧ wanted ≤ last := by omega
      simp [inside, fresh, eq_comm]

theorem chooseNumber_some_eq_error_iff :
    chooseNumber first last taken (some wanted) = .error why ↔
      why = .outside ∧ (wanted < first ∨ last < wanted) ∨
        why = .taken ∧ (first ≤ wanted ∧ wanted ≤ last) ∧ wanted ∈ taken := by
  have inside : first ≤ wanted ∧ wanted ≤ last ↔ ¬(wanted < first ∨ last < wanted) := by omega
  rw [chooseNumber, inside]
  split
  case isTrue out => simp [out, eq_comm]
  case isFalse within =>
    split
    case isTrue held => simp [within, held, eq_comm]
    case isFalse fresh => simp [within, fresh]

end Some

theorem chooseNumber_free {wanted : Option Int} (h : chooseNumber first last taken wanted = .ok n) :
    first ≤ n ∧ n ≤ last ∧ n ∉ taken := by
  cases wanted with
  | none => exact (chooseNumber_none_eq_ok_iff.mp h).1
  | some wanted =>
    obtain ⟨rfl, inside⟩ := chooseNumber_some_eq_ok_iff.mp h
    exact inside

theorem chooseNumber_of_free (free : ∃ k, first ≤ k ∧ k ≤ last ∧ k ∉ taken) :
    ∃ n, chooseNumber first last taken none = .ok n := by
  obtain ⟨k, low, high, free⟩ := free
  obtain ⟨n, found, -⟩ := exists_freeFrom_le low high free
  exact ⟨n, by rw [chooseNumber, firstFree, found]⟩

theorem chooseNumber_of_full (full : ∀ k, first ≤ k → k ≤ last → k ∈ taken) :
    chooseNumber first last taken none = .error .exhausted :=
  chooseNumber_none_eq_error_iff.mpr ⟨rfl, full⟩

end FirstFree

/-! ### Sets of distinct numbers -/

theorem nodup_range {first last : Int} : (Int.range first last).Nodup := by
  refine List.Nodup.map (fun j k same => ?_) List.nodup_range
  omega

namespace IntSet

theorem not_mem_ofList {n : Int} {ns : List Int} : n ∉ ofList ns ↔ n ∉ ns := not_congr mem_ofList

theorem nodup_elements (s : IntSet) : s.elements.Nodup := s.ascending.imp fun lt => Int.ne_of_lt lt

theorem ext {s t : IntSet} (h : ∀ n, n ∈ s ↔ n ∈ t) : s = t := by
  have order : s.elements.Perm t.elements :=
    (List.perm_ext_iff_of_nodup s.nodup_elements t.nodup_elements).mpr h
  have same : s.elements = t.elements :=
    order.eq_of_pairwise (fun a b _ _ lt gt => absurd lt (Int.lt_asymm gt)) s.ascending t.ascending
  cases s
  cases t
  cases same
  rfl

theorem ofList_perm {ns ns' : List Int} (p : ns'.Perm ns) : ofList ns' = ofList ns :=
  ext fun _ => mem_ofList.trans (p.mem_iff.trans mem_ofList.symm)

theorem size_ofList {ns : List Int} (distinct : ns.Nodup) : (ofList ns).size = ns.length :=
  ((List.perm_ext_iff_of_nodup (nodup_elements _) distinct).mpr fun _ => mem_ofList).length_eq

theorem size_ofList_le (ns : List Int) : (ofList ns).size ≤ ns.length :=
  (List.subperm_of_subset (nodup_elements _) fun _ hn => mem_ofList.mp hn).length_le

/-- A set that is smaller than a range leaves some number of it free. -/
theorem exists_free {s : IntSet} {first last : Int} (smaller : (s.size : Int) < last - first + 1) :
    ∃ n, first ≤ n ∧ n ≤ last ∧ n ∉ s := by
  by_contra full
  have inside : ∀ n ∈ Int.range first (last + 1), n ∈ s.elements := by
    intro n hn
    obtain ⟨low, high⟩ := Int.mem_range_iff.mp hn
    by_contra fresh
    exact full ⟨n, low, Int.lt_add_one_iff.mp high, fresh⟩
  have counted := (List.subperm_of_subset nodup_range inside).length_le
  rw [Int.range, List.length_map, List.length_range] at counted
  have : s.size = s.elements.length := rfl
  omega

theorem le_max? {s : IntSet} {n highest : Int} (h : s.max? = some highest) (hn : n ∈ s) :
    n ≤ highest := by
  obtain ⟨init, hinit⟩ := List.getLast?_eq_some_iff.mp h
  have ascending := s.ascending
  have mem : n ∈ s.elements := hn
  rw [hinit] at ascending mem
  rcases List.mem_append.mp mem with before | last
  · exact Int.le_of_lt ((List.pairwise_append.mp ascending).2.2 n before highest (by simp))
  · exact Int.le_of_eq (List.mem_singleton.mp last)

end IntSet
end ResourcePool
