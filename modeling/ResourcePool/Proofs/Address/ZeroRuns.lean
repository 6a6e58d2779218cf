import Mathlib.Order.Bounds.Basic
import ResourcePool.Address

/-! Runs of zero groups. What a written address leaves out is the leftmost of the longest runs. A single walk
over the groups finds it as well: it keeps the best run that has come to its end and the place where the
present one began, and one step past the last group brings every run to its end. -/

namespace ResourcePool.Address.V6
variable {groups : List Nat} {start length stop i n : Nat}

/-- The groups from `start` on are zero, `length` of them. -/
def ZeroRun (groups : List Nat) (start length : Nat) : Prop :=
  ∀ j, start ≤ j → j < start + length → groups[j]? = some 0

namespace ZeroRun

theorem shorter (h : ZeroRun groups start length) (le : n ≤ length) : ZeroRun groups start n :=
  fun j low high => h j low (by omega)

theorem stop_le (h : ZeroRun groups start length) (filled : 0 < length) :
    start + length ≤ groups.length := by
  have last := h (start + length - 1) (by omega) (by omega)
  obtain ⟨inside, -⟩ := List.getElem?_eq_some_iff.mp last
  omega

end ZeroRun

/-! ### The longest run -/

theorem le_length_takeWhile_zero :
    n ≤ (groups.takeWhile (· == 0)).length ↔ ∀ j, j < n → groups[j]? = some 0 := by
  induction groups generalizing n with
  | nil =>
    constructor
    · intro h j hj
      exact absurd h (by simp; omega)
    · intro h
      by_contra more
      cases h 0 (by simp at more; omega)
  | cons g rest ih =>
    cases n with
    | zero => simp
    | succ n =>
      by_cases zero : g = 0
      · subst zero
        rw [List.takeWhile_cons_of_pos rfl, List.length_cons, Nat.add_le_add_iff_right, ih]
        constructor
        · intro h j hj
          cases j with
          | zero => rfl
          | succ j => exact h j (by omega)
        · intro h j hj
          exact h (j + 1) (by omega)
      · rw [List.takeWhile_cons_of_neg (by simpa using zero)]
        refine iff_of_false (by simp) fun h => ?_
        exact zero (Option.some.inj (h 0 (by omega)))

theorem zeroRun_iff : ZeroRun groups start length ↔ length ≤ zerosFrom groups start := by
  rw [zerosFrom, le_length_takeWhile_zero]
  simp only [List.getElem?_drop]
  constructor
  · intro h j hj
    exact h (start + j) (by omega) (by omega)
  · intro h j low high
    obtain ⟨k, rfl⟩ := Nat.exists_eq_add_of_le low
    exact h k (by omega)

/-- The leftmost of the longest runs. -/
structure Leads (groups : List Nat) (start length : Nat) : Prop where
  longest : IsGreatest {n | ∃ i, ZeroRun groups i n} length
  leftmost : IsLeast {i | ZeroRun groups i length} start

theorem Leads.unique {start' length' : Nat} (h : Leads groups start length)
    (h' : Leads groups start' length') : start = start' ∧ length = length' := by
  obtain rfl := h.longest.unique h'.longest
  exact ⟨h.leftmost.unique h'.leftmost, rfl⟩

/-- What the search for the longest run has found among the first places. -/
structure Best (groups : List Nat) (n : Nat) (best : Nat × Nat) : Prop where
  run : ZeroRun groups best.1 best.2
  longest : ∀ i, i < n → zerosFrom groups i ≤ best.2
  leftmost : ∀ i, i < best.1 → zerosFrom groups i < best.2

theorem best_foldl (groups : List Nat) (n : Nat) :
    Best groups n ((List.range n).foldl
      (fun best i => if best.2 < zerosFrom groups i then (i, zerosFrom groups i) else best) (0, 0)) := by
  induction n with
  | zero =>
    show Best groups 0 (0, 0)
    exact ⟨fun j low high => by omega, fun i hi => by omega, fun i hi => by omega⟩
  | succ n ih =>
    rw [List.range_succ, List.foldl_append, List.foldl_cons, List.foldl_nil]
    generalize (List.range n).foldl _ (0, 0) = best at ih ⊢
    split
    case isTrue better =>
      refine ⟨zeroRun_iff.mpr (Nat.le_refl _), fun i hi => ?_, fun i hi => ?_⟩
      · rcases Nat.lt_succ_iff_lt_or_eq.mp hi with hi | rfl
        · exact Nat.le_of_lt (Nat.lt_of_le_of_lt (ih.longest i hi) better)
        · exact Nat.le_refl _
      · exact Nat.lt_of_le_of_lt (ih.longest i hi) better
    case isFalse worse =>
      refine ⟨ih.run, fun i hi => ?_, ih.leftmost⟩
      rcases Nat.lt_succ_iff_lt_or_eq.mp hi with hi | rfl
      · exact ih.longest i hi
      · exact Nat.not_lt.mp worse

theorem leads_longestRun (groups : List Nat) :
    Leads groups (longestRun groups).1 (longestRun groups).2 := by
  have best : Best groups groups.length (longestRun groups) := best_foldl groups groups.length
  refine ⟨⟨⟨_, best.run⟩, ?_⟩, best.run, ?_⟩
  · rintro n ⟨i, run⟩
    rcases Nat.lt_or_ge i groups.length with inside | outside
    · exact Nat.le_trans (zeroRun_iff.mp run) (best.longest i inside)
    · have nothing : n = 0 := by
        by_contra filled
        have := run.stop_le (Nat.pos_of_ne_zero filled)
        omega
      omega
  · intro i run
    by_contra before
    have shorter := best.leftmost i (Nat.not_le.mp before)
    exact absurd (zeroRun_iff.mp run) (Nat.not_le.mpr shorter)

/-! ### A single walk -/

/-- What a walk over the groups keeps: the best run of two or more groups that has come to its end, and the
place where the present one began. -/
structure Walk where
  best : Option (Nat × Nat)
  since : Option Nat

/-- A run that has come to its end is kept if it is longer than the one before. -/
def Walk.step (w : Walk) (i : Nat) (zero : Bool) : Walk :=
  match zero, w.since with
  | true, none => { w with since := some i }
  | false, some start =>
    { best := if 2 ≤ i - start ∧ w.best.all (fun b => b.2 < i - start) then some (start, i - start) else w.best
      since := none }
  | _, _ => w

/-- The walk over the first places. -/
def walk (groups : List Nat) : Nat → Walk
  | 0 => ⟨none, none⟩
  | n + 1 => (walk groups n).step n (groups[n]? == some 0)

/-- The run that the walk has kept after the step past the last group. -/
def walked (groups : List Nat) : Option (Nat × Nat) := (walk groups (groups.length + 1)).best

/-- The best of the runs of two or more groups that end by a place. -/
def BestBy (groups : List Nat) (stop : Nat) : Option (Nat × Nat) → Prop
  | none => ∀ i n, ZeroRun groups i n → i + n ≤ stop → n < 2
  | some (start, length) => 2 ≤ length ∧ ZeroRun groups start length ∧ start + length ≤ stop ∧
      ∀ i n, ZeroRun groups i n → i + n ≤ stop → n ≤ length ∧ (n = length → start ≤ i)

/-- All groups from a place up to the present one are zero, the one before that place is not, and the best
run that ends by that place is kept. -/
structure Walk.Keeps (groups : List Nat) (n since : Nat) (best : Option (Nat × Nat)) : Prop where
  since_le : since ≤ n
  begins : ∀ j, j + 1 = since → groups[j]? ≠ some 0
  run : ZeroRun groups since (n - since)
  best : BestBy groups since best

/-- A run that ends where the present one does either is a part of it or ended before it began. -/
theorem Walk.Keeps.stop_cases {since : Nat} {best : Option (Nat × Nat)} (h : Walk.Keeps groups n since best)
    (stops : groups[n]? ≠ some 0) {length : Nat} (run : ZeroRun groups i length) (filled : 0 < length)
    (ends : i + length ≤ n + 1) : i + length ≤ since ∨ since ≤ i ∧ i + length ≤ n := by
  have inside : i + length ≤ n := by
    by_contra past
    exact stops (run n (by omega) (by omega))
  by_cases before : i + length ≤ since
  · exact .inl before
  · refine .inr ⟨?_, inside⟩
    by_contra earlier
    exact h.begins (since - 1) (by omega) (run _ (by omega) (by omega))

/-- What is kept when the present run comes to its end. -/
theorem Walk.Keeps.best_of_stop {since : Nat} {best : Option (Nat × Nat)} (h : Walk.Keeps groups n since best)
    (stops : groups[n]? ≠ some 0) :
    BestBy groups (n + 1) (if 2 ≤ n - since ∧ best.all (fun b => b.2 < n - since) then
      some (since, n - since) else best) := by
  have since_le := h.since_le
  have runs {i length : Nat} (run : ZeroRun groups i length) (ends : i + length ≤ n + 1) :
      length = 0 ∨ i + length ≤ since ∨ since ≤ i ∧ i + length ≤ n := by
    rcases Nat.eq_zero_or_pos length with none_ | filled
    · exact .inl none_
    · exact .inr (h.stop_cases stops run filled ends)
  have kept := h.best
  split
  case isTrue better =>
    obtain ⟨long, beats⟩ := better
    refine ⟨long, h.run, by omega, fun i length run ends => ?_⟩
    rcases runs run ends with none_ | earlier | ⟨later, inside⟩
    · omega
    · cases best with
      | none =>
        have short := kept i length run earlier
        omega
      | some b =>
        obtain ⟨-, -, -, most⟩ := kept
        have shorter : b.2 < n - since := by simpa using beats
        have := (most i length run earlier).1
        omega
    · omega
  case isFalse worse =>
    cases best with
    | none =>
      intro i length run ends
      rcases runs run ends with none_ | earlier | ⟨later, inside⟩
      · omega
      · exact kept i length run earlier
      · by_contra long
        exact worse ⟨by omega, rfl⟩
    | some b =>
      obtain ⟨long, run, ends, most⟩ := kept
      have longer : n - since ≤ b.2 := by
        by_contra shorter
        exact worse ⟨by omega, by simpa using Nat.not_le.mp shorter⟩
      refine ⟨long, run, by omega, fun i length run' ends' => ?_⟩
      rcases runs run' ends' with none_ | earlier | ⟨later, inside⟩
      · omega
      · exact most i length run' earlier
      · omega

theorem Walk.keeps_step {w : Walk} (h : Walk.Keeps groups n (w.since.getD n) w.best) :
    Walk.Keeps groups (n + 1) ((w.step n (groups[n]? == some 0)).since.getD (n + 1))
      (w.step n (groups[n]? == some 0)).best := by
  obtain ⟨best, since⟩ := w
  by_cases zero : groups[n]? = some 0
  · -- The present run goes on, or one begins.
    have goes_on (since : Nat) (kept : Walk.Keeps groups n since best) : Walk.Keeps groups (n + 1) since best := by
      refine ⟨Nat.le_succ_of_le kept.since_le, kept.begins, fun j low high => ?_, kept.best⟩
      have := kept.since_le
      rcases Nat.lt_or_ge j n with earlier | last
      · exact kept.run j low (by omega)
      · obtain rfl : j = n := by omega
        exact zero
    rw [zero]
    cases since with
    | none => exact goes_on n h
    | some since => exact goes_on since h
  · have stopped : (groups[n]? == some 0) = false := by simpa using zero
    have fresh (best' : Option (Nat × Nat)) (kept : BestBy groups (n + 1) best') :
        Walk.Keeps groups (n + 1) (n + 1) best' := by
      refine ⟨Nat.le_refl _, fun j hj => ?_, fun j low high => by omega, kept⟩
      cases hj
      exact zero
    rw [stopped]
    have kept := h.best_of_stop zero
    cases since with
    | none =>
      rw [if_neg (by simp)] at kept
      exact fresh best kept
    | some since => exact fresh _ kept

theorem walk_keeps (groups : List Nat) (n : Nat) :
    Walk.Keeps groups n ((walk groups n).since.getD n) (walk groups n).best := by
  induction n with
  | zero =>
    show Walk.Keeps groups 0 0 none
    exact ⟨Nat.le_refl 0, fun j hj => by omega, fun j low high => by omega, fun i n run ends => by omega⟩
  | succ n ih => exact Walk.keeps_step ih

theorem Walk.since_step_false (w : Walk) (i : Nat) : (w.step i false).since = none := by
  obtain ⟨best, since⟩ := w
  cases since <;> rfl

/-- The last step ends every run. -/
theorem bestBy_walked (groups : List Nat) : BestBy groups (groups.length + 1) (walked groups) := by
  have kept := (walk_keeps groups (groups.length + 1)).best
  have past : (groups[groups.length]? == some 0) = false := by simp
  have ended : (walk groups (groups.length + 1)).since = none := by
    rw [walk, past, Walk.since_step_false]
  rwa [ended] at kept

/-- The walk keeps the leftmost of the longest runs, unless it is a single group. -/
theorem walked_eq (groups : List Nat) :
    walked groups = if (longestRun groups).2 < 2 then none else some (longestRun groups) := by
  have leads := leads_longestRun groups
  have best := bestBy_walked groups
  have ends {i n : Nat} (run : ZeroRun groups i n) (filled : 0 < n) : i + n ≤ groups.length + 1 :=
    Nat.le_succ_of_le (run.stop_le filled)
  cases kept : walked groups with
  | none =>
    rw [kept] at best
    obtain ⟨i, run⟩ := leads.longest.1
    rw [if_pos]
    by_contra long
    exact long (best i _ run (ends run (by omega)))
  | some b =>
    rw [kept] at best
    obtain ⟨long, run, -, most⟩ := best
    have most {i n : Nat} (run : ZeroRun groups i n) : n ≤ b.2 ∧ (n = b.2 → b.1 ≤ i) := by
      rcases Nat.eq_zero_or_pos n with rfl | filled
      · omega
      · exact most i n run (ends run filled)
    have leads' : Leads groups b.1 b.2 := by
      refine ⟨⟨⟨b.1, run⟩, ?_⟩, run, fun i run => (most run).2 rfl⟩
      rintro n ⟨i, run⟩
      exact (most run).1
    obtain ⟨start, length⟩ := leads.unique leads'
    rw [if_neg (by omega), ← Prod.eta b, ← start, ← length]

end ResourcePool.Address.V6
