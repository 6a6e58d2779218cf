/-!
Finite sets of integers in ascending order: the numbers that a pool has granted. `firstFree` walks
such a set once to find the least number of a range outside it.
-/

namespace ResourcePool

/-- Puts a number in its place among ascending ones, unless it is there. -/
def insertAscending (n : Int) : List Int → List Int
  | [] => [n]
  | m :: rest =>
    if n < m then n :: m :: rest
    else if n = m then m :: rest
    else m :: insertAscending n rest

theorem mem_insertAscending {n m : Int} {ms : List Int} :
    m ∈ insertAscending n ms ↔ m = n ∨ m ∈ ms := by
  induction ms with
  | nil => simp [insertAscending]
  | cons k rest ih =>
    unfold insertAscending
    split
    · simp
    · split
      · case isTrue same => subst same; simp
      · simp only [List.mem_cons, ih]
        exact or_left_comm

theorem pairwise_insertAscending {n : Int} {ms : List Int} (h : ms.Pairwise (· < ·)) :
    (insertAscending n ms).Pairwise (· < ·) := by
  induction ms with
  | nil => exact List.pairwise_singleton _ _
  | cons k rest ih =>
    obtain ⟨first, tail⟩ := List.pairwise_cons.1 h
    unfold insertAscending
    split
    · case isTrue lt =>
      refine List.pairwise_cons.2 ⟨fun m hm => ?_, h⟩
      rcases List.mem_cons.1 hm with rfl | hm
      · exact lt
      · exact Int.lt_trans lt (first m hm)
    · split
      · exact h
      · refine List.pairwise_cons.2 ⟨fun m hm => ?_, ih tail⟩
        rcases mem_insertAscending.1 hm with rfl | hm
        · omega
        · exact first m hm

/-- A finite set of integers. -/
structure IntSet where
  elements : List Int
  ascending : elements.Pairwise (· < ·)
deriving DecidableEq

namespace IntSet

instance : Membership Int IntSet := ⟨fun s n => n ∈ s.elements⟩

instance (n : Int) (s : IntSet) : Decidable (n ∈ s) :=
  inferInstanceAs (Decidable (n ∈ s.elements))

def empty : IntSet := ⟨[], .nil⟩

def insert (s : IntSet) (n : Int) : IntSet :=
  ⟨insertAscending n s.elements, pairwise_insertAscending s.ascending⟩

/-- The numbers of a list, each once. -/
def ofList (ns : List Int) : IntSet :=
  ns.foldr (fun n s => s.insert n) empty

def size (s : IntSet) : Nat := s.elements.length

/-- The greatest number of a set. -/
def max? (s : IntSet) : Option Int := s.elements.getLast?

theorem mem_ofList {n : Int} {ns : List Int} : n ∈ ofList ns ↔ n ∈ ns := by
  induction ns with
  | nil => exact Iff.rfl
  | cons m rest ih =>
    rw [List.mem_cons, ← ih]
    exact mem_insertAscending

end IntSet

/-! ### The least free number -/

/-- The least number from `first` to `last` that is not among ascending ones. The candidate goes up
by one only past a number that is taken, and never past `last`. -/
def freeFrom (first last : Int) : List Int → Option Int
  | [] => if first ≤ last then some first else none
  | n :: rest =>
    if last < first then none
    else if n < first then freeFrom first last rest
    else if first < n then some first
    else if first = last then none
    else freeFrom (first + 1) last rest

/-- The least number from `first` to `last` outside a set. -/
def firstFree (first last : Int) (taken : IntSet) : Option Int :=
  freeFrom first last taken.elements

theorem freeFrom_bounds {first last place : Int} {taken : List Int}
    (h : freeFrom first last taken = some place) : first ≤ place ∧ place ≤ last := by
  induction taken generalizing first with
  | nil =>
    simp only [freeFrom] at h
    split at h
    · cases h; omega
    · cases h
  | cons n rest ih =>
    simp only [freeFrom] at h
    split at h
    · cases h
    · split at h
      · exact ih h
      · split at h
        · cases h; omega
        · split at h
          · cases h
          · have := ih h; omega

end ResourcePool
