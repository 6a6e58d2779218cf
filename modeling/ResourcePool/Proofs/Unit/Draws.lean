import Mathlib.Data.Finset.Card
import ResourcePool.Proofs.Unit.RandomInt32

/-! What a pool of random integers draws. The words of a source that are accepted give one number each, and
zeros for ever give the first number of the range. A claim is granted the first of a bounded number of these
that is not taken, or the least free number if all of them are taken, and it reads no more words than the
source has, and one for each draw. -/

namespace ResourcePool

/-! ### The numbers drawn -/

/-- The word is not passed over. -/
def Accepted (width : Nat) (word : UInt64) : Prop :=
  word.toNat * width % UInt64.size ≤ acceptedUpTo width

instance (width : Nat) (word : UInt64) : Decidable (Accepted width word) :=
  inferInstanceAs (Decidable (_ ≤ _))

/-- The number that an accepted word gives: the high half of its product with the width is its distance from
the first one. -/
def scaled (first : Int) (width : Nat) (word : UInt64) : Int :=
  first + (word.toNat * width / UInt64.size : Nat)

/-- So many numbers drawn, first those of the accepted words and then those of the zeros behind them. -/
def drawnNumbers (first : Int) (width count : Nat) (words : List UInt64) : List Int :=
  (((words.filter fun word => Accepted width word).map (scaled first width)) ++
    List.replicate count first).take count

section Drawn
variable {first : Int} {width : Nat} {word : UInt64} {rest : List UInt64}

theorem draw_of_accepted (h : Accepted width word) :
    draw first width (word :: rest) = ⟨scaled first width word, 1, rest⟩ := by
  rw [draw]
  exact if_pos h

theorem draw_of_not_accepted (h : ¬Accepted width word) :
    draw first width (word :: rest) =
      ⟨(draw first width rest).value, (draw first width rest).taken + 1, (draw first width rest).rest⟩ := by
  rw [draw]
  exact if_neg h

theorem drawnNumbers_of_accepted (h : Accepted width word) (count : Nat) :
    drawnNumbers first width (count + 1) (word :: rest) =
      scaled first width word :: drawnNumbers first width count rest := by
  -- One number more in front leaves one zero less to be read.
  have shorter : ∀ numbers : List Int, (numbers ++ List.replicate (count + 1) first).take count =
      (numbers ++ List.replicate count first).take count := by
    intro numbers
    rw [List.take_append, List.take_append, List.take_replicate, List.take_replicate]
    congr 2
    omega
  simp only [drawnNumbers, h, decide_true, List.filter_cons_of_pos, List.map_cons, List.cons_append,
    List.take_succ_cons, shorter]

theorem drawnNumbers_of_not_accepted (h : ¬Accepted width word) (count : Nat) :
    drawnNumbers first width count (word :: rest) = drawnNumbers first width count rest := by
  simp [drawnNumbers, h]

theorem drawnNumbers_succ (count : Nat) (words : List UInt64) :
    drawnNumbers first width (count + 1) words =
      (draw first width words).value :: drawnNumbers first width count (draw first width words).rest := by
  induction words with
  | nil => simp [drawnNumbers, draw, List.replicate_succ]
  | cons word rest ih =>
    by_cases accepted : Accepted width word
    · rw [drawnNumbers_of_accepted accepted, draw_of_accepted accepted]
    · rw [drawnNumbers_of_not_accepted accepted, draw_of_not_accepted accepted, ih]

theorem drawFree_fst (taken : IntSet) (count : Nat) (words : List UInt64) :
    (drawFree first width taken count words).1 =
      (drawnNumbers first width count words).find? fun n => n ∉ taken := by
  induction count generalizing words with
  | zero => simp [drawFree, drawnNumbers]
  | succ count ih =>
    rw [drawnNumbers_succ, List.find?_cons]
    simp only [drawFree]
    split
    case isTrue mem => simp [mem, ih]
    case isFalse fresh => simp [fresh]

theorem draw_taken_le (words : List UInt64) :
    (draw first width words).taken + (draw first width words).rest.length ≤ words.length + 1 := by
  induction words with
  | nil => exact Nat.le_refl 1
  | cons word rest ih =>
    rw [List.length_cons]
    by_cases accepted : Accepted width word
    · rw [draw_of_accepted accepted]
      dsimp only
      omega
    · rw [draw_of_not_accepted accepted]
      dsimp only
      omega

/-- Every draw ends with a word that is accepted, so what is read beyond the draws was passed over. -/
theorem drawFree_snd_le (taken : IntSet) (count : Nat) (words : List UInt64) :
    (drawFree first width taken count words).2 ≤ words.length + count := by
  induction count generalizing words with
  | zero => simp [drawFree]
  | succ count ih =>
    have here := @draw_taken_le first width words
    have rest := ih (draw first width words).rest
    simp only [drawFree]
    split <;> dsimp only <;> omega

end Drawn

theorem IntSet.size_ofList_eq_card (ns : List Int) : (ofList ns).size = ns.toFinset.card := by
  have same : (ofList ns).elements.toFinset = ns.toFinset := by
    ext n
    rw [List.mem_toFinset, List.mem_toFinset]
    exact mem_ofList
  rw [← same, List.toFinset_card_of_nodup (nodup_elements _), size]

/-! ### Claims -/

namespace RandomInt32Pool
variable {pool : RandomInt32Pool} {values : List Int} {words : List UInt64} {n : Int}

/-- How many numbers the range has. -/
def width (pool : RandomInt32Pool) : Nat := (pool.last - pool.first + 1).toNat

/-- The numbers that are tried before the lowest free one is taken: four for each number that is held and four
more, as long as the range has so many. -/
def tried (pool : RandomInt32Pool) (values : List Int) (words : List UInt64) : List Int :=
  drawnNumbers pool.first pool.width (min pool.width (4 * (values.toFinset.card + 1))) words

/-- The resource that grants a number. -/
def resource (n : Int) : Bag := Bag.empty.set "int" (.int (.ofInt n))

/-- A claim ends in the resource of a number, from which that number is read back. -/
structure Grants (result : Except Error Bag) (n : Int) : Prop where
  result : result = .ok (resource n)
  number : heldNumber "int" (resource n) = .ok n

/-- How a pool that holds the numbers answers a claim with a source of words, of which it takes some. -/
structure Serves (pool : RandomInt32Pool) (values : List Int) (words : List UInt64)
    (result : Except Error Bag) (taken : Nat) : Prop where
  drawn : ∀ n, (pool.tried values words).find? (· ∉ values) = some n → Grants result n
  scanned : (∀ k ∈ pool.tried values words, k ∈ values) → ∀ n,
    Grants result n ↔ IsLeast {k | pool.first ≤ k ∧ k ≤ pool.last ∧ k ∉ values} n
  granted : ∀ bag, result = .ok bag →
    ∃ n, Grants result n ∧ pool.first ≤ n ∧ n ≤ pool.last ∧ n ∉ values
  full : (∃ e, result = .error e) ↔ ∀ k, pool.first ≤ k → k ≤ pool.last → k ∈ values
  exhausted : ∀ e, result = .error e → e.isExhausted = true
  words : taken ≤ words.length + min pool.width (4 * (values.toFinset.card + 1))

theorem draws_eq (taken : pool.taken = .ofList values) :
    pool.draws = min pool.width (4 * (values.toFinset.card + 1)) := by
  rw [draws, taken, IntSet.size_ofList_eq_card]
  rfl

theorem drawn_eq (taken : pool.taken = .ofList values) (words : List UInt64) :
    (pool.drawn words).1 = (pool.tried values words).find? (· ∉ values) := by
  rw [drawn, drawFree_fst, draws_eq taken, taken]
  simp only [IntSet.mem_ofList]
  rfl

theorem Grants.unique {result : Except Error Bag} {m : Int} (hm : Grants result m)
    (hn : Grants result n) : m = n := by
  have same : resource m = resource n := Except.ok.inj (hm.result.symm.trans hn.result)
  have number := hn.number
  rw [← same, hm.number] at number
  exact Except.ok.inj number

theorem allocate_of_choose_none (h : pool.choose words = none) :
    ∃ e, (pool.allocate words).result = .error e ∧ e.isExhausted = true := by
  rw [allocate, h]
  exact ⟨_, rfl, rfl⟩

section Bounded
variable (order : pool.first ≤ pool.last) (low : least ≤ pool.first) (high : pool.last ≤ greatest)
include order low high

theorem allocate_of_choose_some (h : pool.choose words = some n) :
    Grants (pool.allocate words).result n := by
  obtain ⟨above, below, -⟩ := choose_free order h
  have fits : least64 ≤ n ∧ n ≤ greatest64 := by
    simp only [least64, greatest64, least, greatest] at *
    omega
  refine ⟨by rw [allocate, h]; rfl, ?_⟩
  have read : heldNumber "int" (resource n) = .ok (Int64.ofInt n).toInt :=
    heldNumber_of_get? (by simp [resource])
  rwa [toInt_ofInt fits] at read

theorem grants_iff : Grants (pool.allocate words).result n ↔ pool.choose words = some n := by
  refine ⟨fun grants => ?_, allocate_of_choose_some order low high⟩
  cases chosen : pool.choose words with
  | some m => rw [(allocate_of_choose_some order low high chosen).unique grants]
  | none =>
    obtain ⟨e, refused, -⟩ := allocate_of_choose_none chosen
    exact absurd refused (ne_error_of_ok grants.result)

theorem error_iff :
    (∃ e, (pool.allocate words).result = .error e) ↔ pool.choose words = none := by
  cases chosen : pool.choose words with
  | some n =>
    have grants := allocate_of_choose_some order low high chosen
    simp [grants.result]
  | none =>
    obtain ⟨e, refused, -⟩ := allocate_of_choose_none chosen
    simp [refused]

theorem serves (taken : pool.taken = .ofList values) (words : List UInt64) :
    pool.Serves values words (pool.allocate words).result (pool.drawn words).2 where
  drawn n found := by
    rw [grants_iff order low high, choose, drawn_eq taken, found]
    rfl
  scanned full n := by
    have nothing : (pool.tried values words).find? (· ∉ values) = none := by
      simpa [List.find?_eq_none] using full
    have scan : pool.choose words = firstFree pool.first pool.last pool.taken := by
      rw [choose, drawn_eq taken, nothing]
      rfl
    rw [grants_iff order low high, scan, firstFree_eq_some_iff, taken]
    simp only [IntSet.not_mem_ofList]
  granted bag granted := by
    cases chosen : pool.choose words with
    | some n =>
      obtain ⟨above, below, fresh⟩ := choose_free order chosen
      exact ⟨n, allocate_of_choose_some order low high chosen, above, below,
        IntSet.not_mem_ofList.mp (taken ▸ fresh)⟩
    | none =>
      obtain ⟨e, refused, -⟩ := allocate_of_choose_none chosen
      exact absurd refused (ne_error_of_ok granted)
  full := by
    rw [error_iff order low high]
    constructor
    · intro nothing k above below
      by_contra fresh
      obtain ⟨n, chosen⟩ := pool.choose_of_free words
        ⟨k, above, below, taken ▸ IntSet.not_mem_ofList.mpr fresh⟩
      rw [nothing] at chosen
      cases chosen
    · intro full
      exact choose_of_full words order fun k above below =>
        taken ▸ IntSet.mem_ofList.mpr (full k above below)
  exhausted e refused := by
    obtain ⟨e', refused', exhausted⟩ :=
      allocate_of_choose_none ((error_iff order low high).mp ⟨e, refused⟩)
    rwa [Except.error.inj (refused.symm.trans refused')]
  words := by
    rw [← draws_eq taken]
    exact drawFree_snd_le ..

end Bounded
end RandomInt32Pool

/-- Whatever is held and whatever words the source has, a claim for a random integer is served. -/
theorem Snapshot.allocate_randomInt32_serves {s : Snapshot} {pool : RandomInt32Pool} {values : List Int}
    (builds : RandomInt32Pool.ofSnapshot s = .ok pool)
    (held : s.held.map (heldNumber "int") = values.map .ok) (words : List UInt64) :
    UnitKind.bounds .randomInt32 s.properties = .ok (pool.first, pool.last) ∧
      pool.Serves values words (s.allocate .randomInt32 (some words)).result (s.wordsTaken words) := by
  obtain ⟨first, last, bounds, order, low, high⟩ := RandomInt32Pool.bounds_of_ofSnapshot builds
  obtain rfl : pool = ⟨first, last, .ofList values⟩ :=
    Except.ok.inj (builds.symm.trans (RandomInt32Pool.ofSnapshot_of_read bounds order low high held))
  refine ⟨bounds, ?_⟩
  rw [allocate_randomInt32, wordsTaken, builds]
  exact RandomInt32Pool.serves order low high rfl words

/-- Numbers from -3 to 3, of which the least is held, and the greatest twice. A number outside is held too. -/
def aroundZero : Snapshot where
  properties := .ofList [("from", .int (-3)), ("to", .int 3)]
  held := [3, 100, -3, 3].map fun n => .ofList [("int", .int n)]
  input := .empty

/-- The first word is passed over, and the second gives a number that is held. -/
theorem Snapshot.allocate_randomInt32_serves_around_zero :
    RandomInt32Pool.Grants
        (aroundZero.allocate .randomInt32 (some [2305843009213693952, 0, 9223372036854775808])).result 0 ∧
      aroundZero.wordsTaken [2305843009213693952, 0, 9223372036854775808] ≤ 10 := by
  have builds : RandomInt32Pool.ofSnapshot aroundZero = .ok ⟨-3, 3, .ofList [3, 100, -3, 3]⟩ := rfl
  have held : aroundZero.held.map (heldNumber "int") = [3, 100, -3, 3].map .ok := rfl
  obtain ⟨-, serves⟩ := allocate_randomInt32_serves builds held
    [2305843009213693952, 0, 9223372036854775808]
  exact ⟨serves.drawn 0 (by decide), serves.words⟩

end ResourcePool
