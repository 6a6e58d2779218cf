import ResourcePool.Pool.RandomInt32
import ResourcePool.Pool.UniqueId
import ResourcePool.Proofs.IntSet
import ResourcePool.Proofs.Result
import ResourcePool.Proofs.Word.Search

/-! Pools of counters and of random integers in words. Both count in 64 bits. The counter after the highest
one may not be a 64-bit integer; that is no failure but the end of every scope, where the search for a
counter given back takes over. -/

namespace ResourcePool

namespace UniqueIdPool

/-- The number of counters in the scope, in 128 bits. -/
def totalInWords (pool : UniqueIdPool) : Option Int :=
  match pool.last with
  | some last => (Width.signed 128).count pool.floor last.toInt
  | none => (Width.signed 128).fit greatest64

def capacityInWords (pool : UniqueIdPool) : Option Capacity := do
  let total ← pool.totalInWords
  return .of (total - pool.taken.size) pool.taken.size

/-- The counter after the highest one granted, unless there is no 64-bit integer after it. -/
def checkedNext (pool : UniqueIdPool) : Option Int :=
  match pool.taken.max? with
  | some highest => if pool.floor ≤ highest then (Width.signed 64).fit (highest + 1) else some pool.floor
  | none => some pool.floor

/-- The lowest counter that is free. -/
def reuseInWords (pool : UniqueIdPool) : Option (Except NoNumber Int) :=
  (Width.signed 64).chooseNumber pool.floor pool.ceiling pool.taken none

def chooseInWords (pool : UniqueIdPool) : Option Int → Option (Except NoNumber Int)
  | some wanted => (Width.signed 64).chooseNumber pool.floor pool.ceiling pool.taken (some wanted)
  | none =>
    match pool.checkedNext, pool.last with
    | some next, some last => if next ≤ last.toInt then some (.ok next) else pool.reuseInWords
    | some next, none => some (.ok next)
    | none, _ => pool.reuseInWords

/-- Grants the id of the wanted counter, or of the next one. -/
def allocateInWords (pool : UniqueIdPool) (input : Bag) : InWords Bag := do
  if Text.occurs counterToken pool.template.toList then
    let wanted ← (wanted? input : Except Error _)
    match ← pool.chooseInWords (wanted.map Int64.toInt) with
    | .ok counter => pool.grant counter
    | .error why => pool.refuse ((wanted.map fun n => n.toInt.repr).getD "") why
  else (Logged.fail .noCounter : Logged Bag)

variable (pool : UniqueIdPool)

theorem floor_bounds : least64 ≤ pool.floor ∧ pool.floor ≤ greatest64 := by
  unfold floor
  cases pool.first with
  | none => decide
  | some first => exact toInt_bounds first

theorem ceiling_bounds : least64 ≤ pool.ceiling ∧ pool.ceiling ≤ greatest64 := by
  unfold ceiling
  cases pool.last with
  | none => decide
  | some last => exact toInt_bounds last

theorem totalInWords_eq : pool.totalInWords = some pool.total := by
  unfold totalInWords total
  cases pool.last with
  | none => exact Width.fit_of_holds (Width.holds_signed_128.mpr (by decide))
  | some last => exact Width.count_of_bounds pool.floor_bounds (toInt_bounds last)

theorem capacityInWords_eq : pool.capacityInWords = some pool.capacity := by
  rw [capacityInWords, totalInWords_eq]
  rfl

theorem chooseNumberInWords_eq (wanted : Option Int) :
    (Width.signed 64).chooseNumber pool.floor pool.ceiling pool.taken wanted =
      some (chooseNumber pool.floor pool.ceiling pool.taken wanted) := by
  have low := pool.floor_bounds
  have high := pool.ceiling_bounds
  exact Width.chooseNumber_eq fun n hlow hhigh => Width.holds_signed_64.mpr (by omega)

/-- The next counter is the one of integers of any size, or that lies past every scope. -/
theorem checkedNext_cases :
    pool.checkedNext = some pool.next ∧ pool.next ≤ greatest64 ∨
      pool.checkedNext = none ∧ pool.ceiling < pool.next := by
  have low := pool.floor_bounds
  have high := pool.ceiling_bounds
  unfold checkedNext next
  cases pool.taken.max? with
  | none => exact .inl ⟨rfl, low.2⟩
  | some highest =>
    dsimp only
    by_cases above : pool.floor ≤ highest
    · rw [if_pos above, if_pos above]
      by_cases fits : highest + 1 ≤ greatest64
      · exact .inl ⟨Width.fit_of_holds (Width.holds_signed_64.mpr (by omega)), fits⟩
      · refine .inr ⟨if_neg fun holds => fits (Width.holds_signed_64.mp holds).2, by omega⟩
    · rw [if_neg above, if_neg above]
      exact .inl ⟨rfl, low.2⟩

theorem chooseInWords_eq (wanted : Option Int) : pool.chooseInWords wanted = some (pool.choose wanted) := by
  cases wanted with
  | some wanted => exact pool.chooseNumberInWords_eq (some wanted)
  | none =>
    have reuse := pool.chooseNumberInWords_eq none
    simp only [chooseInWords, choose, reuseInWords, reuse]
    rcases pool.checkedNext_cases with ⟨next, small⟩ | ⟨next, large⟩
    · rw [next]
      cases scope : pool.last with
      | some last =>
        have ceiling : pool.ceiling = last.toInt := by simp [UniqueIdPool.ceiling, scope]
        rw [ceiling]
        dsimp only
        split <;> rfl
      | none =>
        have ceiling : pool.ceiling = greatest64 := by simp [UniqueIdPool.ceiling, scope]
        rw [if_pos (by omega)]
    · rw [next, if_neg (by omega)]

theorem allocateInWords_eq (input : Bag) : pool.allocateInWords input = some (pool.allocate input) := by
  unfold allocateInWords allocate
  split
  case isTrue =>
    refine InWords.step_eq fun wanted _ => ?_
    rw [InWords.number_eq (pool.chooseInWords_eq _)]
    cases pool.choose (wanted.map Int64.toInt) <;> rfl
  case isFalse => rfl

end UniqueIdPool

namespace RandomInt32Pool

def totalInWords (pool : RandomInt32Pool) : Option Int := (Width.signed 64).count pool.first pool.last

def capacityInWords (pool : RandomInt32Pool) : Option Capacity := do
  let total ← pool.totalInWords
  let utilized ← (Width.signed 64).fit pool.taken.size
  let free ← (Width.signed 64).fit (total - utilized)
  return .of free utilized

/-- Four draws for each number granted and four more, as an unsigned integer. -/
def drawLimit (pool : RandomInt32Pool) : Option Int :=
  ((Width.unsigned 64).fit (pool.taken.size + 1)).bind fun more => (Width.unsigned 64).fit (4 * more)

def drawsInWords (pool : RandomInt32Pool) : Option Nat := do
  let total ← pool.totalInWords
  let total ← (Width.unsigned 64).fit total
  let limit ← pool.drawLimit
  return min total.toNat limit.toNat

/-- The number drawn, or the lowest free one. -/
def chooseInWords (pool : RandomInt32Pool) (words : List UInt64) : Option (Option Int) := do
  let total ← pool.totalInWords
  let draws ← pool.drawsInWords
  match (drawFree pool.first total.toNat pool.taken draws words).1 with
  | some n => return some n
  | none => (Width.signed 64).freeFrom pool.first pool.last pool.taken.elements

/-- Grants a number that is not taken. -/
def allocateInWords (pool : RandomInt32Pool) (words : List UInt64) : InWords Bag := do
  match ← pool.chooseInWords words with
  | some n =>
    Logged.record .info s!"Allocated random s_int32 {n} from {pool.range}"
    return Bag.empty.set "int" (.int (.ofInt n))
  | none =>
    let _ ← pool.totalInWords
    pool.exhausted

/-- The range is one of 32-bit integers and not empty, and few numbers of it are taken. -/
structure Bounded (pool : RandomInt32Pool) : Prop where
  order : pool.first ≤ pool.last
  low : least ≤ pool.first
  high : pool.last ≤ greatest
  few : pool.taken.size < 2147483648

theorem Bounded.numbers {pool : RandomInt32Pool} (h : pool.Bounded) :
    -2147483648 ≤ pool.first ∧ pool.first ≤ pool.last ∧ pool.last ≤ 2147483647 :=
  ⟨h.low, h.order, h.high⟩

theorem bounded_of_ofSnapshot {s : Snapshot} {pool : RandomInt32Pool} (few : s.held.length < 2147483648)
    (h : ofSnapshot s = .ok pool) : pool.Bounded := by
  obtain ⟨first, -, h⟩ := bind_eq_ok_iff.mp h
  obtain ⟨last, -, h⟩ := bind_eq_ok_iff.mp h
  dsimp only at h
  split at h
  case isTrue => cases h
  case isFalse valid =>
    obtain ⟨taken, read, h⟩ := bind_eq_ok_iff.mp h
    cases h
    have length := length_of_read (Snapshot.ofHeld_eq_ok_iff.mp read)
    have size := IntSet.size_ofList_le taken
    exact ⟨by dsimp only; omega, by dsimp only; omega, by dsimp only; omega, by dsimp only; omega⟩

section Bounded
variable {pool : RandomInt32Pool} (bounded : pool.Bounded)
include bounded

theorem totalInWords_eq : pool.totalInWords = some pool.total := by
  have numbers := bounded.numbers
  exact Width.count_eq (Width.holds_signed_64_of_literals (by omega) (by omega))
    (Width.holds_signed_64_of_literals (by omega) (by omega))

theorem capacityInWords_eq : pool.capacityInWords = some pool.capacity := by
  have numbers := bounded.numbers
  have few := bounded.few
  have total : pool.total = pool.last - pool.first + 1 := rfl
  have utilized : (Width.signed 64).Holds pool.taken.size :=
    Width.holds_signed_64_of_literals (by omega) (by omega)
  have free : (Width.signed 64).Holds (pool.total - pool.taken.size) :=
    Width.holds_signed_64_of_literals (by omega) (by omega)
  simp only [capacityInWords, totalInWords_eq bounded, Width.fit_of_holds utilized, Width.fit_of_holds free,
    Option.bind_eq_bind, Option.bind_some]
  rfl

theorem drawLimit_eq : pool.drawLimit = some (4 * (pool.taken.size + 1)) := by
  have few := bounded.few
  have more : (Width.unsigned 64).Holds (pool.taken.size + 1) := Width.holds_unsigned_64.mpr (by omega)
  rw [drawLimit, Width.fit_of_holds more, Option.bind_some]
  exact Width.fit_of_holds (Width.holds_unsigned_64.mpr (by omega))

theorem drawsInWords_eq : pool.drawsInWords = some pool.draws := by
  have numbers := bounded.numbers
  have size : pool.total = pool.last - pool.first + 1 := rfl
  have total : (Width.unsigned 64).Holds pool.total := Width.holds_unsigned_64.mpr (by omega)
  simp only [drawsInWords, totalInWords_eq bounded, Width.fit_of_holds total, drawLimit_eq bounded,
    Option.bind_eq_bind, Option.bind_some]
  rfl

theorem chooseInWords_eq (words : List UInt64) : pool.chooseInWords words = some (pool.choose words) := by
  have numbers := bounded.numbers
  have holds : ∀ n, pool.first ≤ n → n ≤ pool.last → (Width.signed 64).Holds n := fun n low high =>
    Width.holds_signed_64_of_literals (by omega) (by omega)
  simp only [chooseInWords, totalInWords_eq bounded, drawsInWords_eq bounded, Option.bind_eq_bind,
    Option.bind_some, choose, drawn, Width.freeFrom_eq holds]
  cases (drawFree pool.first pool.total.toNat pool.taken pool.draws words).1 <;> rfl

theorem allocateInWords_eq (words : List UInt64) :
    pool.allocateInWords words = some (pool.allocate words) := by
  rw [allocateInWords, InWords.number_eq (chooseInWords_eq bounded words), allocate]
  cases pool.choose words with
  | some n => rfl
  | none =>
    dsimp only
    rw [InWords.number_eq (totalInWords_eq bounded)]
    rfl

end Bounded
end RandomInt32Pool
end ResourcePool
