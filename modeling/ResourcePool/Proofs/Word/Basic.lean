import Mathlib.Algebra.Ring.Int.Defs
import ResourcePool.Block.Word
import ResourcePool.Pool.Basic

/-! Computations in words. Where the running definitions compute with integers of any size, a computation
in words keeps each number in a type of a fixed width and comes to nothing as soon as one does not fit. It
agrees with the running definition when it leaves the same records and the same result; this is shown
step by step, from the first number to the last. -/

namespace ResourcePool

/-- Records and a result, or nothing once a number does not fit its type. -/
def InWords (α : Type) : Type := Option (Logged α)

namespace InWords
variable {α β : Type}

instance : Monad InWords where
  pure a := some (pure a)
  bind x f := Option.bind x fun step =>
    match step.result with
    | .ok a => (f a).map fun next => ⟨step.records ++ next.records, next.result⟩
    | .error e => some ⟨step.records, .error e⟩

/-- A step that computes no number. -/
instance : MonadLift Logged InWords := ⟨some⟩

/-- A step that does nothing but compute. -/
instance : MonadLift Option InWords := ⟨fun n => n.map pure⟩

theorem bind_eq {x : InWords α} {f : α → InWords β} {step : Logged α} {next : α → Logged β}
    (first : x = some step) (then_ : ∀ a, step.result = .ok a → f a = some (next a)) :
    x >>= f = some (step >>= next) := by
  subst first
  show (match step.result with | .ok a => _ | .error e => _ : Option (Logged β)) = some
    (match step.result with | .ok a => _ | .error e => _)
  cases result : step.result with
  | ok a =>
    dsimp only
    rw [then_ a result]
    rfl
  | error e => rfl

/-- After a step that computes no number, what follows has to agree. -/
theorem step_eq {step : Logged α} {f : α → InWords β} {next : α → Logged β}
    (then_ : ∀ a, step.result = .ok a → f a = some (next a)) :
    (liftM step : InWords α) >>= f = some (step >>= next) :=
  bind_eq rfl then_

/-- After a step that leaves no record, what follows has to agree and to leave none. -/
theorem quiet_eq {x : InWords α} {f : α → InWords β} {result : Except Error α}
    {next : α → Except Error β} (first : x = some (.quiet result))
    (then_ : ∀ a, result = .ok a → f a = some (.quiet (next a))) :
    x >>= f = some (.quiet (result.bind next)) := by
  have agrees : x >>= f = some (Logged.quiet result >>= fun a => .quiet (next a)) := bind_eq first then_
  rw [agrees]
  cases result <;> rfl

/-- Something is made of the result of a step that leaves no record. -/
theorem quiet_map {x : InWords α} {result : Except Error α} (g : α → β)
    (first : x = some (.quiet result)) :
    (do return g (← x) : InWords β) = some (.quiet (result.map g)) := by
  subst first
  cases result <;> rfl

/-- A number that fits goes on to what follows. -/
theorem number_eq {n : Option α} {a : α} (fits : n = some a) (f : α → InWords β) :
    (liftM n : InWords α) >>= f = f a := by
  subst fits
  show (f a).map (fun next => (⟨[] ++ next.records, next.result⟩ : Logged β)) = f a
  simp only [List.nil_append]
  exact congrFun Option.map_id (f a)

/-! ### Granted resources -/

/-- Reads the granted resources one after the other. -/
def readAll (read : Bag → InWords α) : List Bag → InWords (List α)
  | [] => return []
  | bag :: rest => do return (← read bag) :: (← readAll read rest)

theorem readAll_eq {inWords : Bag → InWords α} {read : Bag → Except Error α}
    (agrees : ∀ bag, inWords bag = some (.quiet (read bag))) (bags : List Bag) :
    readAll inWords bags = some (.quiet (bags.mapM read)) := by
  induction bags with
  | nil => rfl
  | cons bag rest ih =>
    rw [List.mapM_cons, readAll, agrees, ih]
    cases read bag with
    | error e => rfl
    | ok a => cases rest.mapM read <;> rfl

end InWords

/-! ### Numbers that fit -/

theorem toInt_bounds (n : Int64) : least64 ≤ n.toInt ∧ n.toInt ≤ greatest64 := by
  have low := n.le_toInt
  have high := n.toInt_lt
  simp only [least64, greatest64]
  omega

theorem mapM_eq_some {α β : Type} {inWords : α → Option β} {g : α → β} {items : List α}
    (fits : ∀ a ∈ items, inWords a = some (g a)) : items.mapM inWords = some (items.map g) := by
  induction items with
  | nil => rfl
  | cons a rest ih =>
    obtain ⟨first, others⟩ := List.forall_mem_cons.mp fits
    rw [List.mapM_cons, first, ih others]
    rfl

theorem sum_bounds {low high : Int} {sizes : List Int}
    (each : ∀ size ∈ sizes, low ≤ size ∧ size ≤ high) :
    sizes.length * low ≤ sizes.sum ∧ sizes.sum ≤ sizes.length * high := by
  induction sizes with
  | nil => simp
  | cons size rest ih =>
    obtain ⟨first, others⟩ := List.forall_mem_cons.mp each
    have := ih others
    simp only [List.length_cons, Int.natCast_add, Int.cast_ofNat_Int, Int.add_mul, Int.one_mul,
      List.sum_cons]
    omega

namespace Width
variable {w : Width} {n low high total : Int}

theorem fit_of_holds (h : w.Holds n) : w.fit n = some n := if_pos h

/-- The number that is wanted, if one is. -/
def fit? (w : Width) : Option Int → Option (Option Int)
  | none => some none
  | some n => (w.fit n).map some

theorem fit?_eq {wanted : Option Int} (holds : ∀ n, wanted = some n → w.Holds n) :
    w.fit? wanted = some wanted := by
  cases wanted with
  | none => rfl
  | some n =>
    rw [fit?, fit_of_holds (holds n rfl)]
    rfl

theorem holds_unsigned_64 : (unsigned 64).Holds n ↔ 0 ≤ n ∧ n < 18446744073709551616 := by
  have words : Nat.pow 2 64 = 18446744073709551616 := rfl
  simp only [Holds, words]
  omega

theorem holds_signed_64 : (signed 64).Holds n ↔ least64 ≤ n ∧ n ≤ greatest64 := by
  have words : Nat.pow 2 (64 - 1) = 9223372036854775808 := rfl
  simp only [Holds, words, least64, greatest64]
  omega

theorem holds_signed_64_of_literals (lower : -9223372036854775808 ≤ n)
    (upper : n ≤ 9223372036854775807) : (signed 64).Holds n :=
  holds_signed_64.mpr ⟨lower, upper⟩

theorem holds_signed_128 : (signed 128).Holds n ↔
    -170141183460469231731687303715884105728 ≤ n ∧ n < 170141183460469231731687303715884105728 := by
  have words : Nat.pow 2 (128 - 1) = 170141183460469231731687303715884105728 := rfl
  simp only [Holds, words]
  omega

/-- How many numbers there are from the first to the last. -/
def count (w : Width) (first last : Int) : Option Int := do
  let span ← w.fit (last - first)
  w.fit (span + 1)

theorem count_eq {first last : Int} (span : w.Holds (last - first)) (size : w.Holds (last - first + 1)) :
    w.count first last = some (last - first + 1) := by
  simp only [count, fit_of_holds span, fit_of_holds size, Option.bind_eq_bind, Option.bind_some]

/-- Between any two 64-bit integers there are few numbers for 128 bits. -/
theorem count_of_bounds {first last : Int} (hfirst : least64 ≤ first ∧ first ≤ greatest64)
    (hlast : least64 ≤ last ∧ last ≤ greatest64) :
    (signed 128).count first last = some (last - first + 1) := by
  simp only [least64, greatest64] at hfirst hlast
  exact count_eq (holds_signed_128.mpr (by omega)) (holds_signed_128.mpr (by omega))

/-- The sum of some sizes, starting from nothing. -/
def sum (w : Width) (sizes : List Int) : Option Int :=
  sizes.foldlM (fun total size => w.fit (total + size)) 0

theorem foldlM_fit {sizes : List Int} (each : ∀ size ∈ sizes, low ≤ size ∧ size ≤ high) (down : low ≤ 0)
    (up : 0 ≤ high)
    (holds : ∀ n, total + sizes.length * low ≤ n → n ≤ total + sizes.length * high → w.Holds n) :
    sizes.foldlM (fun total size => w.fit (total + size)) total = some (total + sizes.sum) := by
  induction sizes generalizing total with
  | nil => simp
  | cons size rest ih =>
    obtain ⟨lower, upper⟩ := each size List.mem_cons_self
    have room : (rest.length : Int) * low ≤ 0 := Int.mul_nonpos_of_nonneg_of_nonpos (by omega) down
    have room' : 0 ≤ (rest.length : Int) * high := Int.mul_nonneg (by omega) up
    simp only [List.length_cons, Int.natCast_add, Int.cast_ofNat_Int, Int.add_mul, Int.one_mul] at holds
    rw [List.foldlM_cons, fit_of_holds (holds _ (by omega) (by omega)), List.sum_cons, ← Int.add_assoc]
    exact ih (fun s hs => each s (List.mem_cons_of_mem _ hs)) fun n hlow hhigh =>
      holds n (by omega) (by omega)

theorem sum_eq {sizes : List Int} (each : ∀ size ∈ sizes, low ≤ size ∧ size ≤ high) (down : low ≤ 0)
    (up : 0 ≤ high) (holds : ∀ n, sizes.length * low ≤ n → n ≤ sizes.length * high → w.Holds n) :
    w.sum sizes = some sizes.sum := by
  have summed : sizes.foldlM (fun total size => w.fit (total + size)) 0 = some (0 + sizes.sum) :=
    foldlM_fit each down up fun n hlow hhigh => holds n (by omega) (by omega)
  rw [sum, summed, Int.zero_add]

end Width
end ResourcePool
