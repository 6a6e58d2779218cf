import ResourcePool.Proofs.Unit.UniqueId

/-! Which counter a pool of unique ids grants. It goes on after the highest one while the scope lasts,
however the highest one lies to it; past the end of the scope it goes back to the least free one. A
wanted counter is granted exactly if it is a free one of the scope. -/

namespace ResourcePool

/-- The number after the highest of a list, but no less than the first. -/
def nextAfter (first : Int) (values : List Int) : Int :=
  values.foldr (fun n next => max (n + 1) next) first

theorem nextAfter_le_iff {first k : Int} {values : List Int} :
    nextAfter first values ≤ k ↔ first ≤ k ∧ ∀ n ∈ values, n < k := by
  induction values with
  | nil => simp [nextAfter]
  | cons n rest ih =>
    have step : nextAfter first (n :: rest) = max (n + 1) (nextAfter first rest) := rfl
    rw [step, max_le_iff, ih, List.forall_mem_cons, Int.add_one_le_iff]
    exact and_left_comm

theorem IntSet.mem_of_max? {s : IntSet} {highest : Int} (h : s.max? = some highest) : highest ∈ s :=
  List.mem_of_getLast? h

namespace UniqueIdPool
variable {pool : UniqueIdPool} {n : Int}

/-! ### The choice -/

theorem next_le_iff {k : Int} : pool.next ≤ k ↔ pool.floor ≤ k ∧ ∀ n ∈ pool.taken, n < k := by
  constructor
  · intro le
    obtain ⟨low, fresh⟩ := pool.next_free
    refine ⟨Int.le_trans low le, fun n hn => ?_⟩
    unfold next at le
    cases hmax : pool.taken.max? with
    | none =>
      have empty : pool.taken.elements = [] := List.getLast?_eq_none_iff.mp hmax
      have mem : n ∈ pool.taken.elements := hn
      rw [empty] at mem
      cases mem
    | some highest =>
      have := IntSet.le_max? hmax hn
      rw [hmax] at le
      dsimp only at le
      split at le <;> omega
  · rintro ⟨low, above⟩
    unfold next
    split
    case h_1 highest hmax =>
      have := above highest (IntSet.mem_of_max? hmax)
      split <;> omega
    case h_2 => exact low

/-- The next counter depends on the numbers that are taken alone, not on how they came in. -/
theorem next_eq_nextAfter {values : List Int} (taken : pool.taken = .ofList values) :
    pool.next = nextAfter pool.floor values := by
  refine eq_of_forall_ge_iff fun k => ?_
  rw [next_le_iff, nextAfter_le_iff, taken]
  exact and_congr_right fun _ => forall_congr' fun n => imp_congr_left IntSet.mem_ofList

theorem choose_of_next_le (inside : pool.next ≤ pool.ceiling) : pool.choose none = .ok pool.next := by
  rw [choose, if_pos inside]

theorem choose_eq_ok_iff_of_lt_next (past : pool.ceiling < pool.next) :
    pool.choose none = .ok n ↔
      IsLeast {k | pool.floor ≤ k ∧ k ≤ pool.ceiling ∧ k ∉ pool.taken} n := by
  rw [choose, if_neg (Int.not_le.mpr past)]
  exact chooseNumber_none_eq_ok_iff

theorem choose_eq_error {why : NoNumber} (refused : pool.choose none = .error why) :
    why = .exhausted ∧ ∀ k, pool.floor ≤ k → k ≤ pool.ceiling → k ∈ pool.taken := by
  have full : ∀ k, pool.floor ≤ k → k ≤ pool.ceiling → k ∈ pool.taken := by
    intro k low high
    by_contra fresh
    obtain ⟨n, chosen⟩ := choose_of_free ⟨k, low, high, fresh⟩
    exact absurd refused (ne_error_of_ok chosen)
  exact ⟨Except.error.inj (refused.symm.trans (choose_of_full full)), full⟩

/-! ### Whole claims -/

/-- The resource of a counter: the text it is put into and the counter itself. -/
def resource (pool : UniqueIdPool) (counter : Int) : Bag :=
  (Bag.empty.set "text" (.text (String.ofList (pool.render counter)))).set "counter" (.int (.ofInt counter))

/-- A claim ends in the resource of a counter, from which that counter is read back. -/
structure Grants (pool : UniqueIdPool) (result : Except Error Bag) (counter : Int) : Prop where
  result : result = .ok (pool.resource counter)
  counter : heldNumber "counter" (pool.resource counter) = .ok counter

theorem grants_of_bounds (low : pool.floor ≤ n) (high : n ≤ pool.ceiling) :
    pool.Grants (pool.grant n).result n := by
  obtain ⟨bag, granted, counter⟩ := pool.exists_grant low high
  obtain rfl := Except.ok.inj granted
  exact ⟨rfl, counter⟩

theorem Grants.unique {result : Except Error Bag} {m : Int} (hm : pool.Grants result m)
    (hn : pool.Grants result n) : m = n := by
  have same : pool.resource m = pool.resource n := Except.ok.inj (hm.result.symm.trans hn.result)
  have counter := hn.counter
  rw [← same, hm.counter] at counter
  exact Except.ok.inj counter

/-- How a pool that holds the numbers answers a claim, for the wanted counter or for any. -/
structure Serves (pool : UniqueIdPool) (values : List Int) (wanted : Option Int)
    (result : Except Error Bag) : Prop where
  append : wanted = none → nextAfter pool.floor values ≤ pool.ceiling →
    pool.Grants result (nextAfter pool.floor values)
  reuse : wanted = none → pool.ceiling < nextAfter pool.floor values → ∀ n,
    pool.Grants result n ↔ IsLeast {k | pool.floor ≤ k ∧ k ≤ pool.ceiling ∧ k ∉ values} n
  full : wanted = none →
    ((∃ e, result = .error e) ↔ ∀ k, pool.floor ≤ k → k ≤ pool.ceiling → k ∈ values)
  exhausted : wanted = none → ∀ e, result = .error e → e.isExhausted = true
  asked : ∀ d, wanted = some d →
    (pool.Grants result d ↔ pool.floor ≤ d ∧ d ≤ pool.ceiling ∧ d ∉ values)
  granted : ∀ bag, result = .ok bag →
    ∃ n, pool.Grants result n ∧ pool.floor ≤ n ∧ n ≤ pool.ceiling ∧ n ∉ values

section Allocate
variable {input : Bag} {wanted : Option Int64}
  (template : Text.occurs counterToken pool.template.toList = true) (read : wanted? input = .ok wanted)
include template read

theorem allocate_of_choose_ok (chosen : pool.choose (wanted.map Int64.toInt) = .ok n) :
    pool.Grants (pool.allocate input).result n := by
  obtain ⟨low, high, -⟩ := choose_free chosen
  rw [allocate_result pool input template, read, Except.bind, chosen]
  exact grants_of_bounds low high

theorem allocate_of_choose_error {why : NoNumber}
    (refused : pool.choose (wanted.map Int64.toInt) = .error why) :
    ∃ e, (pool.allocate input).result = .error e ∧ (why = .exhausted → e.isExhausted = true) := by
  rw [allocate_result pool input template, read, Except.bind, refused]
  exact (refuse_fails pool _ why).eq_error

theorem grants_iff :
    pool.Grants (pool.allocate input).result n ↔ pool.choose (wanted.map Int64.toInt) = .ok n := by
  refine ⟨fun grants => ?_, allocate_of_choose_ok template read⟩
  cases chosen : pool.choose (wanted.map Int64.toInt) with
  | ok m => rw [(allocate_of_choose_ok template read chosen).unique grants]
  | error why =>
    obtain ⟨e, refused, -⟩ := allocate_of_choose_error template read chosen
    exact absurd refused (ne_error_of_ok grants.result)

theorem error_iff :
    (∃ e, (pool.allocate input).result = .error e) ↔
      ∃ why, pool.choose (wanted.map Int64.toInt) = .error why := by
  cases chosen : pool.choose (wanted.map Int64.toInt) with
  | ok n =>
    have grants := allocate_of_choose_ok template read chosen
    simp [grants.result]
  | error why =>
    obtain ⟨e, refused, -⟩ := allocate_of_choose_error template read chosen
    simp [refused]

theorem serves {values : List Int} (taken : pool.taken = .ofList values) :
    pool.Serves values (wanted.map Int64.toInt) (pool.allocate input).result where
  append hnone inside := by
    rw [← next_eq_nextAfter taken] at inside ⊢
    rw [grants_iff template read, hnone]
    exact choose_of_next_le inside
  reuse hnone past n := by
    rw [← next_eq_nextAfter taken] at past
    rw [grants_iff template read, hnone, choose_eq_ok_iff_of_lt_next past, taken]
    simp only [IntSet.not_mem_ofList]
  full hnone := by
    rw [error_iff template read, hnone]
    constructor
    · rintro ⟨why, refused⟩ k low high
      exact IntSet.mem_ofList.mp (taken ▸ (choose_eq_error refused).2 k low high)
    · intro full
      exact ⟨.exhausted, choose_of_full fun k low high => taken ▸ IntSet.mem_ofList.mpr (full k low high)⟩
  exhausted hnone e refused := by
    obtain ⟨why, chosen⟩ := (error_iff template read).mp ⟨e, refused⟩
    obtain ⟨e', refused', exhausted⟩ := allocate_of_choose_error template read chosen
    rw [Except.error.inj (refused.symm.trans refused')]
    rw [hnone] at chosen
    exact exhausted (choose_eq_error chosen).1
  asked d hsome := by
    rw [grants_iff template read, hsome, choose, chooseNumber_some_eq_ok_iff, taken, IntSet.not_mem_ofList]
    exact and_iff_right rfl
  granted bag granted := by
    cases chosen : pool.choose (wanted.map Int64.toInt) with
    | ok n =>
      obtain ⟨low, high, fresh⟩ := choose_free chosen
      exact ⟨n, allocate_of_choose_ok template read chosen, low, high,
        IntSet.not_mem_ofList.mp (taken ▸ fresh)⟩
    | error why =>
      obtain ⟨e, refused, -⟩ := allocate_of_choose_error template read chosen
      exact absurd refused (ne_error_of_ok granted)

end Allocate

end UniqueIdPool

/-- Every claim in a pool of unique ids is served, whatever is held inside its scope or outside it. -/
theorem Snapshot.allocate_uniqueId_serves {s : Snapshot} {pool : UniqueIdPool} {values : List Int}
    {wanted : Option Int64} (script : Option (List UInt64)) (builds : UniqueIdPool.ofSnapshot s = .ok pool)
    (template : Text.occurs UniqueIdPool.counterToken pool.template.toList = true)
    (held : s.held.map (heldNumber "counter") = values.map .ok)
    (read : UniqueIdPool.wanted? s.input = .ok wanted) :
    UnitKind.bounds .uniqueId s.properties = .ok (pool.floor, pool.ceiling) ∧
      pool.Serves values (wanted.map Int64.toInt) (s.allocate .uniqueId script).result := by
  obtain ⟨values', reads⟩ := UniqueIdPool.ofSnapshot_eq_ok_iff.mp builds
  have same : values' = values :=
    List.map_injective_iff.mpr (fun _ _ => Except.ok.inj) (reads.held.symm.trans held)
  refine ⟨reads.bounds, ?_⟩
  rw [Snapshot.allocate_uniqueId, builds]
  exact UniqueIdPool.serves template read (same ▸ reads.taken)

/-- Ids from 1 to 3. The first and the last are held, and so is a counter on either side of them. -/
def heldAround : Snapshot :=
  ⟨.ofList [("idFormat", .text "ID\x7bcounter\x7d"), ("from", .int 1), ("to", .int 3)],
    [-5, 40, 3, 1].map fun n => Bag.empty.set "counter" (.int n), .empty⟩

theorem Snapshot.allocate_uniqueId_serves_held_around :
    ∃ pool, UniqueIdPool.ofSnapshot heldAround = .ok pool ∧
      pool.ceiling < nextAfter pool.floor [-5, 40, 3, 1] ∧
      pool.Grants (heldAround.allocate .uniqueId none).result 2 := by
  have held : heldAround.held.map (heldNumber "counter") = ([-5, 40, 3, 1] : List Int).map .ok := rfl
  refine ⟨_, rfl, by decide, ?_⟩
  obtain ⟨-, serves⟩ := Snapshot.allocate_uniqueId_serves none rfl rfl held rfl
  refine (serves.reuse rfl (by decide) 2).mpr ⟨⟨by decide, by decide, by decide⟩, ?_⟩
  rintro k ⟨low, -, fresh⟩
  have low : 1 ≤ k := low
  have first : k ≠ 1 := fun same => fresh (by simp [same])
  show 2 ≤ k
  omega

end ResourcePool
