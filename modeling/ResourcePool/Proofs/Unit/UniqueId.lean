import ResourcePool.Proofs.Unit.Basic

/-! Pools of unique ids are exact when they count up to a bound of their own. The counter after the
highest one granted is always free; past the bound the search finds any counter that was given back. -/

namespace ResourcePool
namespace UniqueIdPool
variable {pool : UniqueIdPool} {n : Int}

/-! ### The next counter -/

/-- The next counter is free, and only the end of the scope can be in its way. -/
theorem next_free (pool : UniqueIdPool) : pool.floor ≤ pool.next ∧ pool.next ∉ pool.taken := by
  unfold next
  cases hmax : pool.taken.max? with
  | none =>
    have empty : pool.taken.elements = [] := List.getLast?_eq_none_iff.mp hmax
    refine ⟨Int.le_refl _, fun h => ?_⟩
    have mem : pool.floor ∈ pool.taken.elements := h
    rw [empty] at mem
    cases mem
  | some highest =>
    dsimp only
    split
    case isTrue below =>
      refine ⟨by omega, fun h => ?_⟩
      have := IntSet.le_max? hmax h
      omega
    case isFalse above =>
      -- All that is taken is below the floor, where the counters start.
      refine ⟨Int.le_refl _, fun h => ?_⟩
      have := IntSet.le_max? hmax h
      omega

theorem choose_free {wanted : Option Int} (h : pool.choose wanted = .ok n) :
    pool.floor ≤ n ∧ n ≤ pool.ceiling ∧ n ∉ pool.taken := by
  cases wanted with
  | some wanted =>
    rw [choose] at h
    exact chooseNumber_free h
  | none =>
    obtain ⟨low, fresh⟩ := pool.next_free
    simp only [choose] at h
    split at h
    case isTrue inside =>
      cases h
      exact ⟨low, inside, fresh⟩
    case isFalse => exact chooseNumber_free h

theorem choose_of_free (free : ∃ k, pool.floor ≤ k ∧ k ≤ pool.ceiling ∧ k ∉ pool.taken) :
    ∃ n, pool.choose none = .ok n := by
  simp only [choose]
  split
  · exact ⟨pool.next, rfl⟩
  · exact chooseNumber_of_free free

theorem choose_of_full (full : ∀ k, pool.floor ≤ k → k ≤ pool.ceiling → k ∈ pool.taken) :
    pool.choose none = .error .exhausted := by
  obtain ⟨low, fresh⟩ := pool.next_free
  simp only [choose]
  split
  case isTrue inside => exact absurd (full pool.next low inside) fresh
  case isFalse => exact chooseNumber_of_full full

/-! ### Claims -/

theorem refuse_fails (pool : UniqueIdPool) (desired : String) (why : NoNumber) :
    Fails (pool.refuse desired why).result why := by
  cases why <;> exact ⟨_, rfl, rfl⟩

theorem allocate_result (pool : UniqueIdPool) (input : Bag)
    (template : Text.occurs counterToken pool.template.toList = true) :
    (pool.allocate input).result =
      (wanted? input).bind fun wanted =>
        match pool.choose (wanted.map Int64.toInt) with
        | .ok counter => (pool.grant counter).result
        | .error why => (pool.refuse ((wanted.map fun n => n.toInt.repr).getD "") why).result := by
  simp only [allocate, template, ↓reduceIte, Logged.result_bind, Logged.result_lift, Except.bind]
  cases wanted? input with
  | error e => rfl
  | ok wanted =>
    dsimp only
    cases pool.choose (wanted.map Int64.toInt) <;> rfl

theorem exists_grant (pool : UniqueIdPool) {counter : Int} (low : pool.floor ≤ counter)
    (high : counter ≤ pool.ceiling) :
    ∃ bag, (pool.grant counter).result = .ok bag ∧ heldNumber "counter" bag = .ok counter := by
  have floor : least64 ≤ pool.floor := by
    unfold floor
    cases pool.first with
    | none => decide
    | some first => exact first.le_toInt
  have ceiling : pool.ceiling ≤ greatest64 := by
    unfold ceiling
    cases pool.last with
    | none => decide
    | some last => exact Int.le_of_lt_add_one last.toInt_lt
  refine ⟨_, rfl, ?_⟩
  rw [heldNumber_of_get? (n := .ofInt counter) (by simp), toInt_ofInt ⟨by omega, by omega⟩]

theorem answers (pool : UniqueIdPool) {values : List Int}
    (template : Text.occurs counterToken pool.template.toList = true)
    (taken : pool.taken = .ofList values) (input : Bag) :
    UnitKind.Answers .uniqueId pool.floor pool.ceiling values (input = .empty)
      (pool.allocate input).result := by
  rw [allocate_result pool input template]
  refine UnitKind.answers_of_choice ?_ ?_ (fun w why => (refuse_fails _ _ why).eq_error) ?_ ?_ ?_
  · intro w n chosen
    obtain ⟨low, high, fresh⟩ := choose_free chosen
    exact ⟨low, high, IntSet.not_mem_ofList.mp (taken ▸ fresh)⟩
  · intro n low high
    exact pool.exists_grant low high
  · rintro rfl
    rfl
  · rintro - ⟨n, low, high, fresh⟩
    exact choose_of_free ⟨n, low, high, taken ▸ IntSet.not_mem_ofList.mpr fresh⟩
  · rintro - full
    exact choose_of_full fun n low high => taken ▸ IntSet.mem_ofList.mpr (full n low high)

/-! ### Opening -/

/-- What a pool takes out of a snapshot: its configuration, its tokens and the counters that are held. -/
structure Reads (pool : UniqueIdPool) (s : Snapshot) (values : List Int) : Prop where
  template : s.properties.text "idFormat" .pool = .ok pool.template
  first : s.properties.int64? "from" = .ok pool.first
  last : s.properties.int64? "to" = .ok pool.last
  width : (s.properties.int64? "counterFormatWidth").map (Option.map fun w => w.toInt.toNat) = .ok pool.width
  substitutions : pool.substitutions =
    (s.properties.entries.filter fun e => !reserved.contains e.1).map fun e => (e.1, e.2.plain)
  held : s.held.map (heldNumber "counter") = values.map .ok
  taken : pool.taken = .ofList values

theorem ofSnapshot_eq_ok_iff {s : Snapshot} : ofSnapshot s = .ok pool ↔ ∃ values, pool.Reads s values := by
  constructor
  · intro builds
    obtain ⟨template, htemplate, builds⟩ := bind_eq_ok_iff.mp builds
    obtain ⟨first, hfirst, builds⟩ := bind_eq_ok_iff.mp builds
    obtain ⟨last, hlast, builds⟩ := bind_eq_ok_iff.mp builds
    obtain ⟨width, hwidth, builds⟩ := bind_eq_ok_iff.mp builds
    obtain ⟨values, held, builds⟩ := bind_eq_ok_iff.mp builds
    cases builds
    exact ⟨values, htemplate, hfirst, hlast, map_eq_ok_iff.mpr ⟨width, hwidth, rfl⟩, rfl,
      Snapshot.ofHeld_eq_ok_iff.mp held, rfl⟩
  · rintro ⟨values, reads⟩
    obtain ⟨width, hwidth, shown⟩ := map_eq_ok_iff.mp reads.width
    refine bind_eq_ok_iff.mpr ⟨_, reads.template, bind_eq_ok_iff.mpr ⟨_, reads.first,
      bind_eq_ok_iff.mpr ⟨_, reads.last, bind_eq_ok_iff.mpr ⟨width, hwidth,
        bind_eq_ok_iff.mpr ⟨values, Snapshot.ofHeld_eq_ok_iff.mpr reads.held, ?_⟩⟩⟩⟩⟩
    show Except.ok (UniqueIdPool.mk _ _ _ (width.map fun w => w.toInt.toNat) _ _) = _
    rw [shown, ← reads.substitutions, ← reads.taken]

theorem Reads.bounds {s : Snapshot} {values : List Int} (reads : pool.Reads s values) :
    UnitKind.bounds .uniqueId s.properties = .ok (pool.floor, pool.ceiling) :=
  bind_eq_ok_iff.mpr ⟨pool.first, reads.first, map_eq_ok_iff.mpr ⟨pool.last, reads.last, rfl⟩⟩

/-- What is held changes nothing about a pool but the counters that are taken. -/
theorem reopen {properties input : Bag} {bags : List Bag} {values : List Int}
    (builds : ofSnapshot ⟨properties, [], .empty⟩ = .ok pool)
    (read : bags.map (heldNumber "counter") = values.map .ok) :
    ofSnapshot ⟨properties, bags, input⟩ = .ok { pool with taken := .ofList values } := by
  obtain ⟨_, reads⟩ := ofSnapshot_eq_ok_iff.mp builds
  exact ofSnapshot_eq_ok_iff.mpr ⟨values, reads.template, reads.first, reads.last, reads.width,
    reads.substitutions, read, rfl⟩

/-- The bounds of a pool are its scope, and one that counts has an end and a place for the counter. -/
theorem bounds_of_ofSnapshot {properties : Bag}
    (builds : ofSnapshot ⟨properties, [], .empty⟩ = .ok pool)
    (counts : UnitKind.Counts .uniqueId properties) :
    UnitKind.bounds .uniqueId properties = .ok (pool.floor, pool.ceiling) ∧
      pool.total = pool.ceiling - pool.floor + 1 ∧
      Text.occurs counterToken pool.template.toList = true := by
  obtain ⟨bounded, template, hget, occurs⟩ := counts
  obtain ⟨_, reads⟩ := ofSnapshot_eq_ok_iff.mp builds
  refine ⟨reads.bounds, ?_, ?_⟩
  · have hlast := reads.last
    unfold total ceiling
    cases last : pool.last with
    | none =>
      -- A bound that is there is read as a number or refused.
      rw [last] at hlast
      unfold Bag.int64? at hlast
      split at hlast
      case h_1 v _ =>
        obtain ⟨w, -, h⟩ := map_eq_ok_iff.mp hlast
        cases h
      case h_2 absent => exact absurd absent bounded
    | some last => rfl
  · have same : template = pool.template :=
      Except.ok.inj ((Bag.text_of_get? hget).symm.trans reads.template)
    exact same ▸ occurs

end UniqueIdPool

theorem UnitKind.exact_uniqueId {properties : Bag} {pool : UniqueIdPool}
    (builds : UniqueIdPool.ofSnapshot ⟨properties, [], .empty⟩ = .ok pool)
    (counts : Counts .uniqueId properties) : Exact .uniqueId properties pool.floor pool.ceiling := by
  obtain ⟨-, total, template⟩ := UniqueIdPool.bounds_of_ofSnapshot builds counts
  refine ⟨fun {bags values} input script read => ?_, fun {bags values} read => ?_⟩
  · show Answers _ _ _ _ _ (Snapshot.allocate _ .uniqueId script).result
    rw [Snapshot.allocate_uniqueId, UniqueIdPool.reopen builds read]
    exact UniqueIdPool.answers { pool with taken := .ofList values } template rfl input
  · show (Snapshot.capacity _ .uniqueId).result = _
    rw [Snapshot.capacity_result, Pool.ofSnapshot, UniqueIdPool.reopen builds read, ← total]
    rfl

end ResourcePool
