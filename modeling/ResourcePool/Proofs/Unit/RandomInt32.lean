import ResourcePool.Proofs.Unit.Basic

/-! Pools of random integers are exact, whatever words are drawn. A draw falls into the range, drawing
stops at a number that is not taken, and when it stops at none the lowest free number is granted, so that
a number is found whenever there is one. -/

namespace ResourcePool

/-! ### Drawing -/

section Draw
variable {first : Int} {width : Nat}

/-- A draw falls into its range: the high half of a word times the width is less than the width. -/
theorem draw_bounds (positive : 0 < width) (words : List UInt64) :
    first ≤ (draw first width words).value ∧ (draw first width words).value < first + width := by
  induction words with
  | nil =>
    simp only [draw]
    omega
  | cons word rest ih =>
    have high : word.toNat * width / UInt64.size < width :=
      Nat.div_lt_of_lt_mul (Nat.mul_lt_mul_of_pos_right word.toNat_lt positive)
    simp only [draw]
    split
    · dsimp only
      rw [← Int.natCast_ediv]
      generalize word.toNat * width / UInt64.size = quotient at high ⊢
      omega
    · exact ih

/-- What drawing comes to is a number of the range that is not taken. -/
theorem drawFree_free {taken : IntSet} {draws : Nat} {words : List UInt64} {n : Int}
    (positive : 0 < width) (h : (drawFree first width taken draws words).1 = some n) :
    first ≤ n ∧ n < first + width ∧ n ∉ taken := by
  induction draws generalizing words with
  | zero => cases h
  | succ draws ih =>
    simp only [drawFree] at h
    split at h
    · exact ih h
    case isFalse fresh =>
      cases h
      obtain ⟨low, high⟩ := draw_bounds positive words
      exact ⟨low, high, fresh⟩

end Draw

namespace RandomInt32Pool
variable {pool : RandomInt32Pool} {words : List UInt64} {n : Int}

theorem choose_free (order : pool.first ≤ pool.last) (h : pool.choose words = some n) :
    pool.first ≤ n ∧ n ≤ pool.last ∧ n ∉ pool.taken := by
  unfold choose at h
  cases hdrawn : (pool.drawn words).1 with
  | none =>
    -- Every draw was taken, so the lowest free number is the answer.
    rw [hdrawn] at h
    exact (firstFree_eq_some_iff.mp h).1
  | some m =>
    rw [hdrawn] at h
    cases h
    have width : (pool.total.toNat : Int) = pool.last - pool.first + 1 := by
      simp only [total]
      omega
    obtain ⟨low, high, fresh⟩ := drawFree_free (by omega) hdrawn
    exact ⟨low, by omega, fresh⟩

theorem choose_of_free (pool : RandomInt32Pool) (words : List UInt64)
    (free : ∃ k, pool.first ≤ k ∧ k ≤ pool.last ∧ k ∉ pool.taken) :
    ∃ n, pool.choose words = some n := by
  obtain ⟨k, low, high, fresh⟩ := free
  unfold choose
  cases (pool.drawn words).1 with
  | none =>
    obtain ⟨n, found, -⟩ := exists_freeFrom_le low high fresh
    exact ⟨n, found⟩
  | some m => exact ⟨m, rfl⟩

theorem choose_of_full (words : List UInt64) (order : pool.first ≤ pool.last)
    (full : ∀ k, pool.first ≤ k → k ≤ pool.last → k ∈ pool.taken) : pool.choose words = none := by
  cases h : pool.choose words with
  | none => rfl
  | some n =>
    obtain ⟨low, high, fresh⟩ := choose_free order h
    exact absurd (full n low high) fresh

/-- The choice of a claim, which asks for no particular number. -/
def choice (pool : RandomInt32Pool) (words : List UInt64) : Option Int → Except NoNumber Int :=
  fun _ => match pool.choose words with
    | some n => .ok n
    | none => .error .exhausted

theorem choice_eq_ok {wanted : Option Int} :
    pool.choice words wanted = .ok n ↔ pool.choose words = some n := by
  rw [choice]
  cases pool.choose words <;> simp

theorem allocate_result (pool : RandomInt32Pool) (words : List UInt64) :
    (pool.allocate words).result =
      (Except.ok none).bind fun wanted =>
        match pool.choice words wanted with
        | .ok n => .ok (Bag.empty.set "int" (.int (.ofInt n)))
        | .error _ => pool.exhausted.result := by
  simp only [allocate, choice, Except.bind]
  cases pool.choose words <;> rfl

theorem answers (pool : RandomInt32Pool) {values : List Int} (order : pool.first ≤ pool.last)
    (low : least ≤ pool.first) (high : pool.last ≤ greatest) (taken : pool.taken = .ofList values) (words : List UInt64)
    (plain : Prop) :
    UnitKind.Answers .randomInt32 pool.first pool.last values plain (pool.allocate words).result := by
  rw [allocate_result]
  refine UnitKind.answers_of_choice ?_ ?_ (fun w why => ⟨_, rfl, fun _ => rfl⟩) (fun _ => rfl) ?_ ?_
  · intro w n chosen
    obtain ⟨hlow, hhigh, fresh⟩ := choose_free order (choice_eq_ok.mp chosen)
    exact ⟨hlow, hhigh, IntSet.not_mem_ofList.mp (taken ▸ fresh)⟩
  · intro n hlow hhigh
    have fits : least64 ≤ n ∧ n ≤ greatest64 := by
      simp only [least64, greatest64, least, greatest] at *
      omega
    refine ⟨_, rfl, ?_⟩
    show heldNumber "int" _ = _
    rw [heldNumber_of_get? (n := .ofInt n) (by simp), toInt_ofInt fits]
  · rintro - ⟨n, hlow, hhigh, fresh⟩
    obtain ⟨m, chosen⟩ :=
      pool.choose_of_free words ⟨n, hlow, hhigh, taken ▸ IntSet.not_mem_ofList.mpr fresh⟩
    exact ⟨m, choice_eq_ok.mpr chosen⟩
  · rintro - full
    have nothing := choose_of_full words order fun n hlow hhigh =>
      taken ▸ IntSet.mem_ofList.mpr (full n hlow hhigh)
    rw [choice, nothing]

/-! ### Opening -/

theorem ofSnapshot_of_read {s : Snapshot} {first last : Int} {values : List Int}
    (bounds : UnitKind.bounds .randomInt32 s.properties = .ok (first, last)) (order : first ≤ last)
    (low : least ≤ first) (high : last ≤ greatest)
    (read : s.held.map (heldNumber "int") = values.map .ok) :
    ofSnapshot s = .ok ⟨first, last, .ofList values⟩ := by
  obtain ⟨from_, hfrom, bounds⟩ := bind_eq_ok_iff.mp bounds
  obtain ⟨to_, hto, bounds⟩ := map_eq_ok_iff.mp bounds
  cases bounds
  refine bind_eq_ok_iff.mpr ⟨from_, hfrom, bind_eq_ok_iff.mpr ⟨to_, hto, ?_⟩⟩
  rw [if_neg (by omega)]
  exact bind_eq_ok_iff.mpr ⟨values, Snapshot.ofHeld_eq_ok_iff.mpr read, rfl⟩

/-- A pool that can be opened has a range of 32-bit integers that is not empty. -/
theorem bounds_of_ofSnapshot {s : Snapshot} (h : ofSnapshot s = .ok pool) :
    ∃ first last, UnitKind.bounds .randomInt32 s.properties = .ok (first, last) ∧ first ≤ last ∧
      least ≤ first ∧ last ≤ greatest := by
  obtain ⟨from_, hfrom, h⟩ := bind_eq_ok_iff.mp h
  obtain ⟨to_, hto, h⟩ := bind_eq_ok_iff.mp h
  dsimp only at h
  split at h
  case isTrue => cases h
  case isFalse valid =>
    refine ⟨_, _, bind_eq_ok_iff.mpr ⟨from_, hfrom, map_eq_ok_iff.mpr ⟨to_, hto, rfl⟩⟩, ?_, ?_, ?_⟩
    all_goals omega

end RandomInt32Pool

theorem UnitKind.exact_randomInt32 {properties : Bag} {first last : Int}
    (h : bounds .randomInt32 properties = .ok (first, last)) (order : first ≤ last)
    (low : RandomInt32Pool.least ≤ first) (high : last ≤ RandomInt32Pool.greatest) :
    Exact .randomInt32 properties first last := by
  have opened : ∀ {bags values input}, bags.map (ResourcePool.heldNumber "int") = values.map .ok →
      RandomInt32Pool.ofSnapshot ⟨properties, bags, input⟩ = .ok ⟨first, last, .ofList values⟩ :=
    fun read => RandomInt32Pool.ofSnapshot_of_read h order low high read
  refine ⟨fun {bags values} input script read => ?_, fun {bags values} read => ?_⟩
  · show Answers _ _ _ _ _ (Snapshot.allocate _ .randomInt32 script).result
    rw [Snapshot.allocate_randomInt32, opened read]
    exact RandomInt32Pool.answers ⟨first, last, .ofList values⟩ order low high rfl _ _
  · show (Snapshot.capacity _ .randomInt32).result = _
    rw [Snapshot.capacity_result, Pool.ofSnapshot, opened read]
    rfl

end ResourcePool
