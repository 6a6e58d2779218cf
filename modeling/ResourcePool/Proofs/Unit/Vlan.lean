import ResourcePool.Proofs.Unit.Basic

/-! Pools of VLAN ids are exact. -/

namespace ResourcePool
namespace VlanPool

theorem refuse_fails (pool : VlanPool) (desired : String) (why : NoNumber) :
    Fails (pool.refuse desired why).result why := by
  cases why <;> exact ⟨_, rfl, rfl⟩

theorem allocate_result (pool : VlanPool) (input : Bag) :
    (pool.allocate input).result =
      (wanted? input).bind fun wanted =>
        match chooseNumber pool.first.toInt pool.last.toInt pool.taken (wanted.map Int64.toInt) with
        | .ok id => (pool.grant id).result
        | .error why => (pool.refuse ((wanted.map fun id => id.toInt.repr).getD "") why).result := by
  simp only [allocate, Logged.result_bind, Logged.result_lift, Logged.result_record, Except.bind]
  cases wanted? input with
  | error e => rfl
  | ok wanted =>
    dsimp only
    cases chooseNumber pool.first.toInt pool.last.toInt pool.taken (wanted.map Int64.toInt) <;> rfl

theorem exists_grant (pool : VlanPool) {id : Int} (low : pool.first.toInt ≤ id)
    (high : id ≤ pool.last.toInt) :
    ∃ bag, (pool.grant id).result = .ok bag ∧ heldNumber "vlan" bag = .ok id := by
  have := pool.first.le_toInt
  have := pool.last.toInt_lt
  have fits : least64 ≤ id ∧ id ≤ greatest64 := by
    simp only [least64, greatest64]
    omega
  refine ⟨Bag.empty.set "vlan" (.int (.ofInt id)), rfl, ?_⟩
  rw [heldNumber_of_get? (n := .ofInt id) (by simp), toInt_ofInt fits]

theorem answers (pool : VlanPool) {values : List Int} (taken : pool.taken = .ofList values)
    (input : Bag) :
    UnitKind.Answers .vlan pool.first.toInt pool.last.toInt values (input = .empty)
      (pool.allocate input).result := by
  rw [allocate_result, taken]
  refine UnitKind.answers_of_chooseNumber (Int.le_refl _) (Int.le_refl _) (fun _ => ⟨rfl, rfl⟩) ?_
    (fun w why => (refuse_fails _ _ why).eq_error) ?_
  · intro id low high
    exact pool.exists_grant low high
  · rintro rfl
    rfl

theorem ofSnapshot_of_read {s : Snapshot} {first last : Int64} {values : List Int}
    (hfirst : s.properties.int64 "from" .pool = .ok first)
    (hlast : s.properties.int64 "to" .pool = .ok last)
    (read : s.held.map (heldNumber "vlan") = values.map .ok) :
    ofSnapshot s = .ok ⟨first, last, .ofList values⟩ :=
  bind_eq_ok_iff.mpr ⟨first, hfirst, bind_eq_ok_iff.mpr ⟨last, hlast, bind_eq_ok_iff.mpr
    ⟨values, Snapshot.ofHeld_eq_ok_iff.mpr read, rfl⟩⟩⟩

theorem bounds_of_ofSnapshot {s : Snapshot} {pool : VlanPool} (h : ofSnapshot s = .ok pool) :
    ∃ first last, UnitKind.bounds .vlan s.properties = .ok (first, last) := by
  obtain ⟨from_, hfrom, h⟩ := bind_eq_ok_iff.mp h
  obtain ⟨to_, hto, -⟩ := bind_eq_ok_iff.mp h
  exact ⟨_, _, bind_eq_ok_iff.mpr ⟨from_, hfrom, map_eq_ok_iff.mpr ⟨to_, hto, rfl⟩⟩⟩

end VlanPool

theorem UnitKind.exact_vlan {properties : Bag} {first last : Int}
    (h : bounds .vlan properties = .ok (first, last)) : Exact .vlan properties first last := by
  obtain ⟨from_, hfrom, h⟩ := bind_eq_ok_iff.mp h
  obtain ⟨to_, hto, h⟩ := map_eq_ok_iff.mp h
  cases h
  have opened : ∀ {bags values input}, bags.map (ResourcePool.heldNumber "vlan") = values.map .ok →
      VlanPool.ofSnapshot ⟨properties, bags, input⟩ = .ok ⟨from_, to_, .ofList values⟩ :=
    fun read => VlanPool.ofSnapshot_of_read hfrom hto read
  refine ⟨fun {bags values} input script read => ?_, fun {bags values} read => ?_⟩
  · show Answers _ _ _ _ _ (Snapshot.allocate _ .vlan script).result
    rw [Snapshot.allocate_vlan, opened read]
    exact VlanPool.answers ⟨from_, to_, .ofList values⟩ rfl input
  · show (Snapshot.capacity _ .vlan).result = _
    rw [Snapshot.capacity_result, Pool.ofSnapshot, opened read]
    refine congrArg Except.ok ?_
    simp only [Pool.capacity, VlanPool.capacity, VlanPool.total, Capacity.of, Capacity.mk.injEq,
      and_true]
    omega

end ResourcePool
