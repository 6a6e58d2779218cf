import ResourcePool.Proofs.Unit.Basic

/-! Pools of addresses are exact. The subnet flag of the user can only narrow the bounds of one claim, so
a plain claim sees the whole pool. -/

namespace ResourcePool

namespace AddressPool
variable {f : Family}

theorem ofSnapshot_of_read {s : Snapshot} {network : Network f} {values : List Int}
    (pool : poolNetwork f s.properties = .ok network)
    (read : s.held.map (heldAddress f) = values.map .ok) :
    ofSnapshot f s =
      .ok ⟨network, s.properties.flag "subnet" || s.input.flag "subnet", .ofList values⟩ :=
  bind_eq_ok_iff.mpr ⟨network, pool,
    bind_eq_ok_iff.mpr ⟨values, Snapshot.ofHeld_eq_ok_iff.mpr read, rfl⟩⟩

theorem bounds_of_ofSnapshot {s : Snapshot} {pool : AddressPool f} (h : ofSnapshot f s = .ok pool) :
    ∃ first last, UnitKind.bounds (.address f) s.properties = .ok (first, last) := by
  obtain ⟨network, hnetwork, -⟩ := bind_eq_ok_iff.mp h
  exact ⟨_, _, map_eq_ok_iff.mpr ⟨network, hnetwork, rfl⟩⟩

theorem exists_grant (pool : AddressPool f) {n : Int} (low : pool.network.block.start ≤ n)
    (high : n < pool.network.block.stop) :
    ∃ bag, (pool.grant n).result = .ok bag ∧ heldAddress f bag = .ok n := by
  have stop := pool.network.block_stop_le
  obtain ⟨value, rfl⟩ := Int.eq_ofNat_of_zero_le (Int.le_trans (Int.natCast_nonneg _) low)
  let a : Address f := ⟨value, by omega⟩
  refine ⟨Bag.empty.set "address" (.text a.text), ?_, ?_⟩
  · simp only [grant, Logged.result_bind, Logged.result_lift, Logged.result_record, Logged.result_pure]
    rw [show Address.ofInt f value = .ok a from Address.ofInt_value a]
    rfl
  · exact heldAddress_eq_ok_iff.mpr ⟨a.text, a, by simp, Address.read_text a, rfl⟩

theorem refuse_fails (pool : AddressPool f) (desired : String) (why : NoNumber) :
    Fails (pool.refuse desired why).result why := by
  cases why <;> exact ⟨_, rfl, rfl⟩

theorem allocate_result (pool : AddressPool f) (input : Bag) :
    (pool.allocate input).result =
      (wanted? f input).bind fun wanted =>
        match chooseNumber pool.first (pool.stop - 1) pool.taken (wanted.map fun w => w.2.value) with
        | .ok n => (pool.grant n).result
        | .error why => (pool.refuse ((wanted.map Prod.fst).getD "") why).result := by
  simp only [allocate, Logged.result_bind, Logged.result_lift, Logged.result_record, Except.bind]
  cases wanted? f input with
  | error e => rfl
  | ok wanted =>
    dsimp only
    cases chooseNumber pool.first (pool.stop - 1) pool.taken (wanted.map fun w => w.2.value) <;> rfl

end AddressPool

namespace UnitKind
variable {f : Family} {properties : Bag} {network : Network f} {first last : Int}

/-- The user can only make the bounds of an address pool tighter. -/
theorem address_bounds_le (pool : poolNetwork f properties = .ok network)
    (h : bounds (.address f) properties = .ok (first, last)) (user : Bool) (taken : IntSet) :
    let opened : AddressPool f := ⟨network, properties.flag "subnet" || user, taken⟩
    first ≤ opened.first ∧ opened.stop - 1 ≤ last ∧
      (user = false → opened.first = first ∧ opened.stop - 1 = last) := by
  simp only [bounds, pool, Except.map, Except.ok.injEq] at h
  simp only [AddressPool.first, AddressPool.stop, AddressPool.reserves, Network.block, Block.stop]
  by_cases short : network.mask + 1 < f.bits
  · cases hsubnet : properties.flag "subnet" <;> cases user <;> simp [short, hsubnet] at h ⊢ <;> omega
  · simp [short] at h ⊢
    omega

theorem address_bounds_inside (pool : poolNetwork f properties = .ok network)
    (h : bounds (.address f) properties = .ok (first, last)) {n : Int} (low : first ≤ n)
    (high : n ≤ last) : network.block.start ≤ n ∧ n < network.block.stop := by
  simp only [bounds, pool, Except.map, Except.ok.injEq] at h
  simp only [Network.block, Block.stop]
  split at h
  · cases h
    omega
  · cases h
    omega

theorem exact_address (h : bounds (.address f) properties = .ok (first, last)) :
    Exact (.address f) properties first last := by
  obtain ⟨network, pool, -⟩ := map_eq_ok_iff.mp h
  have opened : ∀ {bags values input}, bags.map (AddressPool.heldAddress f) = values.map .ok →
      AddressPool.ofSnapshot f ⟨properties, bags, input⟩ =
        .ok ⟨network, properties.flag "subnet" || input.flag "subnet", .ofList values⟩ :=
    fun read => AddressPool.ofSnapshot_of_read pool read
  refine ⟨fun {bags values} input script read => ?_, fun {bags values} read => ?_⟩
  · obtain ⟨low, high, same⟩ := address_bounds_le pool h (input.flag "subnet") (.ofList values)
    show Answers _ _ _ _ _ (Snapshot.allocate _ (.address f) script).result
    rw [Snapshot.allocate_address, opened read]
    show Answers _ _ _ _ _ (AddressPool.allocate _ input).result
    rw [AddressPool.allocate_result]
    refine answers_of_chooseNumber low high ?_ ?_
      (fun w why => (AddressPool.refuse_fails _ _ why).eq_error) ?_
    · rintro rfl
      exact same rfl
    · intro n above below
      obtain ⟨start, stop⟩ := address_bounds_inside pool h above below
      exact AddressPool.exists_grant _ start stop
    · rintro rfl
      rfl
  · obtain ⟨-, -, same⟩ := address_bounds_le pool h (Bag.empty.flag "subnet") (.ofList values)
    obtain ⟨rfl, rfl⟩ := same rfl
    show (Snapshot.capacity _ (.address f)).result = _
    rw [Snapshot.capacity_result, Pool.ofSnapshot, opened read]
    refine congrArg (fun free => Except.ok (Capacity.of free _)) ?_
    dsimp only
    omega

end UnitKind
end ResourcePool
