import ResourcePool.Proofs.Unit.Address
import ResourcePool.Proofs.Unit.Vlan

/-! Single claims of addresses and VLAN ids, in any circumstances: what is held may lie outside the bounds
and may be held twice. A plain claim is granted the least number of the bounds that is not held, a claim
of one number exactly that number if it is free, and every refusal states its reason. -/

namespace ResourcePool

/-- The first and the last address of a network that may be granted. A subnet keeps its network and its
broadcast address back, unless it has one of the two longest masks. -/
def Network.hosts {f : Family} (n : Network f) (subnet : Bool) : Int × Int :=
  if subnet ∧ n.mask + 1 < f.bits then (n.start + 1, n.start + n.size - 2)
  else (n.start, n.start + n.size - 1)

/-- The kinds whose pools grant the lowest free number, or the one that is asked for. -/
inductive SingleKind where
  | address (f : Family)
  | vlan

namespace SingleKind

def unit : SingleKind → UnitKind
  | address f => .address f
  | vlan => .vlan

/-- The first and the last number for one claim. The user can narrow down a pool of addresses as its own
properties can. -/
def bounds : SingleKind → Snapshot → Except Error (Int × Int)
  | address f, s =>
    (poolNetwork f s.properties).map (·.hosts (s.properties.flag "subnet" || s.input.flag "subnet"))
  | vlan, s => UnitKind.bounds .vlan s.properties

/-- The number that the user asks for. -/
def wanted? : SingleKind → Bag → Except Error (Option Int)
  | address f, input => (AddressPool.wanted? f input).map (Option.map fun w => w.2.value)
  | vlan, input => (VlanPool.wanted? input).map (Option.map Int64.toInt)

/-- The resource of a number. -/
def resource : SingleKind → Int → Except Error Bag
  | address f, n => (Address.ofInt f n).map fun a => Bag.empty.set "address" (.text a.text)
  | vlan, n => .ok (Bag.empty.set "vlan" (.int (.ofInt n)))

variable {kind : SingleKind} {s : Snapshot} {first last n : Int} {values : List Int}
  {result : Except Error Bag} {why : NoNumber}

theorem wanted?_eq_none_iff {input : Bag} :
    kind.wanted? input = .ok none ↔ input.get? "desiredValue" = none := by
  cases kind with
  | address f =>
    rw [wanted?, map_eq_ok_iff, ← @AddressPool.wanted?_eq_none_iff f]
    simp
  | vlan =>
    rw [wanted?, VlanPool.wanted?]
    split
    case h_1 plain => simp [plain, Except.map]
    case h_2 v given =>
      simp only [given, map_eq_ok_iff, reduceCtorEq, iff_false]
      rintro ⟨_, ⟨id, -, rfl⟩, asked⟩
      cases asked

/-! ### What comes of a choice -/

/-- The claim ends in the resource of the number, from which the number is read back. -/
def Grants (kind : SingleKind) (result : Except Error Bag) (n : Int) : Prop :=
  ∃ bag, result = .ok bag ∧ kind.resource n = .ok bag ∧ kind.unit.heldNumber bag = .ok n

/-- The claim ends as the choice does. -/
def Conveys (kind : SingleKind) (result : Except Error Bag) : Except NoNumber Int → Prop
  | .ok n => kind.Grants result n
  | .error why => Fails result why

theorem Grants.unique {m : Int} (hm : kind.Grants result m) (hn : kind.Grants result n) : m = n := by
  obtain ⟨bag, granted, -, hm⟩ := hm
  obtain ⟨bag', granted', -, hn⟩ := hn
  obtain rfl := Except.ok.inj (granted.symm.trans granted')
  exact Except.ok.inj (hm.symm.trans hn)

theorem Grants.not_fails (h : kind.Grants result n) : ¬Fails result why := by
  obtain ⟨bag, granted, -⟩ := h
  rintro ⟨e, failed, -⟩
  exact absurd failed (ne_error_of_ok granted)

namespace Conveys
variable {choice : Except NoNumber Int} (h : kind.Conveys result choice)
include h

theorem grants_iff : kind.Grants result n ↔ choice = .ok n := by
  cases choice with
  | ok m =>
    have h : kind.Grants result m := h
    constructor
    · intro grants
      rw [h.unique grants]
    · intro same
      cases same
      exact h
  | error why =>
    have h : Fails result why := h
    exact iff_of_false (fun grants => grants.not_fails h) nofun

theorem fails_iff : Fails result why ↔ choice = .error why := by
  cases choice with
  | ok m =>
    have h : kind.Grants result m := h
    exact iff_of_false h.not_fails nofun
  | error why' =>
    obtain ⟨e, failed, reason⟩ : Fails result why' := h
    constructor
    · rintro ⟨e', failed', reason'⟩
      obtain rfl := Except.error.inj (failed.symm.trans failed')
      rw [Option.some.inj (reason.symm.trans reason')]
    · intro same
      cases same
      exact ⟨e, failed, reason⟩

theorem exists_grants {bag : Bag} (granted : result = .ok bag) : ∃ n, kind.Grants result n := by
  cases choice with
  | ok m => exact ⟨m, h⟩
  | error why =>
    obtain ⟨e, failed, -⟩ : Fails result why := h
    exact absurd failed (ne_error_of_ok granted)

theorem error_iff : (∃ e, result = .error e) ↔ ∃ why, Fails result why := by
  constructor
  · rintro ⟨e, failed⟩
    cases choice with
    | ok m =>
      obtain ⟨bag, granted, -⟩ : kind.Grants result m := h
      exact absurd failed (ne_error_of_ok granted)
    | error why => exact ⟨why, h⟩
  · rintro ⟨why, e, failed, -⟩
    exact ⟨e, failed⟩

end Conveys

/-! ### Opening -/

/-- What a pool is opened with: its bounds and the numbers that are held. -/
structure Opens (kind : SingleKind) (s : Snapshot) (first last : Int) (values : List Int) : Prop where
  bounds : kind.bounds s = .ok (first, last)
  held : s.held.map kind.unit.heldNumber = values.map .ok

theorem bounds_address {f : Family} {network : Network f}
    (found : poolNetwork f s.properties = .ok network) (taken : IntSet) :
    let pool : AddressPool f := ⟨network, s.properties.flag "subnet" || s.input.flag "subnet", taken⟩
    (address f).bounds s = .ok (pool.first, pool.stop - 1) := by
  simp only [bounds, found, Except.map, Network.hosts, AddressPool.first, AddressPool.stop,
    AddressPool.reserves, Network.block, Block.stop]
  generalize (s.properties.flag "subnet" || s.input.flag "subnet") = subnet
  by_cases reserved : subnet = true ∧ network.mask + 1 < f.bits
  · simp [reserved]
    omega
  · simp [reserved]

theorem exists_opens {pool : Pool} (builds : Pool.ofSnapshot kind.unit.kind s = .ok pool) :
    ∃ first last values, kind.Opens s first last values := by
  cases kind with
  | address f =>
    obtain ⟨opened, h, -⟩ := map_eq_ok_iff.mp builds
    obtain ⟨network, found, h⟩ := bind_eq_ok_iff.mp h
    obtain ⟨values, read, -⟩ := bind_eq_ok_iff.mp h
    exact ⟨_, _, values, bounds_address found .empty, Snapshot.ofHeld_eq_ok_iff.mp read⟩
  | vlan =>
    obtain ⟨opened, h, -⟩ := map_eq_ok_iff.mp builds
    obtain ⟨from_, hfrom, h⟩ := bind_eq_ok_iff.mp h
    obtain ⟨to_, hto, h⟩ := bind_eq_ok_iff.mp h
    obtain ⟨values, read, -⟩ := bind_eq_ok_iff.mp h
    exact ⟨_, _, values, bind_eq_ok_iff.mpr ⟨from_, hfrom, map_eq_ok_iff.mpr ⟨to_, hto, rfl⟩⟩,
      Snapshot.ofHeld_eq_ok_iff.mp read⟩

theorem Opens.exists_addressPool {f : Family} (h : (address f).Opens s first last values) :
    ∃ pool : AddressPool f, AddressPool.ofSnapshot f s = .ok pool ∧ pool.first = first ∧
      pool.stop - 1 = last ∧ pool.taken = .ofList values := by
  obtain ⟨network, found, -⟩ := map_eq_ok_iff.mp h.bounds
  have same := (bounds_address found (.ofList values)).symm.trans h.bounds
  cases same
  exact ⟨_, AddressPool.ofSnapshot_of_read found h.held, rfl, rfl, rfl⟩

theorem Opens.exists_vlanPool (h : vlan.Opens s first last values) :
    ∃ pool : VlanPool, VlanPool.ofSnapshot s = .ok pool ∧ pool.first.toInt = first ∧
      pool.last.toInt = last ∧ pool.taken = .ofList values := by
  obtain ⟨from_, hfrom, bounds⟩ := bind_eq_ok_iff.mp h.bounds
  obtain ⟨to_, hto, same⟩ := map_eq_ok_iff.mp bounds
  cases same
  exact ⟨_, VlanPool.ofSnapshot_of_read hfrom hto h.held, rfl, rfl, rfl⟩

/-! ### Answers -/

theorem grants_address {f : Family} (pool : AddressPool f) (low : pool.first ≤ n)
    (high : n ≤ pool.stop - 1) : (address f).Grants (pool.grant n).result n := by
  have inside : pool.network.block.start ≤ pool.first ∧ pool.stop ≤ pool.network.block.stop := by
    rw [AddressPool.first, AddressPool.stop]
    split <;> omega
  obtain ⟨bag, granted, read⟩ := pool.exists_grant (n := n) (by omega) (by omega)
  refine ⟨bag, granted, ?_, read⟩
  rw [← granted]
  simp only [resource, AddressPool.grant, Logged.result_bind, Logged.result_lift, Logged.result_record,
    Logged.result_pure]
  cases Address.ofInt f n <;> rfl

theorem conveys_address {f : Family} {input : Bag} {wanted : Option Int} (pool : AddressPool f)
    (asked : (address f).wanted? input = .ok wanted) :
    (address f).Conveys (pool.allocate input).result
      (chooseNumber pool.first (pool.stop - 1) pool.taken wanted) := by
  obtain ⟨w, hw, rfl⟩ := map_eq_ok_iff.mp asked
  rw [AddressPool.allocate_result, hw, Except.bind]
  cases chosen : chooseNumber pool.first (pool.stop - 1) pool.taken (w.map fun w => w.2.value) with
  | ok n =>
    obtain ⟨low, high, -⟩ := chooseNumber_free chosen
    exact grants_address pool low high
  | error why => exact pool.refuse_fails _ why

theorem conveys_vlan {input : Bag} {wanted : Option Int} (pool : VlanPool)
    (asked : vlan.wanted? input = .ok wanted) :
    vlan.Conveys (pool.allocate input).result
      (chooseNumber pool.first.toInt pool.last.toInt pool.taken wanted) := by
  obtain ⟨w, hw, rfl⟩ := map_eq_ok_iff.mp asked
  rw [VlanPool.allocate_result, hw, Except.bind]
  cases chosen : chooseNumber pool.first.toInt pool.last.toInt pool.taken (w.map Int64.toInt) with
  | ok n =>
    obtain ⟨low, high, -⟩ := chooseNumber_free chosen
    obtain ⟨bag, granted, read⟩ := pool.exists_grant low high
    exact ⟨bag, granted, granted, read⟩
  | error why => exact pool.refuse_fails _ why

namespace Opens
variable (h : kind.Opens s first last values)
include h

theorem conveys {wanted : Option Int} (script : Option (List UInt64))
    (asked : kind.wanted? s.input = .ok wanted) :
    kind.Conveys (s.allocate kind.unit.kind script).result
      (chooseNumber first last (.ofList values) wanted) := by
  cases kind with
  | address f =>
    obtain ⟨pool, opened, rfl, rfl, taken⟩ := h.exists_addressPool
    show Conveys _ (s.allocate (.address f) script).result _
    rw [Snapshot.allocate_address, opened, ← taken]
    exact conveys_address pool asked
  | vlan =>
    obtain ⟨pool, opened, rfl, rfl, taken⟩ := h.exists_vlanPool
    show Conveys _ (s.allocate .vlan script).result _
    rw [Snapshot.allocate_vlan, opened, ← taken]
    exact conveys_vlan pool asked

theorem capacity_result :
    (s.capacity kind.unit.kind).result =
      .ok (.of (last - first + 1 - (IntSet.ofList values).size) (IntSet.ofList values).size) := by
  cases kind with
  | address f =>
    obtain ⟨pool, opened, rfl, rfl, taken⟩ := h.exists_addressPool
    show (s.capacity (.address f)).result = _
    rw [Snapshot.capacity_result, Pool.ofSnapshot, opened, ← taken]
    refine congrArg (fun free => Except.ok (Capacity.of free _)) ?_
    omega
  | vlan =>
    obtain ⟨pool, opened, rfl, rfl, taken⟩ := h.exists_vlanPool
    show (s.capacity .vlan).result = _
    rw [Snapshot.capacity_result, Pool.ofSnapshot, opened, ← taken]
    refine congrArg Except.ok ?_
    simp only [Pool.capacity, VlanPool.capacity, VlanPool.total, Capacity.of, Capacity.mk.injEq,
      and_true]
    omega

end Opens

/-- How a claim ends in a pool with the bounds and the held numbers, by what the user asks for. -/
structure Serves (kind : SingleKind) (input : Bag) (first last : Int) (values : List Int)
    (result : Except Error Bag) : Prop where
  least : input.get? "desiredValue" = none → ∀ n,
    (kind.Grants result n ↔ IsLeast {k | first ≤ k ∧ k ≤ last ∧ k ∉ values} n)
  full : input.get? "desiredValue" = none →
    ((∃ e, result = .error e) ↔ ∀ k, first ≤ k → k ≤ last → k ∈ values)
  exhausted : input.get? "desiredValue" = none →
    (Fails result .exhausted ↔ ∀ k, first ≤ k → k ≤ last → k ∈ values)
  asked : ∀ d, kind.wanted? input = .ok (some d) → ∀ n,
    (kind.Grants result n ↔ n = d ∧ first ≤ d ∧ d ≤ last ∧ d ∉ values)
  outside : ∀ d, kind.wanted? input = .ok (some d) → (Fails result .outside ↔ d < first ∨ last < d)
  taken : ∀ d, kind.wanted? input = .ok (some d) →
    (Fails result .taken ↔ (first ≤ d ∧ d ≤ last) ∧ d ∈ values)
  granted : ∀ wanted bag, kind.wanted? input = .ok wanted → result = .ok bag →
    ∃ n, kind.Grants result n

theorem Opens.serves (h : kind.Opens s first last values) (script : Option (List UInt64)) :
    kind.Serves s.input first last values (s.allocate kind.unit.kind script).result where
  least plain n := by
    rw [(h.conveys script (wanted?_eq_none_iff.mpr plain)).grants_iff, chooseNumber_none_eq_ok_iff]
    simp only [IntSet.not_mem_ofList]
  full plain := by
    have conveys := h.conveys script (wanted?_eq_none_iff.mpr plain)
    simp only [conveys.error_iff, conveys.fails_iff, chooseNumber_none_eq_error_iff, exists_eq_left,
      IntSet.mem_ofList]
  exhausted plain := by
    rw [(h.conveys script (wanted?_eq_none_iff.mpr plain)).fails_iff, chooseNumber_none_eq_error_iff]
    simp only [IntSet.mem_ofList, true_and]
  asked d asked n := by
    rw [(h.conveys script asked).grants_iff, chooseNumber_some_eq_ok_iff, IntSet.not_mem_ofList]
  outside d asked := by
    rw [(h.conveys script asked).fails_iff, chooseNumber_some_eq_error_iff]
    simp
  taken d asked := by
    rw [(h.conveys script asked).fails_iff, chooseNumber_some_eq_error_iff, IntSet.mem_ofList]
    simp
  granted wanted bag asked granted := (h.conveys script asked).exists_grants granted

end SingleKind

/-- Every pool of addresses or VLAN ids that can be opened serves every claim, and where it reports free
room, it grants every plain claim with the same bounds. -/
theorem Snapshot.allocate_single_serves {kind : SingleKind} {s : Snapshot} {pool : Pool}
    (script : Option (List UInt64)) (builds : Pool.ofSnapshot kind.unit.kind s = .ok pool) :
    ∃ first last values, kind.Opens s first last values ∧
      kind.Serves s.input first last values (s.allocate kind.unit.kind script).result ∧
      ∃ room, (s.capacity kind.unit.kind).result = .ok room ∧
        (0 < room.free → ∀ input, input.get? "desiredValue" = none →
          kind.bounds ⟨s.properties, s.held, input⟩ = .ok (first, last) →
            ∃ n, kind.Grants (allocate ⟨s.properties, s.held, input⟩ kind.unit.kind script).result n) := by
  obtain ⟨first, last, values, opens⟩ := SingleKind.exists_opens builds
  refine ⟨first, last, values, opens, opens.serves script, _, opens.capacity_result, ?_⟩
  intro room input plain bounds
  have opens' : kind.Opens ⟨s.properties, s.held, input⟩ first last values := ⟨bounds, opens.held⟩
  have smaller : ((IntSet.ofList values).size : Int) < last - first + 1 := by
    simp only [Capacity.of] at room
    omega
  obtain ⟨n, chosen⟩ := chooseNumber_of_free (IntSet.exists_free smaller)
  exact ⟨n, (opens'.conveys script (SingleKind.wanted?_eq_none_iff.mpr plain)).grants_iff.mpr chosen⟩

/-- Eight addresses, narrowed to six by the user, who asks for the last of the eight. One address is held
twice, the network address is held, and so is one past the end. -/
def narrowed : Snapshot where
  properties := .ofList [("address", .text "10.0.0.5"), ("prefix", .int 29)]
  held := ["10.0.0.1", "10.0.0.1", "10.0.0.0", "10.0.0.9"].map fun text =>
    .ofList [("address", .text text)]
  input := .ofList [("desiredValue", .text "10.0.0.7"), ("subnet", .bool true)]

theorem Snapshot.allocate_single_serves_narrowed :
    Fails (narrowed.allocate (.address .v4) none).result .outside ∧
      ∃ n, (SingleKind.address .v4).Grants
        (allocate ⟨narrowed.properties, narrowed.held, .ofList [("subnet", .bool true)]⟩
          (.address .v4) none).result n := by
  obtain ⟨pool, builds⟩ : ∃ pool, Pool.ofSnapshot (SingleKind.address .v4).unit.kind narrowed = .ok pool :=
    ⟨_, rfl⟩
  obtain ⟨first, last, values, ⟨bounds, held⟩, serves, room, found, grants⟩ :=
    allocate_single_serves none builds
  cases bounds
  have three : (narrowed.capacity (.address .v4)).result = .ok ⟨3, 3⟩ := by decide +kernel
  obtain rfl : room = ⟨3, 3⟩ := Except.ok.inj (found.symm.trans three)
  exact ⟨(serves.outside 167772167 rfl).mpr (.inr (by decide)), grants (by decide) _ rfl rfl⟩

end ResourcePool
