import ResourcePool.Proofs.Pool.Embedding
import ResourcePool.Proofs.Unit.Single

/-! Pools of IPv4 addresses inside IPv6. Written in IPv6, a pool has the same bounds and holds the same
numbers, and only such a pool can be opened as one of IPv6. Hence every claim ends alike in both families,
in the same address or for the same reason. -/

namespace ResourcePool

/-! ### Failures before a choice -/

/-- No failure of the computation states a reason for choosing no number. -/
def Reasonless {α : Type} (x : Except Error α) : Prop := ∀ e, x = .error e → e.noNumber? = none

namespace Reasonless
variable {α β : Type}

theorem ok (a : α) : Reasonless (.ok a) := nofun

theorem error {e : Error} (none : e.noNumber? = none) : Reasonless (.error e : Except Error α) := by
  rintro e' same
  cases same
  exact none

theorem bind {x : Except Error α} {f : α → Except Error β} (hx : Reasonless x)
    (hf : ∀ a, Reasonless (f a)) : Reasonless (x.bind f) := by
  cases x with
  | ok a => exact hf a
  | error e => exact error (hx e rfl)

theorem mapM {read : α → Except Error β} (each : ∀ a, Reasonless (read a)) (items : List α) :
    Reasonless (items.mapM read) := by
  induction items with
  | nil => exact ok _
  | cons a rest ih =>
    rw [List.mapM_cons]
    exact (each a).bind fun b => ih.bind fun bs => ok _

theorem require {bag : Bag} {key : String} {scope : Scope} : Reasonless (bag.require key scope) := by
  rw [Bag.require]
  split
  · exact ok _
  · exact error rfl

theorem text {bag : Bag} {key : String} {scope : Scope} : Reasonless (bag.text key scope) := by
  refine require.bind fun v => ?_
  cases v <;> first | exact ok _ | exact error rfl

theorem int64 {bag : Bag} {key : String} {scope : Scope} : Reasonless (bag.int64 key scope) := by
  refine require.bind fun v => ?_
  rw [Value.toInt64]
  split
  · exact ok _
  · exact error rfl

theorem readAddress {f : Family} {text : String} : Reasonless (Address.read f text) := by
  cases f with
  | v4 =>
    rw [Address.read, Address.V4.read]
    split
    · exact error rfl
    · split
      · exact error rfl
      · exact ok _
  | v6 =>
    rw [Address.read, Address.V6.read]
    split
    · exact ok _
    · exact error rfl

theorem checkMask {f : Family} {mask : Int} : Reasonless (f.checkMask mask) := by
  rw [Family.checkMask]
  split
  · exact ok _
  · exact error rfl

theorem holding {f : Family} {a : Address f} {mask : Nat} : Reasonless (Network.holding a mask) := by
  rw [Network.holding]
  split
  · exact ok _
  · exact error rfl

theorem openAddressPool {f : Family} {s : Snapshot} : Reasonless (AddressPool.ofSnapshot f s) := by
  have network : Reasonless (poolNetwork f s.properties) :=
    text.bind fun _ => readAddress.bind fun _ => int64.bind fun _ => checkMask.bind fun _ => holding
  have held (bag : Bag) : Reasonless (AddressPool.heldAddress f bag) :=
    text.bind fun _ => readAddress.bind fun _ => ok _
  exact network.bind fun _ => (mapM held s.held).bind fun _ => ok _

end Reasonless

/-! ### IPv4 circumstances -/

theorem Network.hosts_embedded (n : Network .v4) (subnet : Bool) :
    n.embedded.hosts subnet = n.hosts subnet := by
  have longest : n.embedded.mask + 1 < Family.v6.bits ↔ n.mask + 1 < Family.v4.bits := by
    show n.mask + 96 + 1 < 128 ↔ n.mask + 1 < 32
    omega
  simp only [hosts, longest, size_embedded]
  rfl

/-- The address of a bag, if it has one, is one of IPv4. -/
def Bag.AddressInV4 (bag : Bag) : Prop :=
  ∀ text, bag.get? "address" = some (.text text) → ∃ a, Address.read .v4 text = .ok a

/-- Every address is one of IPv4, and the mask of the pool, if it has one, is too. -/
structure Snapshot.InV4 (s : Snapshot) : Prop where
  pool : s.properties.AddressInV4
  mask : ∀ mask, (s.properties.get? "prefix").bind Value.toInt64? = some mask →
    0 ≤ mask.toInt ∧ mask.toInt ≤ 32
  held : ∀ bag ∈ s.held, bag.AddressInV4

namespace Bag
variable {bag : Bag} {n : Int}

theorem get?_embedNetwork_eq_text_iff (v4 : bag.AddressInV4) {text : String} :
    bag.embedNetwork.get? "address" = some (.text text) ↔
      ∃ text4 a, bag.get? "address" = some (.text text4) ∧ Address.read .v4 text4 = .ok a ∧
        text = a.embedded.text := by
  rw [embedNetwork, get?_embedMask_of_ne (by decide)]
  constructor
  · intro found
    by_cases given : ∃ text4, bag.get? "address" = some (.text text4)
    · obtain ⟨text4, given⟩ := given
      obtain ⟨a, read⟩ := v4 text4 given
      rw [get?_embedAddress given read] at found
      exact ⟨text4, a, given, read, (Value.text.inj (Option.some.inj found)).symm⟩
    · rw [embedAddress_of_no_text fun text4 h => given ⟨text4, h⟩] at found
      exact absurd ⟨text, found⟩ given
  · rintro ⟨text4, a, given, read, rfl⟩
    exact get?_embedAddress given read

theorem heldAddress_embedNetwork_iff (v4 : bag.AddressInV4) :
    AddressPool.heldAddress .v6 bag.embedNetwork = .ok n ↔ AddressPool.heldAddress .v4 bag = .ok n := by
  simp only [AddressPool.heldAddress_eq_ok_iff, get?_embedNetwork_eq_text_iff v4]
  constructor
  · rintro ⟨-, a6, ⟨text, a, given, read, rfl⟩, read6, rfl⟩
    rw [Address.read_text] at read6
    cases read6
    exact ⟨text, a, given, read, rfl⟩
  · rintro ⟨text, a, given, read, rfl⟩
    exact ⟨_, a.embedded, ⟨text, a, given, read, rfl⟩, Address.read_text _, rfl⟩

theorem exists_int64_of_embedMask {mask6 : Int64}
    (h : (bag.embedMask.get? "prefix").bind Value.toInt64? = some mask6) :
    ∃ mask, (bag.get? "prefix").bind Value.toInt64? = some mask := by
  cases found : (bag.get? "prefix").bind Value.toInt64? with
  | some mask => exact ⟨mask, rfl⟩
  | none =>
    have same : bag.embedMask = bag := by
      rw [embedMask]
      split
      case h_1 read =>
        rw [int64_eq_ok_iff, found] at read
        cases read
      case h_2 => rfl
    rw [same, found] at h
    cases h

end Bag

namespace Snapshot
variable {s : Snapshot}

theorem InV4.poolNetwork_embedded_iff (v4 : s.InV4) {network6 : Network .v6} :
    poolNetwork .v6 s.embedded.properties = .ok network6 ↔
      ∃ network, poolNetwork .v4 s.properties = .ok network ∧ network.embedded = network6 := by
  constructor
  · intro found
    obtain ⟨text6, a6, mask6, htext, -, hmask, -⟩ := poolNetwork_eq_ok_iff.mp found
    obtain ⟨text, a, given, read, -⟩ := (Bag.get?_embedNetwork_eq_text_iff v4.pool).mp htext
    obtain ⟨mask, hmask⟩ := Bag.exists_int64_of_embedMask hmask
    rw [Bag.get?_embedAddress_of_ne (by decide)] at hmask
    obtain ⟨low, high⟩ := v4.mask mask hmask
    have le : mask.toInt.toNat ≤ Family.v4.bits := by
      show _ ≤ 32
      omega
    have names : s.properties.Names _ := ⟨text, a, mask, given, read, hmask, low, high, dif_pos le⟩
    have found4 := poolNetwork_eq_ok_iff.mpr names
    exact ⟨_, found4, Except.ok.inj ((poolNetwork_embedded found4).symm.trans found)⟩
  · rintro ⟨network, found, rfl⟩
    exact poolNetwork_embedded found

theorem InV4.bounds_embedded_iff (v4 : s.InV4) {b : Int × Int} :
    (SingleKind.address .v6).bounds s.embedded = .ok b ↔ (SingleKind.address .v4).bounds s = .ok b := by
  have pool : s.embedded.properties.flag "subnet" = s.properties.flag "subnet" := Bag.flag_embedNetwork _
  have user : s.embedded.input.flag "subnet" = s.input.flag "subnet" := by
    rw [Bag.flag, embedded, Bag.get?_embedAddress_of_ne (by decide)]
    rfl
  simp only [SingleKind.bounds, map_eq_ok_iff, v4.poolNetwork_embedded_iff, pool, user]
  constructor
  · rintro ⟨-, ⟨network, found, rfl⟩, h⟩
    exact ⟨network, found, network.hosts_embedded _ ▸ h⟩
  · rintro ⟨network, found, h⟩
    exact ⟨_, ⟨network, found, rfl⟩, network.hosts_embedded _ ▸ h⟩

theorem InV4.opens_embedded_iff (v4 : s.InV4) {first last : Int} {values : List Int} :
    SingleKind.Opens (.address .v6) s.embedded first last values ↔
      SingleKind.Opens (.address .v4) s first last values := by
  have held : (s.embedded.held.map (AddressPool.heldAddress .v6) = values.map .ok) ↔
      s.held.map (AddressPool.heldAddress .v4) = values.map .ok := by
    rw [embedded, List.map_map]
    exact map_read_congr fun bag hbag n => Bag.heldAddress_embedNetwork_iff (v4.held bag hbag)
  constructor
  · intro h
    exact ⟨v4.bounds_embedded_iff.mp h.bounds, held.mp h.held⟩
  · intro h
    exact ⟨v4.bounds_embedded_iff.mpr h.bounds, held.mpr h.held⟩

end Snapshot

/-! ### Answers -/

namespace SingleKind
variable {f : Family} {s : Snapshot} {script : Option (List UInt64)}

theorem wanted?_embedded {input : Bag} {wanted : Option (String × Address .v4)}
    (asked : AddressPool.wanted? .v4 input = .ok wanted) :
    (address .v4).wanted? input = .ok (wanted.map fun w => w.2.value) ∧
      (address .v6).wanted? (input.embedAddress "desiredValue") = .ok (wanted.map fun w => w.2.value) := by
  constructor
  · rw [SingleKind.wanted?, asked]
    rfl
  · rw [SingleKind.wanted?, AddressPool.wanted?_embedded asked]
    exact congrArg Except.ok (Option.map_map ..)

/-- A pool that cannot be opened grants nothing, refuses nothing for a reason and tells no room. -/
theorem unanswered_of_not_opens
    (closed : ¬∃ first last values, (address f).Opens s first last values) :
    (∃ e, (s.allocate (.address f) script).result = .error e) ∧
      (∀ n, ¬(address f).Grants (s.allocate (.address f) script).result n) ∧
      (∀ why, ¬Fails (s.allocate (.address f) script).result why) ∧
      (s.capacity (.address f)).result.toOption = none := by
  obtain ⟨e, failed⟩ : ∃ e, AddressPool.ofSnapshot f s = .error e := by
    cases opened : AddressPool.ofSnapshot f s with
    | error e => exact ⟨e, rfl⟩
    | ok pool =>
      have builds : Pool.ofSnapshot (address f).unit.kind s = .ok (.address f pool) :=
        map_eq_ok_iff.mpr ⟨pool, opened, rfl⟩
      exact absurd (exists_opens builds) closed
  have ended : (s.allocate (.address f) script).result = .error e := by
    rw [Snapshot.allocate_address, failed]
    rfl
  refine ⟨⟨e, ended⟩, ?_, ?_, ?_⟩
  · rintro n ⟨bag, granted, -⟩
    exact absurd ended (ne_error_of_ok granted)
  · rintro why ⟨e', failed', reason⟩
    obtain rfl := Except.error.inj (ended.symm.trans failed')
    rw [Reasonless.openAddressPool e failed] at reason
    cases reason
  · rw [Snapshot.capacity_result, Pool.ofSnapshot, failed]
    rfl

end SingleKind

namespace AddressPool

/-- IPv4 circumstances are answered the same written in IPv6: a claim is granted the same address or is
refused for the same reason, and the same room is told. -/
theorem answers_embedded {s : Snapshot} {wanted : Option (String × Address .v4)} (v4 : s.InV4)
    (asked : wanted? .v4 s.input = .ok wanted) (script : Option (List UInt64)) :
    (∀ n, (SingleKind.address .v4).Grants (s.allocate (.address .v4) script).result n ↔
      (SingleKind.address .v6).Grants (s.embedded.allocate (.address .v6) script).result n) ∧
    (∀ why, Fails (s.allocate (.address .v4) script).result why ↔
      Fails (s.embedded.allocate (.address .v6) script).result why) ∧
    ((∃ e, (s.allocate (.address .v4) script).result = .error e) ↔
      ∃ e, (s.embedded.allocate (.address .v6) script).result = .error e) ∧
    (s.capacity (.address .v4)).result.toOption =
      (s.embedded.capacity (.address .v6)).result.toOption := by
  by_cases opens : ∃ first last values, SingleKind.Opens (.address .v4) s first last values
  · obtain ⟨first, last, values, opens4⟩ := opens
    have opens6 := v4.opens_embedded_iff.mpr opens4
    obtain ⟨asked4, asked6⟩ := SingleKind.wanted?_embedded asked
    have conveys4 := opens4.conveys script asked4
    have conveys6 := opens6.conveys script asked6
    have fails : ∀ why, Fails (s.allocate (.address .v4) script).result why ↔
        Fails (s.embedded.allocate (.address .v6) script).result why :=
      fun why => conveys4.fails_iff.trans conveys6.fails_iff.symm
    refine ⟨fun n => conveys4.grants_iff.trans conveys6.grants_iff.symm, fails, ?_, ?_⟩
    · exact conveys4.error_iff.trans ((exists_congr fails).trans conveys6.error_iff.symm)
    · exact congrArg Except.toOption (opens4.capacity_result.trans opens6.capacity_result.symm)
  · have opens6 : ¬∃ first last values, SingleKind.Opens (.address .v6) s.embedded first last values := by
      rintro ⟨first, last, values, h⟩
      exact opens ⟨first, last, values, v4.opens_embedded_iff.mp h⟩
    obtain ⟨ended4, ungranted4, unrefused4, room4⟩ := SingleKind.unanswered_of_not_opens opens
    obtain ⟨ended6, ungranted6, unrefused6, room6⟩ := SingleKind.unanswered_of_not_opens opens6
    exact ⟨fun n => iff_of_false (ungranted4 n) (ungranted6 n),
      fun why => iff_of_false (unrefused4 why) (unrefused6 why), iff_of_true ended4 ended6,
      room4.trans room6.symm⟩

/-- The last two addresses, too few for a subnet to keep any back. The first of them is held. -/
def lastPair : Snapshot where
  properties := .ofList [("address", .text "255.255.255.254"), ("prefix", .int 31), ("subnet", .bool true)]
  held := [.ofList [("address", .text "255.255.255.254")]]
  input := .empty

theorem answers_embedded_last_pair :
    (SingleKind.address .v6).Grants (lastPair.embedded.allocate (.address .v6) none).result 4294967295 ∧
      (lastPair.embedded.capacity (.address .v6)).result.toOption = some ⟨1, 1⟩ := by
  have first : ∀ text, some (Value.text "255.255.255.254") = some (.text text) →
      ∃ a, Address.read .v4 text = .ok a := by
    rintro text same
    cases same
    exact ⟨_, rfl⟩
  have v4 : lastPair.InV4 := by
    refine ⟨first, ?_, List.forall_mem_singleton.mpr first⟩
    rintro mask same
    obtain rfl : (31 : Int64) = mask := Option.some.inj same
    decide
  have grants : (SingleKind.address .v4).Grants (lastPair.allocate (.address .v4) none).result 4294967295 :=
    ⟨Bag.empty.set "address" (.text "255.255.255.255"), rfl, rfl, rfl⟩
  have room : (lastPair.capacity (.address .v4)).result.toOption = some ⟨1, 1⟩ := by decide +kernel
  obtain ⟨granted, -, -, same⟩ := answers_embedded v4 rfl none
  exact ⟨(granted 4294967295).mp grants, same.symm.trans room⟩

end AddressPool
end ResourcePool
