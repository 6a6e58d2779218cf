import ResourcePool.Pool.Network
import ResourcePool.Pool.VlanRange
import ResourcePool.Proofs.Address.V4
import ResourcePool.Proofs.Address.V6
import ResourcePool.Proofs.Network.Size
import ResourcePool.Proofs.Result

/-! What a pool writes into a resource, it reads back from it. -/

namespace ResourcePool

theorem Address.read_text {f : Family} (a : Address f) : read f a.text = .ok a := by
  cases f with
  | v4 => exact V4.read_write a
  | v6 => exact V6.read_write a

theorem toInt_ofInt {n : Int} (h : least64 ≤ n ∧ n ≤ greatest64) : (Int64.ofInt n).toInt = n :=
  toInt_of_int64? (if_pos h)

namespace Bag
variable {bag : Bag} {key : String} {scope : Scope}

theorem text_of_get? {s : String} (h : bag.get? key = some (.text s)) : bag.text key scope = .ok s := by
  simp only [text, require, h]
  rfl

theorem text_eq_ok_iff {s : String} : bag.text key scope = .ok s ↔ bag.get? key = some (.text s) := by
  refine ⟨fun h => ?_, text_of_get?⟩
  obtain ⟨v, hv, h⟩ := bind_eq_ok_iff.mp h
  rw [require] at hv
  split at hv
  case h_1 found =>
    cases hv
    cases v with
    | text s' =>
      cases h
      exact found
    | _ => cases h
  case h_2 => cases hv

theorem int64_eq_ok_iff {n : Int64} :
    bag.int64 key scope = .ok n ↔ (bag.get? key).bind Value.toInt64? = some n := by
  cases found : bag.get? key with
  | none => simp [int64, require, found, bind, Except.bind]
  | some v =>
    simp only [int64, require, found, bind, Except.bind, Value.toInt64, Option.bind]
    cases v.toInt64? <;> simp

theorem int64_of_get? {n : Int64} (h : bag.get? key = some (.int n)) : bag.int64 key scope = .ok n := by
  simp only [int64, require, h]
  rfl

end Bag

theorem heldNumber_of_get? {bag : Bag} {key : String} {n : Int64} (h : bag.get? key = some (.int n)) :
    heldNumber key bag = .ok n.toInt := by
  rw [heldNumber, Bag.int64_of_get? h]
  rfl

/-! ### Networks -/

/-- The bag tells an address and a mask, and the network with the mask that holds the address is this
one. -/
def Bag.Names {f : Family} (bag : Bag) (n : Network f) : Prop :=
  ∃ text a mask, bag.get? "address" = some (.text text) ∧ Address.read f text = .ok a ∧
    (bag.get? "prefix").bind Value.toInt64? = some mask ∧ 0 ≤ mask.toInt ∧ mask.toInt ≤ f.bits ∧
    Network.holding a mask.toInt.toNat = .ok n

theorem Bag.names_iff {f : Family} {bag : Bag} {n : Network f} (scope : Scope) :
    ((bag.text "address" scope).bind fun text => (Address.read f text).bind fun a =>
        (bag.int64 "prefix" scope).bind fun mask => (f.checkMask mask.toInt).bind fun m =>
          Network.holding a m) = .ok n ↔ bag.Names n := by
  simp only [bind_eq_ok_iff, text_eq_ok_iff, int64_eq_ok_iff, Names]
  constructor
  · rintro ⟨text, htext, a, ha, mask, hmask, m, hm, h⟩
    rw [Family.checkMask] at hm
    split at hm
    case isTrue bounds =>
      cases hm
      exact ⟨text, a, mask, htext, ha, hmask, bounds.1, bounds.2, h⟩
    case isFalse => cases hm
  · rintro ⟨text, a, mask, htext, ha, hmask, low, high, h⟩
    exact ⟨text, htext, a, ha, mask, hmask, _, if_pos ⟨low, high⟩, h⟩

theorem poolNetwork_eq_ok_iff {f : Family} {bag : Bag} {n : Network f} :
    poolNetwork f bag = .ok n ↔ bag.Names n :=
  Bag.names_iff .pool

theorem NetworkPool.heldNetwork_eq_ok_iff {f : Family} {bag : Bag} {n : Network f} :
    heldNetwork f bag = .ok n ↔ bag.Names n :=
  Bag.names_iff .resource

namespace Network
variable {f : Family}

theorem holding_first (n : Network f) : holding n.first n.mask = .ok n := by
  have whole : n.start % f.addresses n.mask = 0 := Nat.mod_eq_zero_of_dvd n.aligned
  rw [holding, dif_pos n.mask_le]
  refine congrArg Except.ok (ext ?_ rfl)
  show n.start - n.start % f.addresses n.mask = n.start
  rw [whole, Nat.sub_zero]

theorem checkMask_mask (n : Network f) : f.checkMask n.mask = .ok n.mask := by
  have := n.mask_le
  rw [Family.checkMask, if_pos (by omega)]
  rfl

theorem mask_toInt (n : Network f) : (Int64.ofNat n.mask).toInt = n.mask := by
  have : f.bits ≤ 128 := by cases f <;> decide
  have := n.mask_le
  exact Int64.toInt_ofNat_of_lt (by omega)

/-- The resource that grants a network. -/
def resource (n : Network f) (subnet : Bool) : Bag :=
  ((Bag.empty.set "address" (.text n.first.text)).set "prefix" (.int (.ofNat n.mask))).set "subnet"
    (.bool subnet)

theorem heldNetwork_resource (n : Network f) (subnet : Bool) :
    NetworkPool.heldNetwork f (n.resource subnet) = .ok n := by
  have address : (n.resource subnet).get? "address" = some (.text n.first.text) := by simp [resource]
  have mask : (n.resource subnet).get? "prefix" = some (.int (.ofNat n.mask)) := by simp [resource]
  rw [NetworkPool.heldNetwork, Bag.text_of_get? address, Bag.int64_of_get? mask]
  show ((Address.read f n.first.text).bind fun a => (f.checkMask (Int64.ofNat n.mask).toInt).bind fun m =>
    holding a m) = _
  rw [Address.read_text, mask_toInt, checkMask_mask]
  exact holding_first n

end Network

theorem AddressPool.heldAddress_eq_ok_iff {f : Family} {bag : Bag} {n : Int} :
    heldAddress f bag = .ok n ↔
      ∃ text a, bag.get? "address" = some (.text text) ∧ Address.read f text = .ok a ∧ a.value = n := by
  show ((bag.text "address" .resource).bind fun text => (Address.read f text).bind fun a =>
    .ok (a.value : Int)) = .ok n ↔ _
  simp only [bind_eq_ok_iff, Bag.text_eq_ok_iff, Except.ok.injEq, exists_and_left]

theorem AddressPool.wanted?_eq_none_iff {f : Family} {input : Bag} :
    wanted? f input = .ok none ↔ input.get? "desiredValue" = none := by
  rw [wanted?]
  split
  case h_1 plain => simp [plain]
  case h_2 v found =>
    simp only [found, reduceCtorEq, iff_false]
    intro h
    obtain ⟨text, -, h⟩ := bind_eq_ok_iff.mp h
    obtain ⟨a, -, h⟩ := bind_eq_ok_iff.mp h
    cases h

theorem AddressPool.wanted?_eq_some_iff {f : Family} {input : Bag} {text : String} {a : Address f} :
    wanted? f input = .ok (some (text, a)) ↔
      input.get? "desiredValue" = some (.text text) ∧ Address.read f text = .ok a := by
  rw [wanted?]
  split
  case h_1 plain => simp [plain]
  case h_2 v found =>
    rw [← @Bag.text_eq_ok_iff input "desiredValue" .input]
    constructor
    · intro h
      obtain ⟨text', htext, h⟩ := bind_eq_ok_iff.mp h
      obtain ⟨a', ha, h⟩ := bind_eq_ok_iff.mp h
      cases h
      exact ⟨htext, ha⟩
    · rintro ⟨htext, ha⟩
      exact bind_eq_ok_iff.mpr ⟨text, htext, bind_eq_ok_iff.mpr ⟨a, ha, rfl⟩⟩

/-! ### VLAN ranges -/

namespace VlanRangePool

/-- The resource that grants the range from the first to the last id. -/
def granted (first last : Int64) : Bag := (Bag.empty.set "from" (.int first)).set "to" (.int last)

theorem heldBlock_granted (first last : Int64) :
    heldBlock (granted first last) = .ok ⟨first.toInt, last.toInt - first.toInt + 1⟩ := by
  have hfirst : heldNumber "from" (granted first last) = .ok first.toInt :=
    heldNumber_of_get? (by simp [granted])
  have hlast : heldNumber "to" (granted first last) = .ok last.toInt :=
    heldNumber_of_get? (by simp [granted])
  rw [heldBlock, hfirst, hlast]
  rfl

theorem bound_eq_ok {n : Int} (h : least64 ≤ n ∧ n ≤ greatest64) :
    bound n = .ok (.int (Int64.ofInt n)) := by
  rw [bound, int64?, if_pos h]

end VlanRangePool
end ResourcePool
