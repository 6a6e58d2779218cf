import Mathlib.Order.Bounds.Defs
import ResourcePool.Network
import ResourcePool.Proofs.Block.Room

/-! Sizes of networks. A request is met with the least power of two that holds it, and a mask for it
exists as long as that power is not larger than the whole space. -/

namespace ResourcePool

theorem ceilLog2_le_iff {n : Int} {k : Nat} : ceilLog2 n ≤ k ↔ n ≤ (Nat.pow 2 k : Nat) := by
  have positive : 0 < Nat.pow 2 k := Nat.two_pow_pos k
  unfold ceilLog2
  split
  case isTrue => omega
  case isFalse large =>
    rw [Nat.succ_le_iff, Nat.log2_lt (by omega)]
    show (n - 1).toNat < Nat.pow 2 k ↔ _
    omega

theorem le_two_pow_ceilLog2 (n : Int) : n ≤ (Nat.pow 2 (ceilLog2 n) : Nat) :=
  ceilLog2_le_iff.mp (Nat.le_refl _)

/-- Rounding up gives the least power of two that is not below the number. -/
theorem isLeast_two_pow_ceilLog2 (n : Int) :
    IsLeast {b : Nat | (∃ k, b = Nat.pow 2 k) ∧ n ≤ b} (Nat.pow 2 (ceilLog2 n)) := by
  refine ⟨⟨⟨_, rfl⟩, le_two_pow_ceilLog2 n⟩, ?_⟩
  rintro b ⟨⟨k, rfl⟩, le⟩
  exact Nat.pow_le_pow_right (by decide) (ceilLog2_le_iff.mpr le)

theorem ceilLog2_mono {n m : Int} (h : n ≤ m) : ceilLog2 n ≤ ceilLog2 m :=
  ceilLog2_le_iff.mpr (Int.le_trans h (le_two_pow_ceilLog2 m))

theorem two_pow_le_iff {i j : Nat} : Nat.pow 2 i ≤ Nat.pow 2 j ↔ i ≤ j :=
  Nat.pow_le_pow_iff_right (by decide)

theorem two_pow_dvd_of_le {i j : Nat} (h : Nat.pow 2 i ≤ Nat.pow 2 j) : Nat.pow 2 i ∣ Nat.pow 2 j :=
  Nat.pow_dvd_pow 2 (two_pow_le_iff.mp h)

namespace Family
variable {f : Family}

theorem maskFor_eq_some_iff {size : Int} {mask : Nat} :
    f.maskFor size = some mask ↔ ceilLog2 size ≤ f.bits ∧ mask = f.bits - ceilLog2 size := by
  unfold maskFor
  split
  case isTrue le => simp [le, eq_comm]
  case isFalse large =>
    constructor
    · intro h
      cases h
    · intro h
      omega

theorem mask_le_of_maskFor {size : Int} {mask : Nat} (h : f.maskFor size = some mask) :
    mask ≤ f.bits := by
  obtain ⟨-, rfl⟩ := maskFor_eq_some_iff.mp h
  exact Nat.sub_le ..

theorem maskFor_eq_none_iff {size : Int} : f.maskFor size = none ↔ (f.space : Int) < size := by
  rw [maskFor, space, ← Int.not_le, ← ceilLog2_le_iff]
  simp

theorem addresses_of_maskFor {size : Int} {mask : Nat} (h : f.maskFor size = some mask) :
    f.addresses mask = Nat.pow 2 (ceilLog2 size) := by
  obtain ⟨le, rfl⟩ := maskFor_eq_some_iff.mp h
  rw [addresses, Nat.sub_sub_self le]

/-- A mask is told by the number of addresses behind it. -/
theorem bits_sub_log2_addresses {mask : Nat} (le : mask ≤ f.bits) :
    f.bits - (f.addresses mask).log2 = mask := by
  show f.bits - (2 ^ (f.bits - mask)).log2 = mask
  rw [Nat.log2_two_pow]
  omega

/-- A network that has room for two hosts beside its own two addresses is none of the two smallest. -/
theorem mask_lt_of_maskFor {size : Int} {mask : Nat} (h : f.maskFor size = some mask)
    (large : 2 < size) : mask + 1 < f.bits := by
  obtain ⟨le, rfl⟩ := maskFor_eq_some_iff.mp h
  have least : 2 ≤ ceilLog2 size := by
    by_cases small : ceilLog2 size ≤ 1
    · have : size ≤ (Nat.pow 2 1 : Nat) := ceilLog2_le_iff.mp small
      rw [show Nat.pow 2 1 = 2 from rfl] at this
      omega
    · omega
  omega

end Family

namespace Network
variable {f : Family}

theorem mask_eq (n : Network f) : n.mask = f.bits - n.size.log2 :=
  (Family.bits_sub_log2_addresses n.mask_le).symm

theorem block_filled (n : Network f) : 0 < n.block.size := Int.ofNat_lt.mpr n.size_pos

theorem block_stop_le (n : Network f) : n.block.stop ≤ f.space := Int.ofNat_le.mpr n.stop_le

/-- An aligned block of a power of two inside the space is a network. -/
theorem exists_block_eq {mask : Nat} {start : Int} (le : mask ≤ f.bits) (natural : 0 ≤ start)
    (aligned : (f.addresses mask : Int) ∣ start) (inside : start + f.addresses mask ≤ f.space) :
    ∃ n : Network f, n.mask = mask ∧ n.block = ⟨start, f.addresses mask⟩ := by
  obtain ⟨place, rfl⟩ := Int.eq_ofNat_of_zero_le natural
  have filled : 0 < f.addresses mask := Nat.two_pow_pos _
  exact ⟨⟨place, mask, le, Int.natCast_dvd_natCast.mp aligned, by omega⟩, rfl, rfl⟩

end Network

end ResourcePool
