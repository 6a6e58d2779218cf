import Mathlib.Data.Nat.Size
import ResourcePool.Proofs.Network.Size

/-! The longest mask with room for a number of addresses. There is one up to the size of the whole space,
and a size fits behind just the masks that are not longer: sizes and masks are adjoint. The exponent of the
power of two comes from the zeros in front of a 64-bit word for IPv4, and from the number of bits of an
integer of any size for IPv6. -/

namespace ResourcePool

/-! ### The exponent in both representations -/

/-- The least exponent of a power of two that is not below a word. -/
def ceilLog2OfWord (n : BitVec 64) : Nat :=
  if n ≤ 1#64 then 0 else 64 - (n - 1#64).clz.toNat

/-- The least exponent of a power of two that is not below an integer. -/
def ceilLog2OfInteger (n : Int) : Nat :=
  if n ≤ 1 then 0 else (n - 1).toNat.size

/-- A word has as many bits as it has no zeros in front. -/
theorem size_toNat {w : Nat} (x : BitVec w) : x.toNat.size = w - x.clz.toNat := by
  by_cases zero : x = 0#w
  · subst zero
    have whole : (0#w).clz = w := BitVec.clz_eq_iff_eq_zero.mpr rfl
    simp [whole]
  · have wide : 0 < w := by
      rcases Nat.eq_zero_or_pos w with rfl | wide
      · exact absurd (Subsingleton.elim x 0#0) zero
      · exact wide
    have least := Nat.lt_size.mpr (BitVec.two_pow_sub_clz_le_toNat_of_ne_zero wide zero)
    have most := Nat.size_le.mpr (BitVec.toNat_lt_two_pow_sub_clz (x := x))
    omega

theorem ceilLog2OfInteger_le_iff {n : Int} {k : Nat} :
    ceilLog2OfInteger n ≤ k ↔ n ≤ (Nat.pow 2 k : Nat) := by
  have filled : 0 < Nat.pow 2 k := Nat.two_pow_pos k
  rw [ceilLog2OfInteger]
  split
  case isTrue small => omega
  case isFalse large =>
    rw [Nat.size_le]
    show (n - 1).toNat < Nat.pow 2 k ↔ _
    omega

theorem ceilLog2OfInteger_eq (n : Int) : ceilLog2OfInteger n = ceilLog2 n := by
  have same : ∀ k, ceilLog2OfInteger n ≤ k ↔ ceilLog2 n ≤ k := fun k =>
    ceilLog2OfInteger_le_iff.trans ceilLog2_le_iff.symm
  exact Nat.le_antisymm ((same _).mpr (Nat.le_refl _)) ((same _).mp (Nat.le_refl _))

theorem ceilLog2OfWord_eq (n : BitVec 64) : ceilLog2OfWord n = ceilLog2 n.toNat := by
  rw [← ceilLog2OfInteger_eq, ceilLog2OfWord, ceilLog2OfInteger]
  by_cases small : n ≤ 1#64
  · have : n.toNat ≤ 1 := small
    rw [if_pos small, if_pos (by omega)]
  · have large : ¬n.toNat ≤ 1 := small
    have below : (n - 1#64).toNat = ((n.toNat : Int) - 1).toNat := by
      rw [BitVec.toNat_sub_of_le (BitVec.le_of_lt (BitVec.not_le.mp small))]
      show n.toNat - 1 = _
      omega
    rw [if_neg small, if_neg (by omega), ← below, size_toNat]

/-! ### The mask in both representations -/

/-- A difference that is not below zero. -/
def checkedSub (a b : Nat) : Option Nat := if b ≤ a then some (a - b) else none

/-- The longest mask of IPv4 with room for a size. -/
def maskForWord (size : BitVec 64) : Option Nat := checkedSub 32 (ceilLog2OfWord size)

/-- The longest mask of IPv6 with room for a size. The number of bits has to fit 32 bits itself. -/
def maskForInteger (size : Int) : Option Nat :=
  if ceilLog2OfInteger size < Nat.pow 2 32 then checkedSub 128 (ceilLog2OfInteger size) else none

/-- The addresses behind a mask of IPv4; a mask that is too long counts as the longest. -/
def addressesInWord (mask : Nat) : BitVec 64 := 1#64 <<< (32 - min mask 32)

/-- The addresses behind a mask of IPv6. -/
def addressesInInteger (mask : Nat) : Int := (1 : Int) <<< (128 - min mask 128)

theorem maskForWord_eq (size : BitVec 64) : maskForWord size = Family.v4.maskFor size.toNat := by
  rw [maskForWord, ceilLog2OfWord_eq]
  rfl

theorem maskForInteger_eq (size : Int) : maskForInteger size = Family.v6.maskFor size := by
  rw [maskForInteger, ceilLog2OfInteger_eq]
  split
  case isTrue => rfl
  case isFalse large =>
    have past : ¬ceilLog2 size ≤ Family.v6.bits := fun le => large (Nat.lt_of_le_of_lt le (by decide))
    rw [Family.maskFor, if_neg past]

theorem toNat_addressesInWord (mask : Nat) : (addressesInWord mask).toNat = Family.v4.addresses mask := by
  have short : 32 - min mask 32 = 32 - mask := by omega
  have small : 2 ^ (32 - mask) < 2 ^ 64 := Nat.pow_lt_pow_right (by decide) (by omega)
  rw [addressesInWord, short, BitVec.toNat_shiftLeft, BitVec.toNat_ofNat, Nat.shiftLeft_eq, Nat.one_mod,
    Nat.one_mul, Nat.mod_eq_of_lt small]
  rfl

theorem addressesInInteger_eq (mask : Nat) : addressesInInteger mask = Family.v6.addresses mask := by
  have short : 128 - min mask 128 = 128 - mask := by omega
  rw [addressesInInteger, short, Int.shiftLeft_eq, Int.one_mul]
  rfl

/-! ### Sizes against masks -/

namespace Family
variable {f : Family} {size : Int} {mask : Nat}

theorem le_addresses_iff (le : mask ≤ f.bits) :
    size ≤ f.addresses mask ↔ ceilLog2 size + mask ≤ f.bits := by
  rw [addresses, ← ceilLog2_le_iff]
  omega

theorem exists_maskFor_iff : (∃ p, f.maskFor size = some p) ↔ size ≤ f.space := by
  rw [← Int.not_lt, ← maskFor_eq_none_iff, ← ne_eq, Option.ne_none_iff_exists']

/-- A size fits behind the masks that are not longer than the longest one with room for it. -/
theorem le_addresses_iff_le_mask {longest : Nat} (h : f.maskFor size = some longest) (le : mask ≤ f.bits) :
    size ≤ f.addresses mask ↔ mask ≤ longest := by
  obtain ⟨fits, rfl⟩ := maskFor_eq_some_iff.mp h
  rw [le_addresses_iff le]
  omega

theorem maskFor_isGreatest {longest : Nat} (h : f.maskFor size = some longest) :
    IsGreatest {m | m ≤ f.bits ∧ size ≤ f.addresses m} longest := by
  have le := mask_le_of_maskFor h
  refine ⟨⟨le, (le_addresses_iff_le_mask h le).mpr (Nat.le_refl _)⟩, ?_⟩
  rintro m ⟨short, fits⟩
  exact (le_addresses_iff_le_mask h short).mp fits

/-- IPv6 has 96 bits more in front of its mask. -/
theorem maskFor_v6_of_v4 (h : v4.maskFor size = some mask) : v6.maskFor size = some (mask + 96) := by
  obtain ⟨fits, rfl⟩ := maskFor_eq_some_iff.mp h
  simp only [bits] at fits ⊢
  refine maskFor_eq_some_iff.mpr ⟨?_, ?_⟩ <;> simp only [bits] <;> omega

/-- There is no mask just for the sizes past the whole space. For the others it is the greatest mask with so
many addresses behind it, a size fits behind just the masks up to that one, and IPv6 has a mask that is 96
bits longer than the one of IPv4. Words and integers of any size come to the same masks and numbers of
addresses. -/
theorem maskFor_adjoint_to_addresses :
    (∀ (f : Family) (size : Int), f.maskFor size = none ↔ (f.space : Int) < size) ∧
    (∀ (f : Family) (size : Int), size ≤ f.space → ∃ longest, f.maskFor size = some longest ∧
      IsGreatest {m | m ≤ f.bits ∧ size ≤ f.addresses m} longest ∧
      ∀ m, m ≤ f.bits → (size ≤ f.addresses m ↔ m ≤ longest)) ∧
    (∀ size : Int, size ≤ v4.space → ∃ longest, v4.maskFor size = some longest ∧
      v6.maskFor size = some (longest + 96)) ∧
    (∀ size : BitVec 64, maskForWord size = v4.maskFor size.toNat) ∧
    (∀ size : Int, maskForInteger size = v6.maskFor size) ∧
    (∀ m, (addressesInWord m).toNat = v4.addresses m) ∧
    ∀ m, addressesInInteger m = v6.addresses m := by
  refine ⟨fun f size => maskFor_eq_none_iff, fun f size small => ?_, fun size small => ?_,
    maskForWord_eq, maskForInteger_eq, toNat_addressesInWord, addressesInInteger_eq⟩
  · obtain ⟨longest, h⟩ := exists_maskFor_iff.mpr small
    exact ⟨longest, h, maskFor_isGreatest h, fun m le => le_addresses_iff_le_mask h le⟩
  · obtain ⟨longest, h⟩ := exists_maskFor_iff.mpr small
    exact ⟨longest, h, maskFor_v6_of_v4 h⟩

/-- One address more than a power of two costs a whole bit, and a negative size nothing. -/
theorem maskFor_adjoint_to_addresses_past_a_power :
    (∃ longest, v4.maskFor 2147483649 = some longest ∧ longest = 0 ∧
      v6.maskFor 2147483649 = some (longest + 96)) ∧
    (∃ longest, v6.maskFor (Nat.pow 2 127 : Nat) = some longest ∧ longest = 1) ∧
    ∃ longest, v6.maskFor (-5) = some longest ∧ longest = 128 := by
  obtain ⟨-, fits, shifts, -⟩ := maskFor_adjoint_to_addresses
  refine ⟨?_, ?_, ?_⟩
  · obtain ⟨longest, h, longer⟩ := shifts 2147483649 (by decide)
    obtain ⟨longest', h', -, adjoint⟩ := fits .v4 2147483649 (by decide)
    obtain rfl : longest' = longest := Option.some.inj (h'.symm.trans h)
    have short := (adjoint 1 (by decide)).not.mp (by decide)
    exact ⟨longest', h, by omega, longer⟩
  · obtain ⟨longest, h, -, adjoint⟩ := fits .v6 (Nat.pow 2 127 : Nat) (by decide)
    have long := (adjoint 1 (by decide)).mp (by decide)
    have short := (adjoint 2 (by decide)).not.mp (by decide)
    exact ⟨longest, h, by omega⟩
  · obtain ⟨longest, h, ⟨⟨le, -⟩, -⟩, adjoint⟩ := fits .v6 (-5) (by decide)
    have long := (adjoint 128 (by decide)).mp (by decide)
    have most : longest ≤ 128 := le
    exact ⟨longest, h, by omega⟩

end Family
end ResourcePool
