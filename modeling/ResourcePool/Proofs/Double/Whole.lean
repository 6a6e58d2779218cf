import Mathlib.Algebra.Group.Nat.Defs
import ResourcePool.Double.Basic

/-! Whole numbers as floating-point numbers. One of more than 53 bits is rounded to a multiple of the power
of two that leaves 53 bits. From two to the power of 63 on, rounding therefore never goes below that power,
and it ends there for the numbers up to half the distance to the next multiple. -/

namespace ResourcePool.Double

/-! ### Rounded quotients -/

section Quotient
variable {num den k : Nat}

theorem div_le_divEven (num den : Nat) : num / den ≤ divEven num den := by
  simp only [divEven]
  split <;> omega

theorem divEven_le (num den : Nat) : divEven num den ≤ num / den + 1 := by
  simp only [divEven]
  split <;> omega

/-- Up to half the way to the next one, a tie included, an even number is not exceeded. -/
theorem divEven_le_of_even (positive : 0 < den) (even : k % 2 = 0)
    (half : 2 * num ≤ 2 * (k * den) + den) : divEven num den ≤ k := by
  have split_num := Nat.div_add_mod' num den
  rcases Nat.lt_trichotomy (num / den) k with below | same | above
  · exact Nat.le_trans (divEven_le num den) below
  · rw [same] at split_num
    have down : ¬(2 * (num % den) > den ∨ 2 * (num % den) = den ∧ k % 2 = 1) := by omega
    simp only [divEven, same, if_neg down, Nat.le_refl]
  · have next : (k + 1) * den ≤ num / den * den := Nat.mul_le_mul_right den above
    rw [Nat.add_mul, Nat.one_mul] at next
    omega

/-- From more than half the way on, the next number is reached. -/
theorem lt_divEven (positive : 0 < den) (half : 2 * (k * den) + den < 2 * num) :
    k < divEven num den := by
  have split_num := Nat.div_add_mod' num den
  rcases Nat.lt_trichotomy (num / den) k with below | same | above
  · have next : (num / den + 1) * den ≤ k * den := Nat.mul_le_mul_right den below
    have rest := Nat.mod_lt num positive
    rw [Nat.add_mul, Nat.one_mul] at next
    omega
  · rw [same] at split_num
    have up : 2 * (num % den) > den ∨ 2 * (num % den) = den ∧ k % 2 = 1 := by omega
    simp only [divEven, same, if_pos up, Nat.lt_succ_self]
  · exact Nat.lt_of_lt_of_le above (div_le_divEven num den)

end Quotient

/-! ### Whole numbers of more than 53 bits -/

section Whole
variable {n : Nat}

theorem exponentFor_one (large : 9007199254740992 ≤ n) : exponentFor n 1 = (n.log2 - 52 : Nat) := by
  have bits : 53 ≤ n.log2 := (Nat.le_log2 (by omega)).mpr large
  have guess : (n.log2 : Int) - (1 : Nat).log2 - 53 = (n.log2 - 53 : Nat) := by
    have one : (1 : Nat).log2 = 0 := by decide
    omega
  have full : 9007199254740992 ≤ n / 2 ^ (n.log2 - 53) := by
    have whole : 2 ^ 53 * 2 ^ (n.log2 - 53) = 2 ^ n.log2 := by
      rw [← Nat.pow_add, Nat.add_sub_cancel' bits]
    exact (Nat.le_div_iff_mul_le (Nat.two_pow_pos _)).mpr (whole ▸ Nat.log2_self_le (by omega))
  have digits : (-((n.log2 - 53 : Nat) : Int)).toNat = 0 := by omega
  simp only [exponentFor, scale, guess, digits, Int.toNat_natCast, Nat.pow_eq, Nat.pow_zero, Nat.mul_one,
    Nat.one_mul, leastNormal, leastExponent]
  rw [if_neg (by omega)]
  omega

theorem truncate?_finite (negative : Bool) (m q : Nat) :
    (finite negative m q).truncate? = some (Numeral.signed negative (m * 2 ^ q)) := by
  have digits : (-(q : Int)).toNat = 0 := by omega
  simp only [truncate?, digits, Int.toNat_natCast, Nat.pow_eq, Nat.pow_zero, Nat.div_one]

/-- A large whole number is rounded to a multiple of the power of two that leaves 53 bits. Only one of more
than a thousand bits can be out of range. -/
theorem truncate?_ofRatio_one (large : 9007199254740992 ≤ n) (negative : Bool) :
    (ofRatio negative n 1).truncate? =
        some (Numeral.signed negative (divEven n (2 ^ (n.log2 - 52)) * 2 ^ (n.log2 - 52))) ∨
      1023 ≤ n.log2 ∧ (ofRatio negative n 1).truncate? = none := by
  have bits : 53 ≤ n.log2 := (Nat.le_log2 (by omega)).mpr large
  have digits : (-((n.log2 - 52 : Nat) : Int)).toNat = 0 := by omega
  simp only [ofRatio, exponentFor_one large, scale, digits, Int.toNat_natCast, Nat.pow_eq, Nat.pow_zero,
    Nat.mul_one, Nat.one_mul, leastNormal, greatestExponent, if_neg (show n ≠ 0 by omega)]
  by_cases carry : divEven n (2 ^ (n.log2 - 52)) = 2 * 4503599627370496
  · -- The mantissa has become too long: half of it, times twice the power, is the same number.
    have same : 4503599627370496 * 2 ^ (n.log2 - 52 + 1) =
        divEven n (2 ^ (n.log2 - 52)) * 2 ^ (n.log2 - 52) := by
      rw [carry, Nat.pow_succ, Nat.mul_comm (2 ^ _) 2, ← Nat.mul_assoc, Nat.mul_comm 2]
    rw [if_pos carry]
    dsimp only
    split
    case isTrue out => exact .inr ⟨by omega, rfl⟩
    case isFalse => exact .inl (by rw [← same]; exact truncate?_finite negative _ _)
  · rw [if_neg carry]
    dsimp only
    split
    case isTrue out => exact .inr ⟨by omega, rfl⟩
    case isFalse => exact .inl (truncate?_finite negative _ _)

/-! ### Past the 64-bit integers -/

/-- A number past the 64-bit integers stays past them, and comes to rest on two to the power of 63 only from
within half the distance to the next multiple. -/
theorem divEven_past (past : 9223372036854775808 ≤ n) :
    9223372036854775808 ≤ divEven n (2 ^ (n.log2 - 52)) * 2 ^ (n.log2 - 52) ∧
      (divEven n (2 ^ (n.log2 - 52)) * 2 ^ (n.log2 - 52) = 9223372036854775808 ↔
        n ≤ 9223372036854776832) := by
  have bits : 63 ≤ n.log2 := (Nat.le_log2 (by omega)).mpr past
  have full : 2 ^ 52 ≤ divEven n (2 ^ (n.log2 - 52)) := by
    have whole : 2 ^ 52 * 2 ^ (n.log2 - 52) = 2 ^ n.log2 := by
      rw [← Nat.pow_add, Nat.add_sub_cancel' (by omega)]
    refine Nat.le_trans ?_ (div_le_divEven ..)
    exact (Nat.le_div_iff_mul_le (Nat.two_pow_pos _)).mpr (whole ▸ Nat.log2_self_le (by omega))
  rcases Nat.eq_or_lt_of_le bits with same | more
  · -- Between the two powers of two the multiples are those of 2048.
    have step : 2 ^ (n.log2 - 52) = 2048 := by
      rw [← same]
      rfl
    rw [step] at full ⊢
    refine ⟨by omega, fun rest => Nat.le_of_not_lt fun far => ?_, fun near => ?_⟩
    · have above : 4503599627370496 < divEven n 2048 := lt_divEven (by decide) (by omega)
      omega
    · have below : divEven n 2048 ≤ 4503599627370496 :=
        divEven_le_of_even (by decide) (by decide) (by omega)
      omega
  · have step : 2 ^ 12 ≤ 2 ^ (n.log2 - 52) := Nat.pow_le_pow_right (by decide) (by omega)
    have far : 2 ^ 64 ≤ n := (Nat.le_log2 (by omega)).mp more
    have product := Nat.mul_le_mul full step
    omega

end Whole
end ResourcePool.Double
