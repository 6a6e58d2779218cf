import ResourcePool.Value
import ResourcePool.Proofs.Address.V4
import ResourcePool.Proofs.Text.Parts

/-! Integers as text. An integer is written as a minus, if it is negative, and the digits of its
magnitude, without a needless zero in front; whatever its size, it is read back from that. -/

namespace ResourcePool.Numeral
open Address.V4 (isDigit_toDigits not_mem_toDigits)

/-- The digits of an integer after its minus. -/
def digits (n : Int) : List Char := Nat.toDigits 10 n.natAbs

theorem toList_repr (n : Int) : n.repr.toList = (if n < 0 then ['-'] else []) ++ digits n := by
  cases n with
  | ofNat m => simp [Int.repr, digits]
  | negSucc m => simp [Int.repr, digits, Int.negSucc_lt_zero]

theorem toList_repr_natCast (n : Nat) : (Int.repr n).toList = Nat.toDigits 10 n := by
  simp [Int.repr]

theorem signed_natAbs (n : Int) : signed (decide (n < 0)) n.natAbs = n := by
  simp only [signed, decide_eq_true_eq]
  split <;> omega

/-- A positive number has no zero in front. -/
theorem head?_toDigits_ne {n : Nat} (positive : 0 < n) : (Nat.toDigits 10 n).head? ≠ some '0' := by
  induction n using Nat.strongRecOn with
  | ind n ih =>
    rw [Nat.toDigits_eq_if (by decide)]
    split
    case isTrue small =>
      have digit : ∀ d, d < 10 → 0 < d → d.digitChar ≠ '0' := by decide
      simpa using digit n small positive
    case isFalse large =>
      obtain ⟨c, cs, hc⟩ : ∃ c cs, Nat.toDigits 10 (n / 10) = c :: cs :=
        List.exists_cons_of_ne_nil (by simp)
      have first := ih (n / 10) (by omega) (by omega)
      rw [hc] at first ⊢
      exact first

/-! ### Reading back -/

theorem not_mem_digits {c : Char} (hc : c.isDigit = false) (n : Int) : c ∉ digits n :=
  not_mem_toDigits hc n.natAbs

/-- Digits have no sign in front. -/
theorem splitSign_of_digits {cs : List Char} (digits : ∀ c ∈ cs, c.isDigit = true) :
    splitSign cs = (false, cs) := by
  refine splitSign.eq_3 _ ?_ ?_ <;> rintro rest rfl
  · exact absurd (digits '-' List.mem_cons_self) (by decide)
  · exact absurd (digits '+' List.mem_cons_self) (by decide)

theorem splitSign_toList_repr (n : Int) : splitSign n.repr.toList = (decide (n < 0), digits n) := by
  rw [toList_repr]
  by_cases negative : n < 0
  · simp [negative, splitSign]
  · rw [if_neg negative, List.nil_append, decide_eq_false negative]
    exact splitSign_of_digits fun c hc => isDigit_toDigits hc

theorem grouped?_toList_repr (n : Int) : grouped? n.repr.toList = some n := by
  have plain : '_' ∉ digits n := not_mem_digits (by decide) n
  have first : (digits n).head? ≠ some '_' := fun h => plain (List.mem_of_mem_head? h)
  have kept : (digits n).filter (· ≠ '_') = digits n :=
    List.filter_eq_self.mpr fun c hc => decide_eq_true fun same => plain (same ▸ hc)
  rw [grouped?, splitSign_toList_repr]
  simp only [if_neg first, kept]
  rw [digits, natural?_toDigits, Option.map_some, signed_natAbs]

/-! ### Writing what was read -/

theorem digit_bounds {c : Char} (h : c.isDigit = true) : 48 ≤ c.toNat ∧ c.toNat ≤ 57 :=
  Char.isDigit_iff_toNat.mp h

theorem digit_lt {c : Char} (h : c.isDigit = true) : c.toNat - '0'.toNat < 10 := by
  have bounds := digit_bounds h
  show c.toNat - 48 < 10
  omega

theorem digitChar_of_isDigit {c : Char} (h : c.isDigit = true) : (c.toNat - '0'.toNat).digitChar = c := by
  have each : ∀ n, n < 58 → 48 ≤ n → (n - '0'.toNat).digitChar = Char.ofNat n := by decide
  obtain ⟨low, high⟩ := digit_bounds h
  rw [each c.toNat (by omega) low, Char.ofNat_toNat]

/-- Digits after those of a positive number are the digits of what they are read as. -/
theorem toDigits_ofDigitChars_append {cs : List Char} (digits : ∀ c ∈ cs, c.isDigit = true) {n : Nat}
    (positive : 0 < n) : Nat.toDigits 10 (Nat.ofDigitChars 10 cs n) = Nat.toDigits 10 n ++ cs := by
  induction cs generalizing n with
  | nil => simp
  | cons c rest ih =>
    have digit := digits c List.mem_cons_self
    have value := digit_lt digit
    have joined := Nat.toDigits_append_toDigits (by decide : 1 < 10) positive value
    rw [Nat.ofDigitChars_cons, ih (fun d hd => digits d (List.mem_cons_of_mem _ hd)) (by omega), ← joined,
      Nat.toDigits_of_lt_base value, digitChar_of_isDigit digit, List.append_assoc,
      List.singleton_append]

/-- Digits without a needless zero in front are the digits of what they are read as. -/
theorem toDigits_ofDigitChars {cs : List Char} (digits : ∀ c ∈ cs, c.isDigit = true) (filled : cs ≠ [])
    (unpadded : cs.length = 1 ∨ cs.head? ≠ some '0') : Nat.toDigits 10 (Nat.ofDigitChars 10 cs 0) = cs := by
  cases cs with
  | nil => exact absurd rfl filled
  | cons c rest =>
    have digit := digits c List.mem_cons_self
    have single : Nat.toDigits 10 (c.toNat - '0'.toNat) = [c] := by
      rw [Nat.toDigits_of_lt_base (digit_lt digit), digitChar_of_isDigit digit]
    rw [Nat.ofDigitChars_cons, Nat.mul_zero, Nat.zero_add]
    cases rest with
    | nil => exact single
    | cons d rest =>
      have positive : 0 < c.toNat - '0'.toNat := by
        have differ : c ≠ '0' := by simpa using unpadded
        have low := (digit_bounds digit).1
        have : c.toNat ≠ 48 := fun same => differ (Char.toNat_inj.mp same)
        show 0 < c.toNat - 48
        omega
      rw [toDigits_ofDigitChars_append (fun e he => digits e (List.mem_cons_of_mem _ he)) positive, single,
        List.singleton_append]

/-! ### Among other text -/

theorem isBlank_of_isDigit {c : Char} (h : c.isDigit = true) : Text.isBlank c = false := by
  obtain ⟨low, high⟩ := digit_bounds h
  simp only [Text.isBlank, Bool.or_eq_false_iff, Bool.and_eq_false_iff, decide_eq_false_iff_not,
    beq_eq_false_iff_ne]
  omega

theorem isBlank_of_mem_repr {n : Int} {c : Char} (h : c ∈ n.repr.toList) : Text.isBlank c = false := by
  rw [toList_repr, List.mem_append] at h
  rcases h with sign | digit
  · split at sign
    · rw [List.mem_singleton.mp sign]
      rfl
    · cases sign
  · exact isBlank_of_isDigit (isDigit_toDigits digit)

/-- The text of an integer of any size stands for that integer. -/
theorem toInteger?_repr (n : Int) : (Value.text n.repr).toInteger? = some n := by
  have bare : Text.trim n.repr.toList = n.repr.toList :=
    Text.trim_eq_self_of_forall fun c => isBlank_of_mem_repr
  simp only [Value.toInteger?, Value.readNumber?, bare, grouped?_toList_repr]
  rfl

end ResourcePool.Numeral
