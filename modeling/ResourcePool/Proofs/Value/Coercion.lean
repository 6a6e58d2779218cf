import Mathlib.Data.List.TakeWhile
import ResourcePool.Proofs.Double.Whole
import ResourcePool.Proofs.Numeral

/-! Integers read out of values as words and as integers of any size. A text is read first in digits and
then as a floating-point numeral, and the two readings take different digits; still they agree on every
value but the texts in digits of the 1024 integers below the least word. Those are no words, but as
floating-point numbers they are rounded to the least word, and so they are read as that. -/

namespace ResourcePool

/-! ### Digits and underscores -/

namespace Numeral
variable {cs : List Char} {n : Int}

theorem natural?_eq_some_iff {m : Nat} :
    natural? cs = some m ↔ cs ≠ [] ∧ (∀ c ∈ cs, c.isDigit = true) ∧ Nat.ofDigitChars 10 cs 0 = m := by
  simp [natural?, and_assoc]

theorem integer?_eq_some_iff :
    integer? cs = some n ↔
      ∃ m, natural? (splitSign cs).2 = some m ∧ signed (splitSign cs).1 m = n := by
  simp [integer?]

theorem grouped?_of_integer? (h : integer? cs = some n) : grouped? cs = some n := by
  obtain ⟨m, read, rfl⟩ := integer?_eq_some_iff.mp h
  obtain ⟨-, digits, -⟩ := natural?_eq_some_iff.mp read
  have plain : '_' ∉ (splitSign cs).2 := fun mem => absurd (digits '_' mem) (by decide)
  have first : (splitSign cs).2.head? ≠ some '_' := fun h => plain (List.mem_of_mem_head? h)
  have kept : (splitSign cs).2.filter (· ≠ '_') = (splitSign cs).2 :=
    List.filter_eq_self.mpr fun c hc => decide_eq_true fun same => plain (same ▸ hc)
  simp only [grouped?, if_neg first, kept, read, Option.map_some]

end Numeral

/-- An underscore after the digits in front begins neither a fraction nor a power. -/
theorem Decimal.read?_of_underscore {cs body rest : List Char} {negative : Bool}
    (split : Numeral.splitSign cs = (negative, body))
    (ends : body.dropWhile Char.isDigit = '_' :: rest) : Decimal.read? cs = none := by
  have power : Decimal.power? ('_' :: rest) = none := by
    rw [Decimal.power?, if_neg (by decide)]
  simp only [Decimal.read?, split, ends]
  split
  case h_1 found =>
    have found : Decimal.power? ('_' :: rest) = some _ := found
    rw [power] at found
    cases found
  case h_2 => rfl

namespace Double
open Numeral (splitSign natural? integer? grouped? signed)
variable {cs body : List Char} {negative : Bool} {c : Char} {m : Nat} {n : Int}

theorem spells_of_digit {word : String} (mem : c ∈ cs) (digit : c.isDigit = true)
    (letters : word.toList.any Char.isDigit = false) : spells word cs = false := by
  rw [spells, beq_eq_false_iff_ne]
  intro same
  have lower : c.toLower = c := by
    have each : ∀ n, n < 58 → 48 ≤ n → (Char.ofNat n).toLower = Char.ofNat n := by decide
    obtain ⟨low, high⟩ := Numeral.digit_bounds digit
    simpa using each c.toNat (by omega) low
  have there : c ∈ word.toList := same ▸ lower ▸ List.mem_map_of_mem mem
  exact absurd digit (List.any_eq_false.mp letters c there)

/-- A text with a digit is the name of no infinity and not that of no number. -/
theorem read?_of_digit (split : splitSign cs = (negative, body)) (mem : c ∈ body)
    (digit : c.isDigit = true) : read? cs = (Decimal.read? cs).map ofDecimal := by
  have infinity : spells "infinity" body = false := spells_of_digit mem digit (by decide)
  have inf : spells "inf" body = false := spells_of_digit mem digit (by decide)
  have nan : spells "nan" body = false := spells_of_digit mem digit (by decide)
  simp only [read?, split, inf, infinity, nan, Bool.or_self, Bool.false_eq_true, ↓reduceIte]

theorem read?_of_natural? (split : splitSign cs = (negative, body)) (h : natural? body = some m) :
    read? cs = some (ofDecimal ⟨negative, m, 0⟩) := by
  obtain ⟨filled, digits, -⟩ := Numeral.natural?_eq_some_iff.mp h
  obtain ⟨c, rest, rfl⟩ := List.exists_cons_of_ne_nil filled
  rw [read?_of_digit split List.mem_cons_self (digits c List.mem_cons_self)]
  have whole : (c :: rest).takeWhile Char.isDigit = c :: rest := List.takeWhile_eq_self_iff.mpr digits
  have nothing : (c :: rest).dropWhile Char.isDigit = [] := List.dropWhile_eq_nil_iff.mpr digits
  simp only [Decimal.read?, split, whole, nothing, List.append_nil, h, Decimal.power?]
  rfl

/-- Digits with underscores among them are no floating-point numeral. -/
theorem read?_of_grouped? (grouped : grouped? cs = some n) (plain : integer? cs = none) :
    read? cs = none := by
  cases split : splitSign cs with
  | mk negative body =>
    simp only [grouped?, integer?, split, Option.map_eq_none_iff] at grouped plain
    split at grouped
    case isTrue => cases grouped
    case isFalse =>
      obtain ⟨m, digits, -⟩ := Option.map_eq_some_iff.mp grouped
      obtain ⟨filled, digits, -⟩ := Numeral.natural?_eq_some_iff.mp digits
      obtain ⟨c, hc⟩ := List.exists_mem_of_ne_nil _ filled
      have mem : c ∈ body := (List.mem_filter.mp hc).1
      have broken : ¬∀ d ∈ body, d.isDigit = true := fun all => by
        have read := Numeral.natural?_eq_some_iff.mpr ⟨List.ne_nil_of_mem mem, all, rfl⟩
        rw [plain] at read
        cases read
      -- What ends the digits in front is no digit, hence an underscore.
      obtain ⟨rest, ends⟩ : ∃ rest, body.dropWhile Char.isDigit = '_' :: rest := by
        cases ends : body.dropWhile Char.isDigit with
        | nil => exact absurd (List.dropWhile_eq_nil_iff.mp ends) broken
        | cons d rest =>
          have stop : d.isDigit = false := by
            have := List.head?_dropWhile_not Char.isDigit body
            simpa [ends] using this
          have there : d ∈ body := (List.dropWhile_sublist Char.isDigit).subset (ends ▸ List.mem_cons_self)
          have underscore : d = '_' := by
            by_contra other
            have := digits d (List.mem_filter.mpr ⟨there, decide_eq_true other⟩)
            rw [stop] at this
            cases this
          exact ⟨rest, by rw [underscore]⟩
      rw [read?_of_digit split mem (digits c hc), Decimal.read?_of_underscore split ends]
      rfl

end Double

/-! ### Past the words -/

/-- The integers below the least word that are rounded to it: their distance is at most half that of
floating-point numbers there. -/
def RoundsToLeast (n : Int) : Prop := least64 - 1024 ≤ n ∧ n < least64

instance (n : Int) : Decidable (RoundsToLeast n) := inferInstanceAs (Decidable (_ ∧ _))

theorem int64?_eq_none_iff {n : Int} : int64? n = none ↔ n < least64 ∨ greatest64 < n := by
  rw [int64?, ite_eq_right_iff]
  simp only [reduceCtorEq, imp_false]
  omega

/-- Of the magnitudes past the words only the first is that of a word, below zero. -/
theorem int64?_signed {negative : Bool} {k : Nat} (past : 9223372036854775808 ≤ k) :
    int64? (Numeral.signed negative k) =
      if negative = true ∧ k = 9223372036854775808 then some (Int64.ofInt least64) else none := by
  split
  case isTrue h =>
    obtain ⟨rfl, rfl⟩ := h
    rfl
  case isFalse h =>
    rw [int64?_eq_none_iff]
    cases negative <;> simp only [Numeral.signed, least64, greatest64] at h ⊢
    all_goals grind

section Past
variable {negative : Bool} {m : Nat} (past : int64? (Numeral.signed negative m) = none)
include past

theorem magnitude_of_past : 9223372036854775808 ≤ m := by
  have outside := int64?_eq_none_iff.mp past
  simp only [Numeral.signed, least64, greatest64] at outside
  split at outside <;> omega

theorem roundsToLeast_signed_iff :
    RoundsToLeast (Numeral.signed negative m) ↔ negative = true ∧ m ≤ 9223372036854776832 := by
  have outside := int64?_eq_none_iff.mp past
  simp only [RoundsToLeast, Numeral.signed, least64, greatest64] at outside ⊢
  cases negative <;> simp at outside ⊢
  all_goals omega

/-- Of the integers that are no words only those right below the least word are rounded to a word. -/
theorem int64?_ofDecimal :
    (Double.ofDecimal ⟨negative, m, 0⟩).truncate?.bind int64? =
      if RoundsToLeast (Numeral.signed negative m) then some (Int64.ofInt least64) else none := by
  have magnitude := magnitude_of_past past
  have near_iff := roundsToLeast_signed_iff past
  have far_of_not (h : ¬m ≤ 9223372036854776832) : ¬RoundsToLeast (Numeral.signed negative m) :=
    fun near => h (near_iff.mp near).2
  simp only [Double.ofDecimal]
  rw [if_neg (by omega)]
  split
  case isTrue long =>
    -- An integer of more than four hundred digits is far from the words.
    refine (if_neg (far_of_not fun small => ?_)).symm
    have short := (Nat.length_toDigits_le_iff (b := 10) (k := 20) (by decide) (by decide)).mpr
      (show m < 10 ^ 20 by omega)
    omega
  case isFalse =>
    have ratio : Double.ofRatio negative (m * Nat.pow 10 (0 : Int).toNat) (Nat.pow 10 (-0 : Int).toNat) =
        Double.ofRatio negative m 1 := by simp
    rw [ratio]
    obtain ⟨least, rests_iff⟩ := Double.divEven_past magnitude
    rcases Double.truncate?_ofRatio_one (by omega : 9007199254740992 ≤ m) negative with rounded | ⟨bits, infinite⟩
    · simp only [rounded, Option.bind_some, int64?_signed least, rests_iff, near_iff]
    · rw [infinite]
      refine (if_neg (far_of_not fun small => ?_)).symm
      have size : 2 ^ 64 ≤ m := (Nat.le_log2 (by omega)).mp (by omega)
      omega

end Past

namespace Value
variable {s : String} {n : Int}

/-- A text in digits stands for the integer they spell, if it is a word. If not, the text is read as a
floating-point numeral, of which only those right below the least word are rounded to a word. -/
theorem toInt64?_text (spelled : Numeral.integer? (Text.trim s.toList) = some n) :
    (text s).toInt64? = if RoundsToLeast n then some (Int64.ofInt least64) else int64? n := by
  obtain ⟨m, read, rfl⟩ := Numeral.integer?_eq_some_iff.mp spelled
  have double : Double.read? (Text.trim s.toList) =
      some (Double.ofDecimal ⟨(Numeral.splitSign (Text.trim s.toList)).1, m, 0⟩) :=
    Double.read?_of_natural? rfl read
  simp only [toInt64?, readNumber?, spelled, double, Option.bind_some]
  cases fits : int64? (Numeral.signed (Numeral.splitSign (Text.trim s.toList)).1 m) with
  | none => exact int64?_ofDecimal fits
  | some w =>
    have inside : ¬RoundsToLeast (Numeral.signed (Numeral.splitSign (Text.trim s.toList)).1 m) := by
      rintro ⟨-, below⟩
      have := int64?_eq_none_iff.mpr (.inl below)
      rw [fits] at this
      cases this
    rw [if_neg inside]
    rfl

theorem toInteger?_text (spelled : Numeral.integer? (Text.trim s.toList) = some n) :
    (text s).toInteger? = some n := by
  simp only [toInteger?, readNumber?, Numeral.grouped?_of_integer? spelled, Option.bind_some]
  rfl

theorem toInteger?_of_not_digits {i : Int64} (words : Numeral.integer? (Text.trim s.toList) = none)
    (h : (text s).toInt64? = some i) : (text s).toInteger? = some i.toInt := by
  simp only [toInt64?, readNumber?, words, Option.bind_none, Option.orElse_eq_orElse, Option.orElse_eq_or,
    Option.none_or] at h
  obtain ⟨k, double, fits⟩ := Option.bind_eq_some_iff.mp h
  obtain ⟨x, read, -⟩ := Option.bind_eq_some_iff.mp double
  cases grouped : Numeral.grouped? (Text.trim s.toList) with
  | some n =>
    rw [Double.read?_of_grouped? grouped words] at read
    cases read
  | none =>
    simp only [toInteger?, readNumber?, grouped, double, toInt_of_int64? fits]
    rfl

theorem toInt64_eq_ok_iff {v : Value} {i : Int64} : v.toInt64 = .ok i ↔ v.toInt64? = some i := by
  rw [toInt64]
  split <;> simp_all

theorem toInteger_eq_ok_iff {v : Value} : v.toInteger = .ok n ↔ v.toInteger? = some n := by
  rw [toInteger]
  split <;> simp_all

/-- An integer that is read as a word is read the same as an integer of any size, unless it stands in
digits right below the least word. A text in digits is read as the integer they spell or refused, with that
one exception. -/
theorem toInt64_agrees (v : Value) :
    (∀ i, v.toInt64 = .ok i → v.toInteger = .ok i.toInt ∨
      i = .ofInt least64 ∧ ∃ s n, v = text s ∧ Numeral.integer? (Text.trim s.toList) = some n ∧
        v.toInteger = .ok n ∧ RoundsToLeast n) ∧
      ∀ s n, v = text s → Numeral.integer? (Text.trim s.toList) = some n →
        v.toInt64 =
          if least64 ≤ n ∧ n ≤ greatest64 then .ok (.ofInt n)
          else if RoundsToLeast n then .ok (.ofInt least64)
          else .error (.notNumber s) := by
  refine ⟨fun i h => ?_, ?_⟩
  · rw [toInt64_eq_ok_iff] at h
    simp only [toInteger_eq_ok_iff]
    cases v with
    | bool b => cases h
    | int n =>
      cases h
      exact .inl rfl
    | big n => exact .inl (congrArg some (toInt_of_int64? h).symm)
    | float x =>
      obtain ⟨k, whole, fits⟩ := Option.bind_eq_some_iff.mp h
      exact .inl (whole.trans (congrArg some (toInt_of_int64? fits).symm))
    | text s =>
      cases spelled : Numeral.integer? (Text.trim s.toList) with
      | none => exact .inl (toInteger?_of_not_digits spelled h)
      | some n =>
        rw [toInt64?_text spelled] at h
        split at h
        case isTrue near =>
          cases h
          exact .inr ⟨rfl, s, n, rfl, spelled, toInteger?_text spelled, near⟩
        case isFalse => exact .inl (by rw [toInteger?_text spelled, toInt_of_int64? h])
  · rintro s n rfl spelled
    rw [toInt64, toInt64?_text spelled]
    by_cases word : least64 ≤ n ∧ n ≤ greatest64
    · have far : ¬RoundsToLeast n := fun near => absurd word.1 (Int.not_le.mpr near.2)
      rw [if_neg far, if_pos word, int64?, if_pos word]
    · rw [if_neg word, int64?, if_neg word]
      by_cases near : RoundsToLeast n
      · rw [if_pos near, if_pos near]
      · rw [if_neg near, if_neg near]
        rfl

theorem below_least_read_as_least :
    (text "-9223372036854775809").toInt64 = .ok (.ofInt least64) ∧
      (text "-9223372036854775809").toInteger = .ok (-9223372036854775809) := by
  decide +kernel

end Value
end ResourcePool
