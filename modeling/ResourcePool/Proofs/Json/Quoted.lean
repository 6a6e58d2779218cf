import ResourcePool.Json.Quoted
import ResourcePool.Proofs.Address.Hexadecimal

/-! Reading a quoted text gives back the text that was quoted. Every character is written as one piece,
and a piece that gives a character by its number gives no half of a surrogate pair, since only control
characters are written so. -/

namespace ResourcePool.Json

/-- The control characters that an escape of one letter stands for. -/
def lettered : List Char := ['\n', '\r', '\t', '\x08', '\x0c']

/-- The piece that a character is written as: the other control characters are given by their number. -/
def pieceOf (c : Char) : Piece :=
  if c.toNat < 32 ∧ c ∉ lettered then .unit c.toNat else .char c

/-! ### Joining pieces -/

theorem joinPieces?_pieceOf (c : Char) (ps : List Piece) :
    joinPieces? (pieceOf c :: ps) = (joinPieces? ps).map (c :: ·) := by
  rw [pieceOf]
  split
  case isTrue control =>
    have low : isLow c.toNat = false := by
      rw [isLow, Bool.and_eq_false_iff]
      exact .inl (decide_eq_false (by omega))
    have high : isHigh c.toNat = false := by
      rw [isHigh, Bool.and_eq_false_iff]
      exact .inl (decide_eq_false (by omega))
    rw [joinPieces?.eq_def]
    simp [low, high, Char.ofNat_toNat]
  case isFalse => rfl

theorem joinPieces?_map_pieceOf (cs : List Char) : joinPieces? (cs.map pieceOf) = some cs := by
  induction cs with
  | nil => rfl
  | cons c rest ih => rw [List.map_cons, joinPieces?_pieceOf, ih, Option.map_some]

/-! ### Reading one piece -/

section Piece
variable {c : Char} {rest : List Char}

/-- A character that is no control character, no quote and no backslash stands for itself. -/
theorem pieces?_cons (quote : c ≠ '"') (backslash : c ≠ '\\') (shown : 32 ≤ c.toNat) :
    pieces? (c :: rest) = (pieces? rest).map fun p => (.char c :: p.1, p.2) := by
  rw [pieces?.eq_def]
  split
  case h_1 same => cases same
  case h_2 same => exact absurd (List.cons.inj same).1 quote
  case h_3 same => exact absurd (List.cons.inj same).1 backslash
  case h_4 same => exact absurd (List.cons.inj same).1 backslash
  case h_5 same =>
    obtain ⟨rfl, rfl⟩ := List.cons.inj same
    rw [if_neg (not_or.mpr ⟨by omega, backslash⟩)]

theorem pieces?_letter {letter : Char} (stands : escaped? letter = some c) :
    pieces? ('\\' :: letter :: rest) = (pieces? rest).map fun p => (.char c :: p.1, p.2) := by
  have other : letter ≠ 'u' := by
    rintro rfl
    cases stands
  rw [pieces?.eq_4 letter rest (by rintro _ _ _ _ _ rfl; exact absurd rfl other), stands]
  cases pieces? rest <;> rfl

theorem pieces?_number {a b d e : Char} {n : Nat} (spells : Numeral.hexadecimal? [a, b, d, e] = some n) :
    pieces? ('\\' :: 'u' :: a :: b :: d :: e :: rest) =
      (pieces? rest).map fun p => (.unit n :: p.1, p.2) := by
  rw [pieces?, spells]
  cases pieces? rest <;> rfl

theorem pieces?_below_sixteen {n : Nat} (small : n < 16) :
    pieces? (['\\', 'u', '0', '0', '0'] ++ Nat.toDigits 16 n ++ rest) =
      (pieces? rest).map fun p => (.unit n :: p.1, p.2) := by
  have zeros : Numeral.hexadecimal? ['0', '0', '0'] = some 0 := rfl
  have spells := Numeral.hexadecimal?_append_digit zeros small
  rw [Nat.toDigits_of_lt_base small]
  exact pieces?_number (by simpa using spells)

theorem pieces?_from_sixteen {n : Nat} (large : 16 ≤ n) (small : n < 32) :
    pieces? (['\\', 'u', '0', '0'] ++ Nat.toDigits 16 n ++ rest) =
      (pieces? rest).map fun p => (.unit n :: p.1, p.2) := by
  have quotient : n / 16 = 1 := by omega
  have lead : Numeral.hexadecimal? ['0', '0', '1'] = some 1 := rfl
  have spells := Numeral.hexadecimal?_append_digit lead (Nat.mod_lt n (by decide : 16 > 0))
  rw [Nat.toDigits_eq_if (by decide), if_neg (by omega), quotient,
    Nat.toDigits_of_lt_base (by decide : 1 < 16)]
  refine pieces?_number ?_
  rwa [show 16 * 1 + n % 16 = n by omega] at spells

/-- A written character is read as its piece. -/
theorem pieces?_escapeChar (c : Char) (rest : List Char) :
    pieces? (escapeChar c ++ rest) = (pieces? rest).map fun p => (pieceOf c :: p.1, p.2) := by
  by_cases letter : c ∈ '"' :: '\\' :: lettered
  · simp only [lettered, List.mem_cons, List.not_mem_nil, or_false] at letter
    rcases letter with rfl | rfl | rfl | rfl | rfl | rfl | rfl <;> exact pieces?_letter rfl
  · obtain ⟨quote, backslash, plain⟩ : c ≠ '"' ∧ c ≠ '\\' ∧ c ∉ lettered := by
      simpa [not_or] using letter
    have each : c ≠ '\n' ∧ c ≠ '\r' ∧ c ≠ '\t' ∧ c ≠ '\x08' ∧ c ≠ '\x0c' := by
      simpa [lettered, not_or] using plain
    obtain ⟨newline, return_, tab, backspace, feed⟩ := each
    simp only [escapeChar, quote, backslash, newline, return_, tab, backspace, feed, ↓reduceIte,
      pieceOf, plain, not_false_eq_true, and_true]
    split
    case isTrue small =>
      rw [if_pos (by omega)]
      exact pieces?_below_sixteen small
    case isFalse large =>
      split
      case isTrue small => exact pieces?_from_sixteen (by omega) small
      case isFalse shown => exact pieces?_cons quote backslash (by omega)

end Piece

/-- A quoted text is read as its pieces, whatever follows it. -/
theorem pieces?_quoted (cs rest : List Char) :
    pieces? (cs.flatMap escapeChar ++ '"' :: rest) = some (cs.map pieceOf, rest) := by
  induction cs with
  | nil => rfl
  | cons c tail ih =>
    rw [List.flatMap_cons, List.append_assoc, pieces?_escapeChar, ih, Option.map_some, List.map_cons]

end ResourcePool.Json
