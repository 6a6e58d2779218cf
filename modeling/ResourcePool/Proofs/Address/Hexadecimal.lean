import ResourcePool.Text.Basic

/-! Reading hexadecimal digits that were written gives the number back. Writing puts the digit of the
remainder after the digits of the quotient, and reading takes them up in the same order. -/

namespace ResourcePool.Numeral

theorem hexDigit?_digitChar : ∀ {d : Nat}, d < 16 → hexDigit? d.digitChar = some d
  | 0, _ | 1, _ | 2, _ | 3, _ | 4, _ | 5, _ | 6, _ | 7, _ | 8, _ | 9, _ | 10, _ | 11, _ | 12, _
  | 13, _ | 14, _ | 15, _ => by decide
  | _ + 16, h => absurd h (by omega)

theorem hexadecimal?_nil : hexadecimal? [] = some 0 := rfl

theorem hexadecimal?_append_digit {cs : List Char} {n d : Nat} (hcs : hexadecimal? cs = some n)
    (hd : d < 16) : hexadecimal? (cs ++ [d.digitChar]) = some (16 * n + d) := by
  obtain ⟨ds, hds, rfl⟩ := Option.map_eq_some_iff.mp hcs
  simp [hexadecimal?, List.mapM_append, hds, hexDigit?_digitChar hd]

theorem hexadecimal?_toDigits (n : Nat) : hexadecimal? (Nat.toDigits 16 n) = some n := by
  induction n using Nat.strongRecOn with
  | ind n ih =>
    rw [Nat.toDigits_eq_if (by decide)]
    split
    case isTrue small =>
      simpa using hexadecimal?_append_digit hexadecimal?_nil small
    case isFalse large =>
      have := hexadecimal?_append_digit (ih (n / 16) (by omega)) (Nat.mod_lt n (by decide : 16 > 0))
      rwa [Nat.div_add_mod] at this

/-- A character that is no hexadecimal digit is never written. -/
theorem not_mem_toDigits_hex {c : Char} (hc : hexDigit? c = none) (n : Nat) :
    c ∉ Nat.toDigits 16 n := by
  induction n using Nat.strongRecOn with
  | ind n ih =>
    have last : ∀ d, d < 16 → c ≠ d.digitChar := by
      rintro d hd rfl
      rw [hexDigit?_digitChar hd] at hc
      cases hc
    rw [Nat.toDigits_eq_if (by decide)]
    split
    case isTrue small => simpa using last n small
    case isFalse large =>
      rw [List.mem_append, List.mem_singleton, not_or]
      exact ⟨ih (n / 16) (by omega), last _ (Nat.mod_lt n (by decide))⟩

end ResourcePool.Numeral
