import ResourcePool.Proofs.Numeral
import ResourcePool.Proofs.Text.Replace
import ResourcePool.Proofs.Unit.UniqueId

/-! The text of an id tells its counter. The counter goes into the template first, and the tokens that
are replaced after it leave it alone: each ends in a brace, and none holds a digit, which is what the
counter ends in. -/

namespace ResourcePool
namespace Numeral
open Address.V4 (isDigit_toDigits)

theorem isDigit_of_mem_zeros_toDigits {zeros n : Nat} {c : Char}
    (h : c ∈ List.replicate zeros '0' ++ Nat.toDigits 10 n) : c.isDigit = true := by
  rcases List.mem_append.mp h with zero | digit
  · rw [List.eq_of_mem_replicate zero]
    rfl
  · exact isDigit_toDigits digit

theorem natural?_zeros_toDigits (zeros n : Nat) :
    natural? (List.replicate zeros '0' ++ Nat.toDigits 10 n) = some n := by
  have digits : (List.replicate zeros '0' ++ Nat.toDigits 10 n).all Char.isDigit = true :=
    List.all_eq_true.mpr fun _ hc => isDigit_of_mem_zeros_toDigits hc
  have filled : List.replicate zeros '0' ++ Nat.toDigits 10 n ≠ [] := by simp
  rw [natural?, if_pos ⟨filled, digits⟩, Nat.ofDigitChars_append, Nat.ofDigitChars_replicate_zero,
    Nat.mul_zero, Nat.ofDigitChars_ten_toDigits]

end Numeral

namespace UniqueIdPool
open Numeral (isDigit_of_mem_zeros_toDigits)

/-! ### Counters -/

theorem exists_padded_eq (width : Nat) (n : Int) :
    ∃ zeros, padded width n =
      (if n < 0 then ['-'] else []) ++ (List.replicate zeros '0' ++ Nat.toDigits 10 n.natAbs) :=
  ⟨_, List.append_assoc ..⟩

theorem eq_minus_or_isDigit_of_mem_padded {width : Nat} {n : Int} {c : Char} (h : c ∈ padded width n) :
    c = '-' ∨ c.isDigit = true := by
  obtain ⟨zeros, shape⟩ := exists_padded_eq width n
  rw [shape, List.mem_append] at h
  rcases h with sign | digit
  · split at sign
    · exact .inl (List.mem_singleton.mp sign)
    · cases sign
  · exact .inr (isDigit_of_mem_zeros_toDigits digit)

theorem exists_getLast?_padded (width : Nat) (n : Int) :
    ∃ c, (padded width n).getLast? = some c ∧ c.isDigit = true := by
  obtain ⟨zeros, shape⟩ := exists_padded_eq width n
  have filled : List.replicate zeros '0' ++ Nat.toDigits 10 n.natAbs ≠ [] := by simp
  rw [shape, List.getLast?_append_of_ne_nil _ filled]
  exact ⟨_, List.getLast?_eq_some_getLast filled, isDigit_of_mem_zeros_toDigits (List.getLast_mem filled)⟩

/-- A counter is read back from its text, whatever its width. -/
theorem integer?_padded (width : Nat) (n : Int) : Numeral.integer? (padded width n) = some n := by
  obtain ⟨zeros, shape⟩ := exists_padded_eq width n
  have split : Numeral.splitSign (padded width n) =
      (decide (n < 0), List.replicate zeros '0' ++ Nat.toDigits 10 n.natAbs) := by
    rw [shape]
    by_cases negative : n < 0
    · rw [if_pos negative, decide_eq_true negative]
      rfl
    · rw [if_neg negative, decide_eq_false negative, List.nil_append]
      exact Numeral.splitSign_of_digits fun c hc => isDigit_of_mem_zeros_toDigits hc
  rw [Numeral.integer?, split]
  dsimp only
  rw [Numeral.natural?_zeros_toDigits, Option.map_some, Numeral.signed_natAbs]

theorem padded_injective (width : Nat) : Function.Injective (padded width) := by
  intro m n same
  have read := integer?_padded width m
  rw [same, integer?_padded] at read
  exact (Option.some.inj read).symm

/-! ### Tokens -/

theorem token_passesBy {key : String} (plain : key.toList.any Char.isDigit = false) (width : Nat)
    (n : Int) : Text.PassesBy (token key) (padded width n) where
  stop := by
    refine ⟨'\x7d', List.getLast?_concat .., fun mem => ?_⟩
    rcases eq_minus_or_isDigit_of_mem_padded mem with minus | digit
    · exact absurd minus (by decide)
    · exact absurd digit (by decide)
  last := by
    obtain ⟨c, last, digit⟩ := exists_getLast?_padded width n
    refine ⟨c, last, fun mem => ?_⟩
    simp only [token, List.mem_append, List.mem_singleton] at mem
    rcases mem with (rfl | letter) | rfl
    · exact absurd digit (by decide)
    · exact absurd digit (List.any_eq_false.mp plain c letter)
    · exact absurd digit (by decide)

/-! ### Whole texts -/

/-- The counter stands between two texts that are the same for every counter. -/
theorem exists_render_eq {pool : UniqueIdPool}
    (template : Text.occurs counterToken pool.template.toList = true)
    (plain : ∀ s ∈ pool.substitutions, s.1.toList.any Char.isDigit = false) :
    ∃ before after, ∀ n, pool.render n = before ++ (padded (pool.width.getD 0) n ++ after) := by
  obtain ⟨before, after, placed⟩ := Text.exists_replaceFirst_eq template
  obtain ⟨before', after', kept⟩ := Text.exists_foldl_replaceFirst_eq
    (fun s : String × String => token s.1) (fun s => s.2.toList) pool.substitutions before after
  refine ⟨before', after', fun n => ?_⟩
  rw [render, placed, counterText]
  exact kept _ fun s mem => token_passesBy (plain s mem) _ n

theorem Reads.exists_entry {pool : UniqueIdPool} {s : Snapshot} {values : List Int}
    (reads : pool.Reads s values) {t : String × String} (mem : t ∈ pool.substitutions) :
    ∃ e ∈ s.properties.entries, e.1 = t.1 ∧ e.1 ∉ reserved := by
  rw [reads.substitutions] at mem
  obtain ⟨e, kept, rfl⟩ := List.mem_map.mp mem
  obtain ⟨entry, free⟩ := List.mem_filter.mp kept
  exact ⟨e, entry, rfl, by simpa using free⟩

/-- Two properties of which the first completes a token of the second in front of the counter. -/
def tangled : Snapshot :=
  ⟨.ofList [("idFormat", .text "\x7ba\x7d\x7d-\x7bcounter\x7d\x7bb\x7d"), ("counterFormatWidth", .int 4),
    ("a", .text "\x7bb"), ("b", .text "\x7d7")], [], .empty⟩

end UniqueIdPool
end ResourcePool
