import ResourcePool.Address
import ResourcePool.Proofs.Address.V4
import ResourcePool.Proofs.Numeral

/-! Spellings of IPv4 addresses. A text of groups consists of digits with points between them; the one
in which no octet has more digits than it needs is the one that its address is written with. -/

namespace ResourcePool.Address.V4
variable {cs : List Char}

theorem isGroup_iff : isGroup cs = true ↔ cs ≠ [] ∧ cs.length ≤ 3 ∧ ∀ c ∈ cs, c.isDigit = true := by
  simp [isGroup, and_assoc]

theorem pieces_of_groups? {numbers : Nat × Nat × Nat × Nat} (h : groups? cs = some numbers) :
    ∃ w x y z, cs.splitOn '.' = [w, x, y, z] ∧ (∀ octet ∈ [w, x, y, z], isGroup octet = true) ∧
      numbers = (Nat.ofDigitChars 10 w 0, Nat.ofDigitChars 10 x 0, Nat.ofDigitChars 10 y 0,
        Nat.ofDigitChars 10 z 0) := by
  rw [groups?] at h
  split at h
  case h_1 w x y z pieces =>
    split at h
    case isTrue groups =>
      cases h
      exact ⟨w, x, y, z, pieces, by simpa [and_assoc] using groups, rfl⟩
    case isFalse => cases h
  case h_2 => cases h

/-- A text of groups holds points and digits only, and some point. -/
theorem characters_of_groups? {numbers : Nat × Nat × Nat × Nat} (h : groups? cs = some numbers) :
    (∀ c ∈ cs, c = '.' ∨ c.isDigit = true) ∧ '.' ∈ cs := by
  obtain ⟨w, x, y, z, pieces, groups, -⟩ := pieces_of_groups? h
  have whole : List.intercalate ['.'] (cs.splitOn '.') = cs := List.intercalate_splitOn '.'
  have digits : ∀ octet ∈ [w, x, y, z], ∀ c ∈ octet, c.isDigit = true := fun octet mem =>
    (isGroup_iff.mp (groups octet mem)).2.2
  rw [← whole, pieces]
  simp only [List.intercalate, List.intersperse_cons_cons, List.intersperse_singleton, List.flatten_cons,
    List.flatten_nil, List.mem_append, List.mem_cons, List.not_mem_nil] at digits ⊢
  exact ⟨by grind, by grind⟩

/-- A text without needless zeros is what its numbers are written as. -/
theorem intercalate_of_groups? {a b c d : Nat} (h : groups? cs = some (a, b, c, d))
    (unpadded : V6.unpadded cs = true) :
    List.intercalate ['.'] ([a, b, c, d].map (Nat.toDigits 10)) = cs := by
  obtain ⟨w, x, y, z, pieces, groups, numbers⟩ := pieces_of_groups? h
  have whole : List.intercalate ['.'] (cs.splitOn '.') = cs := List.intercalate_splitOn '.'
  have spelt : ∀ octet ∈ [w, x, y, z], Nat.toDigits 10 (Nat.ofDigitChars 10 octet 0) = octet := by
    intro octet mem
    obtain ⟨filled, -, digits⟩ := isGroup_iff.mp (groups octet mem)
    have bare := List.all_eq_true.mp unpadded octet (pieces ▸ mem)
    exact Numeral.toDigits_ofDigitChars digits filled (by simpa using bare)
  cases numbers
  rw [pieces] at whole
  simp only [List.map_cons, List.map_nil, spelt w (by simp), spelt x (by simp), spelt y (by simp),
    spelt z (by simp), whole]

theorem octets_of_ofOctets? {a b c d : Nat} {address : Address .v4}
    (h : ofOctets? (a, b, c, d) = some address) : octets address.value = [a, b, c, d] := by
  rw [ofOctets?] at h
  split at h
  case isTrue bounds =>
    cases h
    simp only [octets, List.cons.injEq, and_true]
    omega
  case isFalse => cases h

theorem write_of_unpadded {text : String} {a : Address .v4} (h : read text = .ok a)
    (unpadded : V6.unpadded text.toList = true) : String.ofList (write a) = text := by
  obtain ⟨⟨p, q, r, s⟩, groups, made⟩ := read_eq_ok_iff.mp h
  rw [write, octets_of_ofOctets? made, intercalate_of_groups? groups unpadded, String.ofList_toList]

end ResourcePool.Address.V4
