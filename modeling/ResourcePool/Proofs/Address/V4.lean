import ResourcePool.Address

/-! Reading what was written gives the IPv4 address back: its four octets stand in decimal digits of
their own between the points, and no octet needs more than three. -/

namespace ResourcePool.Address.V4

theorem isDigit_toDigits {n : Nat} {c : Char} (h : c ∈ Nat.toDigits 10 n) : c.isDigit = true :=
  Nat.isDigit_of_mem_toDigits (by decide) (by decide) h

theorem not_mem_toDigits {c : Char} (hc : c.isDigit = false) (n : Nat) : c ∉ Nat.toDigits 10 n := by
  intro h
  rw [isDigit_toDigits h] at hc
  cases hc

theorem isGroup_toDigits {n : Nat} (h : n < 1000) : isGroup (Nat.toDigits 10 n) = true := by
  have short : (Nat.toDigits 10 n).length ≤ 3 :=
    (Nat.length_toDigits_le_iff (by decide) (by decide)).mpr h
  have digits : (Nat.toDigits 10 n).all Char.isDigit = true :=
    List.all_eq_true.mpr fun _ hc => isDigit_toDigits hc
  simp [isGroup, short, digits]

/-- Four numbers of at most three digits with points between them are read back. -/
theorem groups?_intercalate {a b c d : Nat} (ha : a < 1000) (hb : b < 1000) (hc : c < 1000)
    (hd : d < 1000) :
    groups? (List.intercalate ['.'] ([a, b, c, d].map (Nat.toDigits 10))) = some (a, b, c, d) := by
  have digits : ∀ l ∈ [a, b, c, d].map (Nat.toDigits 10), '.' ∉ l := by
    intro l hl
    obtain ⟨n, -, rfl⟩ := List.mem_map.mp hl
    exact not_mem_toDigits (by decide) n
  rw [groups?, List.splitOn_intercalate '.' digits (by simp)]
  simp only [List.map_cons, List.map_nil, isGroup_toDigits ha, isGroup_toDigits hb,
    isGroup_toDigits hc, isGroup_toDigits hd, Bool.and_self, ↓reduceIte,
    Nat.ofDigitChars_ten_toDigits]

theorem groups?_write (a : Address .v4) :
    groups? (write a) = some (a.value / 16777216 % 256, a.value / 65536 % 256, a.value / 256 % 256,
      a.value % 256) :=
  groups?_intercalate (by omega) (by omega) (by omega) (by omega)

theorem ofOctets?_octets (a : Address .v4) :
    ofOctets? (a.value / 16777216 % 256, a.value / 65536 % 256, a.value / 256 % 256,
      a.value % 256) = some a := by
  have bound : a.value < 4294967296 := a.lt
  rw [ofOctets?, dif_pos (by omega)]
  congr 2
  omega

theorem read_eq_ok_iff {text : String} {a : Address .v4} :
    read text = .ok a ↔ ∃ numbers, groups? text.toList = some numbers ∧ ofOctets? numbers = some a := by
  rw [read]
  cases groups? text.toList with
  | none => simp
  | some numbers => cases made : ofOctets? numbers <;> simp [made]

theorem read_eq_octet_iff {text : String} :
    read text = .error (.ipv4Octet text) ↔
      ∃ numbers, groups? text.toList = some numbers ∧ ofOctets? numbers = none := by
  rw [read]
  cases groups? text.toList with
  | none => simp
  | some numbers => cases made : ofOctets? numbers <;> simp [made]

theorem read_eq_shape_iff {text : String} :
    read text = .error (.ipv4Shape text) ↔ groups? text.toList = none := by
  rw [read]
  cases groups? text.toList with
  | none => simp
  | some numbers => cases made : ofOctets? numbers <;> simp [made]

theorem read_write (a : Address .v4) : read (String.ofList (write a)) = .ok a := by
  rw [read_eq_ok_iff, String.toList_ofList]
  exact ⟨_, groups?_write a, ofOctets?_octets a⟩

end ResourcePool.Address.V4
