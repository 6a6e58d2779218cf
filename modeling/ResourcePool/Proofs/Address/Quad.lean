import Mathlib.Data.List.Induction
import Mathlib.Data.Nat.Digits.Defs
import ResourcePool.Address
import ResourcePool.Proofs.Address.Unpadded

/-! Dotted quads. The texts of IPv4 addresses are four groups of digits with single points between them; a
group has at most three digits, spells at most 255, and may have needless zeros in front. The address is
written again without these zeros. -/

namespace ResourcePool.Address.V4

/-- A run of one to three digits. -/
structure Group where
  digits : List Char
  filled : digits ≠ []
  short : digits.length ≤ 3
  decimal : ∀ c ∈ digits, c.isDigit = true

namespace Group

/-- The number that the digits spell, the last of them counting once, the one before it ten times. -/
def number (g : Group) : Nat := Nat.ofDigits 10 (g.digits.reverse.map fun c => c.toNat - '0'.toNat)

/-- The digits from the first one on that is not zero; of zeros alone one is left. -/
def bare (g : Group) : List Char :=
  match g.digits.dropWhile (· = '0') with
  | [] => ['0']
  | kept => kept

end Group

/-- Four groups, the most significant first. -/
structure Quad where
  first : Group
  second : Group
  third : Group
  fourth : Group

namespace Quad

def groups (q : Quad) : List Group := [q.first, q.second, q.third, q.fourth]

/-- The groups with single points between them, each written in a way. -/
def spelt (q : Quad) (write : Group → List Char) : String :=
  String.ofList (List.intercalate ['.'] (q.groups.map write))

/-- The groups as they stand. -/
def text (q : Quad) : String := q.spelt Group.digits

/-- Every group spells an octet. -/
def OfOctets (q : Quad) : Prop := ∀ g ∈ q.groups, g.number ≤ 255

def value (q : Quad) : Nat :=
  q.first.number * 2 ^ 24 + q.second.number * 2 ^ 16 + q.third.number * 2 ^ 8 + q.fourth.number

end Quad

/-! ### Groups -/

/-- Digits taken up from the left spell the sum of what each of them counts. -/
theorem ofDigitChars_eq_ofDigits (cs : List Char) :
    Nat.ofDigitChars 10 cs 0 = Nat.ofDigits 10 (cs.reverse.map fun c => c.toNat - '0'.toNat) := by
  induction cs using List.reverseRecOn with
  | nil => rfl
  | append_singleton cs c ih =>
    rw [Nat.ofDigitChars_append, Nat.ofDigitChars_cons, Nat.ofDigitChars_nil, List.reverse_concat,
      List.map_cons, Nat.ofDigits_cons, ih, Nat.add_comm]

/-- Zeros in front count nothing. -/
theorem ofDigitChars_dropWhile (cs : List Char) :
    Nat.ofDigitChars 10 (cs.dropWhile (· = '0')) 0 = Nat.ofDigitChars 10 cs 0 := by
  induction cs with
  | nil => rfl
  | cons c rest ih =>
    by_cases zero : c = '0'
    · subst zero
      exact ih
    · rw [List.dropWhile_cons_of_neg (by simpa using zero)]

namespace Group
variable (g : Group)

theorem ofDigitChars_digits : Nat.ofDigitChars 10 g.digits 0 = g.number := ofDigitChars_eq_ofDigits _

theorem isGroup_digits : isGroup g.digits = true := isGroup_iff.mpr ⟨g.filled, g.short, g.decimal⟩

theorem point_not_mem : '.' ∉ g.digits := fun h => absurd (g.decimal '.' h) (by decide)

/-- A number is written with the digits that spell it, but for needless zeros. -/
theorem toDigits_number : Nat.toDigits 10 g.number = g.bare := by
  have spells := ofDigitChars_dropWhile g.digits
  have first := List.head?_dropWhile_not (· = '0') g.digits
  have kept : ∀ c ∈ g.digits.dropWhile (· = '0'), c.isDigit = true := fun c hc =>
    g.decimal c ((List.dropWhile_sublist _).subset hc)
  rw [← ofDigitChars_digits, ← spells, bare]
  cases hrest : g.digits.dropWhile (· = '0') with
  | nil => rfl
  | cons c rest =>
    rw [hrest] at first kept
    exact Numeral.toDigits_ofDigitChars kept (by simp) (.inr (by simpa using first))

end Group

/-! ### Quads -/

/-- The numbers of the groups. -/
def Quad.numbers (q : Quad) : Nat × Nat × Nat × Nat :=
  (q.first.number, q.second.number, q.third.number, q.fourth.number)

/-- A text has the numbers of a quad exactly if it is the text of one. -/
theorem groups?_eq_some_iff {s : String} {numbers : Nat × Nat × Nat × Nat} :
    groups? s.toList = some numbers ↔ ∃ q : Quad, q.text = s ∧ q.numbers = numbers := by
  constructor
  · intro h
    obtain ⟨w, x, y, z, pieces, groups, rfl⟩ := pieces_of_groups? h
    have whole : List.intercalate ['.'] (s.toList.splitOn '.') = s.toList := List.intercalate_splitOn '.'
    have group : ∀ digits ∈ [w, x, y, z], ∃ g : Group, g.digits = digits := by
      intro digits mem
      obtain ⟨filled, short, decimal⟩ := isGroup_iff.mp (groups digits mem)
      exact ⟨⟨digits, filled, short, decimal⟩, rfl⟩
    obtain ⟨a, rfl⟩ := group w (by simp)
    obtain ⟨b, rfl⟩ := group x (by simp)
    obtain ⟨c, rfl⟩ := group y (by simp)
    obtain ⟨d, rfl⟩ := group z (by simp)
    refine ⟨⟨a, b, c, d⟩, ?_, ?_⟩
    · rw [pieces] at whole
      exact (congrArg String.ofList whole).trans String.ofList_toList
    · simp only [Quad.numbers, Group.ofDigitChars_digits]
  · rintro ⟨q, rfl, rfl⟩
    have split : q.text.toList.splitOn '.' = q.groups.map Group.digits := by
      rw [Quad.text, Quad.spelt, String.toList_ofList]
      refine List.splitOn_intercalate '.' ?_ (by simp [Quad.groups])
      intro digits mem
      obtain ⟨g, -, rfl⟩ := List.mem_map.mp mem
      exact g.point_not_mem
    rw [groups?, split]
    simp only [Quad.groups, List.map_cons, List.map_nil, Group.isGroup_digits, Bool.and_self, ↓reduceIte,
      Group.ofDigitChars_digits]
    rfl

namespace Quad
variable {q : Quad} {a : Address .v4}

theorem ofOctets_iff :
    q.OfOctets ↔ q.first.number ≤ 255 ∧ q.second.number ≤ 255 ∧ q.third.number ≤ 255 ∧
      q.fourth.number ≤ 255 := by
  simp [OfOctets, groups]

theorem ofOctets?_eq_some_iff : ofOctets? q.numbers = some a ↔ q.OfOctets ∧ q.value = a.value := by
  rw [ofOctets_iff, numbers, ofOctets?]
  split
  case isTrue octets =>
    rw [and_iff_right octets, Option.some.injEq]
    cases a
    rw [Address.mk.injEq]
    rfl
  case isFalse large => simp [large]

theorem ofOctets?_eq_none_iff : ofOctets? q.numbers = none ↔ ¬q.OfOctets := by
  rw [ofOctets_iff, numbers, ofOctets?]
  split
  case isTrue octets => simp [octets]
  case isFalse large => simp [large]

end Quad

theorem groups?_eq_none_iff {s : String} : groups? s.toList = none ↔ ¬∃ q : Quad, q.text = s := by
  simp only [Option.eq_none_iff_forall_ne_some, ne_eq, groups?_eq_some_iff]
  constructor
  · rintro none ⟨q, spelt⟩
    exact none q.numbers ⟨q, spelt, rfl⟩
  · rintro none numbers ⟨q, spelt, -⟩
    exact none ⟨q, spelt⟩

theorem exists_numbers_iff {s : String} {P : Nat × Nat × Nat × Nat → Prop} :
    (∃ numbers, groups? s.toList = some numbers ∧ P numbers) ↔ ∃ q : Quad, q.text = s ∧ P q.numbers := by
  simp only [groups?_eq_some_iff]
  constructor
  · rintro ⟨-, ⟨q, spelt, rfl⟩, holds⟩
    exact ⟨q, spelt, holds⟩
  · rintro ⟨q, spelt, holds⟩
    exact ⟨q.numbers, ⟨q, spelt, rfl⟩, holds⟩

/-- What is written are the digits of the numbers without needless zeros. -/
theorem Quad.write_eq_bare {q : Quad} {a : Address .v4} (h : read q.text = .ok a) :
    String.ofList (write a) = q.spelt Group.bare := by
  obtain ⟨numbers, spelt, made⟩ := read_eq_ok_iff.mp h
  obtain rfl : numbers = q.numbers :=
    Option.some.inj (spelt.symm.trans (groups?_eq_some_iff.mpr ⟨q, rfl, rfl⟩))
  rw [write, octets_of_ofOctets? made]
  simp only [Quad.spelt, Quad.groups, List.map_cons, List.map_nil, Group.toDigits_number]

/-- A text is read as an address exactly if it is a quad of octets, and it is refused for an octet or for its
shape according to whether it is a quad at all. An address is read back from what is written, and written
are the groups that were read, without needless zeros. -/
theorem read_decides_quads :
    (∀ (s : String) (a : Address .v4), Address.read .v4 s = .ok a ↔
      ∃ q : Quad, q.text = s ∧ q.OfOctets ∧ q.value = a.value) ∧
    (∀ s, Address.read .v4 s = .error (.ipv4Octet s) ↔ ∃ q : Quad, q.text = s ∧ ¬q.OfOctets) ∧
    (∀ s, Address.read .v4 s = .error (.ipv4Shape s) ↔ ¬∃ q : Quad, q.text = s) ∧
    (∀ a : Address .v4, Address.read .v4 a.text = .ok a) ∧
    ∀ (q : Quad) (a : Address .v4), Address.read .v4 q.text = .ok a → a.text = q.spelt Group.bare := by
  refine ⟨fun s a => ?_, fun s => ?_, fun s => ?_, fun a => read_write a, fun q a h => Quad.write_eq_bare h⟩
  · simp only [Address.read, read_eq_ok_iff, exists_numbers_iff, Quad.ofOctets?_eq_some_iff]
  · simp only [Address.read, read_eq_octet_iff, exists_numbers_iff, Quad.ofOctets?_eq_none_iff]
  · simp only [Address.read, read_eq_shape_iff, groups?_eq_none_iff]

/-- A quad with needless zeros: `010.000.2.255`. -/
def padded : Quad where
  first := ⟨['0', '1', '0'], nofun, by decide, List.all_eq_true.mp rfl⟩
  second := ⟨['0', '0', '0'], nofun, by decide, List.all_eq_true.mp rfl⟩
  third := ⟨['2'], nofun, by decide, List.all_eq_true.mp rfl⟩
  fourth := ⟨['2', '5', '5'], nofun, by decide, List.all_eq_true.mp rfl⟩

theorem read_decides_quads_padded :
    ∃ a : Address .v4, a.value = 10 * 2 ^ 24 + 2 * 2 ^ 8 + 255 ∧ Address.read .v4 "010.000.2.255" = .ok a ∧
      a.text = "10.0.2.255" := by
  obtain ⟨reads, -, -, -, written⟩ := read_decides_quads
  let a : Address .v4 := ⟨10 * 2 ^ 24 + 2 * 2 ^ 8 + 255, by decide⟩
  have octets : padded.OfOctets := Quad.ofOctets_iff.mpr (by decide)
  have read : Address.read .v4 padded.text = .ok a := (reads _ a).mpr ⟨padded, rfl, octets, rfl⟩
  exact ⟨a, rfl, read, written padded a read⟩

example : Address.read .v4 "10.0.2.256" = .error (.ipv4Octet "10.0.2.256") := rfl

/-- A line break at the end is no part of a quad. -/
example : Address.read .v4 "10.0.2.255\n" = .error (.ipv4Shape "10.0.2.255\n") := rfl

end ResourcePool.Address.V4
