import ResourcePool.Proofs.Address.Unpadded
import ResourcePool.Proofs.Pool.Call
import ResourcePool.Proofs.Pool.Described
import ResourcePool.Proofs.Pool.Reading
import ResourcePool.Proofs.Text.Parts

/-! Route distinguishers and their texts. A granted text is one of a valid distinguisher, and it tells
the distinguisher: its numbers are written without needless zeros, so only the spelling of an IPv4
address can make two texts of one distinguisher. -/

namespace ResourcePool

namespace RouteDistinguisher

/-- The resource that grants a text. -/
def resource (text : String) : Bag := Bag.empty.set "rd" (.text text)

theorem text_resource (text : String) : (resource text).text "rd" .resource = .ok text :=
  Bag.text_of_get? (by simp [resource])

end RouteDistinguisher

namespace RouteDistinguisherPool
variable {input : Bag}

/-- Only valid distinguishers are described. -/
theorem valid_of_describe {rd : RouteDistinguisher} (h : describe input = .ok rd) : rd.Valid :=
  (describe_eq_ok_iff.mp h).2

/-- A claim is answered with the text of the distinguisher that the input describes, unless it has been
granted. -/
theorem allocate_eq_ok_iff {pool : RouteDistinguisherPool} {bag : Bag} :
    (pool.allocate input).result = .ok bag ↔
      ∃ rd, describe input = .ok rd ∧ rd.text ∉ pool.taken ∧
        bag = RouteDistinguisher.resource rd.text := by
  have chosen : ∀ rd, pool.choose input = .ok rd ↔ describe input = .ok rd ∧ rd.text ∉ pool.taken := by
    intro rd
    simp only [choose]
    constructor
    · intro h
      obtain ⟨made, hmade, h⟩ := bind_eq_ok_iff.mp h
      split at h
      case isTrue => cases h
      case isFalse fresh =>
        cases h
        exact ⟨hmade, fresh⟩
    · rintro ⟨hrd, fresh⟩
      exact bind_eq_ok_iff.mpr ⟨rd, hrd, if_neg fresh⟩
  rw [allocate]
  split
  case h_1 rd found =>
    obtain ⟨described, fresh⟩ := (chosen rd).mp found
    simp only [Logged.result_bind, Logged.result_record, Logged.result_pure]
    constructor
    · intro h
      cases h
      exact ⟨rd, described, fresh, rfl⟩
    · rintro ⟨rd', described', -, rfl⟩
      rw [described] at described'
      cases described'
      rfl
  case h_2 e refused =>
    constructor
    · intro h
      cases e <;> cases h
    · rintro ⟨rd, described, fresh, -⟩
      rw [(chosen rd).mpr ⟨described, fresh⟩] at refused
      cases refused

theorem taken_resources (properties input : Bag) (texts : List String) :
    (ofSnapshot ⟨properties, texts.map RouteDistinguisher.resource, input⟩).taken = texts := by
  simp [ofSnapshot, List.filterMap_map, RouteDistinguisher.text_resource,
    Except.toOption]

end RouteDistinguisherPool

/-! ### What a text denotes -/

/-- A route distinguisher apart from its spelling: whether an address administers it, the value of the
address or the AS number, and the assigned number. -/
structure Distinguisher where
  addressed : Bool
  administrator : Nat
  assigned : Nat
deriving DecidableEq

namespace Distinguisher

/-- The pair of integers that a distinguisher is. -/
def pair (d : Distinguisher) : Nat × Nat := (d.administrator, d.assigned)

/-- The distinguisher that a text denotes. -/
def read? (text : String) : Option Distinguisher :=
  match text.toList.splitOn ':' with
  | [administrator, assigned] => do
    let n ← Numeral.natural? assigned
    match Numeral.natural? administrator with
    | some asNumber => some ⟨false, asNumber, n⟩
    | none => do
      let a ← (Address.read .v4 (String.ofList administrator)).toOption
      some ⟨true, a.value, n⟩
  | _ => none

/-- Some octet of the text's address has a needless zero in front. -/
def Padded (text : String) : Prop :=
  Address.V6.unpadded (text.toList.takeWhile (· ≠ ':')) = false

end Distinguisher

namespace RouteDistinguisher
variable {m n : Nat} {ipv4 : String} {a : Address .v4} {rd rd' : RouteDistinguisher} {d : Distinguisher}

theorem toList_text_numbered :
    (numbered m n).text.toList = Nat.toDigits 10 m ++ ':' :: Nat.toDigits 10 n := by
  show (toString (m : Int) ++ ":" ++ toString (n : Int)).toList = _
  simp [Numeral.toList_repr_natCast]

theorem toList_text_addressed :
    (addressed ipv4 n).text.toList = ipv4.toList ++ ':' :: Nat.toDigits 10 n := by
  show (ipv4 ++ ":" ++ toString (n : Int)).toList = _
  simp [Numeral.toList_repr_natCast]

theorem not_colon_toDigits : ':' ∉ Nat.toDigits 10 n :=
  Address.V4.not_mem_toDigits (by decide) n

theorem not_colon_address (ha : Address.read .v4 ipv4 = .ok a) : ':' ∉ ipv4.toList := by
  obtain ⟨groups, hgroups, -⟩ := Address.V4.read_eq_ok_iff.mp ha
  intro mem
  rcases (Address.V4.characters_of_groups? hgroups).1 ':' mem with h | h
  · cases h
  · cases h

theorem natural?_address (ha : Address.read .v4 ipv4 = .ok a) :
    Numeral.natural? ipv4.toList = none := by
  obtain ⟨groups, hgroups, -⟩ := Address.V4.read_eq_ok_iff.mp ha
  have point := (Address.V4.characters_of_groups? hgroups).2
  refine if_neg fun digits => ?_
  have : '.'.isDigit = true := List.all_eq_true.mp digits.2 '.' point
  cases this

theorem read?_numbered : Distinguisher.read? (numbered m n).text = some ⟨false, m, n⟩ := by
  simp only [Distinguisher.read?, toList_text_numbered,
    Text.splitOn_append_cons not_colon_toDigits not_colon_toDigits, Numeral.natural?_toDigits]
  rfl

theorem read?_addressed (ha : Address.read .v4 ipv4 = .ok a) :
    Distinguisher.read? (addressed ipv4 n).text = some ⟨true, a.value, n⟩ := by
  simp only [Distinguisher.read?, toList_text_addressed,
    Text.splitOn_append_cons (not_colon_address ha) not_colon_toDigits, Numeral.natural?_toDigits,
    natural?_address ha, String.ofList_toList, ha]
  rfl

/-- The address in a text without needless zeros is spelt as it is written. -/
theorem ipv4_eq_text (ha : Address.read .v4 ipv4 = .ok a)
    (bare : ¬Distinguisher.Padded (addressed ipv4 n).text) : a.text = ipv4 := by
  have front : (addressed ipv4 n).text.toList.takeWhile (· ≠ ':') = ipv4.toList := by
    rw [toList_text_addressed, List.takeWhile_append_of_pos, List.takeWhile_cons_of_neg (by simp),
      List.append_nil]
    intro c hc
    exact decide_eq_true fun same => not_colon_address ha (same ▸ hc)
  rw [Distinguisher.Padded, front, Bool.not_eq_false] at bare
  exact Address.V4.write_of_unpadded ha bare

theorem Valid.parts (valid : rd.Valid) :
    (∃ m n : Nat, rd = numbered m n) ∨
      ∃ (ipv4 : String) (a : Address .v4) (n : Nat), rd = addressed ipv4 n ∧
        Address.read .v4 ipv4 = .ok a := by
  cases rd with
  | numbered asNumber assigned =>
    obtain ⟨asPositive, -, positive, -⟩ := valid
    obtain ⟨m, rfl⟩ := Int.eq_ofNat_of_zero_le (Int.le_of_lt asPositive)
    obtain ⟨n, rfl⟩ := Int.eq_ofNat_of_zero_le (Int.le_of_lt positive)
    exact .inl ⟨m, n, rfl⟩
  | addressed ipv4 assigned =>
    obtain ⟨⟨a, ha⟩, positive, -⟩ := valid
    obtain ⟨n, rfl⟩ := Int.eq_ofNat_of_zero_le (Int.le_of_lt positive)
    exact .inr ⟨ipv4, a, n, rfl, ha⟩

/-- The text of a valid distinguisher denotes one. -/
theorem Valid.exists_read? (valid : rd.Valid) : ∃ d, Distinguisher.read? rd.text = some d := by
  obtain ⟨m, n, rfl⟩ | ⟨ipv4, a, n, rfl, ha⟩ := valid.parts
  · exact ⟨_, read?_numbered⟩
  · exact ⟨_, read?_addressed ha⟩

/-- Among texts without needless zeros, one only denotes each distinguisher. -/
theorem Valid.text_eq (valid : rd.Valid) (valid' : rd'.Valid) (bare : ¬Distinguisher.Padded rd.text)
    (bare' : ¬Distinguisher.Padded rd'.text)
    (same : Distinguisher.read? rd.text = Distinguisher.read? rd'.text) : rd.text = rd'.text := by
  obtain ⟨m, n, rfl⟩ | ⟨ipv4, a, n, rfl, ha⟩ := valid.parts <;>
    obtain ⟨m', n', rfl⟩ | ⟨ipv4', a', n', rfl, ha'⟩ := valid'.parts
  · rw [read?_numbered, read?_numbered] at same
    cases same
    rfl
  · rw [read?_numbered, read?_addressed ha'] at same
    cases same
  · rw [read?_addressed ha, read?_numbered] at same
    cases same
  · rw [read?_addressed ha, read?_addressed ha'] at same
    obtain ⟨same, rfl⟩ : a.value = a'.value ∧ n = n' := by simpa using same
    have spelling := ipv4_eq_text ha bare
    have spelling' := ipv4_eq_text ha' bare'
    cases a
    cases a'
    cases same
    rw [← spelling, ← spelling']

end RouteDistinguisher
end ResourcePool
