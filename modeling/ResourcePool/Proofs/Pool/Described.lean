import ResourcePool.Pool.RouteDistinguisher
import ResourcePool.Proofs.Result

/-! Which inputs describe a route distinguisher. An input may leave a part out or give a blank value for it,
which comes to the same. It describes a distinguisher exactly if it gives an assigned number and one
administrator, and these are in range. -/

namespace ResourcePool

namespace RouteDistinguisher

/-- The parts are in range and make one of the three types. -/
def Valid : RouteDistinguisher → Prop
  | numbered asNumber assigned =>
    0 < asNumber ∧ asNumber < UInt32.size ∧ 0 < assigned ∧ assigned < UInt32.size ∧
      (asNumber < UInt16.size ∨ assigned < UInt16.size)
  | addressed ipv4 assigned =>
    (∃ a, Address.read .v4 ipv4 = .ok a) ∧ 0 < assigned ∧ assigned < UInt16.size

/-- The values that stand for nothing. -/
inductive Blank : Value → Prop
  | text : Blank (.text "")
  | int : Blank (.int 0)
  | bool : Blank (.bool false)
  | float (negative : Bool) (exponent : Int) : Blank (.float (.finite negative 0 exponent))

/-- The input gives the value under the key. -/
def Gives (input : Bag) (key : String) (v : Value) : Prop := input.get? key = some v ∧ ¬Blank v

/-- The input gives nothing under the key. -/
def Omits (input : Bag) (key : String) : Prop := ∀ v, ¬Gives input key v

/-- The input gives a value that stands for the number under the key. -/
def GivesNumber (input : Bag) (key : String) (n : Int) : Prop :=
  ∃ v w, Gives input key v ∧ v.toInt64 = .ok w ∧ w.toInt = n

/-- The input gives the parts of the distinguisher and no other administrator. -/
inductive Described (input : Bag) : RouteDistinguisher → Prop
  | numbered {asNumber assigned : Int} : GivesNumber input "assignedNumber" assigned →
      GivesNumber input "asNumber" asNumber → Omits input "ipv4" →
      Described input (.numbered asNumber assigned)
  | addressed {ipv4 : String} {assigned : Int} : GivesNumber input "assignedNumber" assigned →
      Omits input "asNumber" → Gives input "ipv4" (.text ipv4) →
      Described input (.addressed ipv4 assigned)

end RouteDistinguisher

namespace RouteDistinguisherPool
open RouteDistinguisher
variable {input : Bag} {key label : String}

/-! ### What is given -/

theorem isGiven_eq_false_iff {v : Value} : isGiven v = false ↔ Blank v := by
  constructor
  · intro h
    cases v with
    | bool b =>
      obtain rfl : b = false := h
      exact .bool
    | int n =>
      obtain rfl : n = 0 := by simpa [isGiven] using h
      exact .int
    | big n => cases h
    | float x =>
      cases x with
      | nan => cases h
      | infinite negative => cases h
      | finite negative mantissa exponent =>
        obtain rfl : mantissa = 0 := by simpa [isGiven, Double.isZero] using h
        exact .float negative exponent
    | text s =>
      obtain rfl : s = "" := by simpa [isGiven] using h
      exact .text
  · rintro (_ | _ | _ | _) <;> rfl

instance (v : Value) : Decidable (Blank v) := decidable_of_iff _ isGiven_eq_false_iff

theorem given?_eq_some_iff {v : Value} : given? input key = some v ↔ Gives input key v := by
  rw [given?, Option.filter_eq_some_iff, Gives, ← isGiven_eq_false_iff, Bool.not_eq_false]

theorem given?_eq_none_iff : given? input key = none ↔ Omits input key := by
  simp only [Option.eq_none_iff_forall_ne_some, ne_eq, given?_eq_some_iff, Omits]

/-! ### The parts -/

theorem number?_eq_none_iff : number? input key label = .ok none ↔ Omits input key := by
  rw [← given?_eq_none_iff, number?]
  split
  case h_1 omitted => simp [omitted]
  case h_2 v given =>
    simp only [given, reduceCtorEq, iff_false]
    intro h
    obtain ⟨w, -, h⟩ := bind_eq_ok_iff.mp h
    split at h <;> cases h

theorem number?_eq_some_iff {n : Int} :
    number? input key label = .ok (some n) ↔ GivesNumber input key n ∧ 0 < n ∧ n < UInt32.size := by
  constructor
  · intro h
    rw [number?] at h
    split at h
    case h_1 => cases h
    case h_2 v given =>
      obtain ⟨w, read, h⟩ := bind_eq_ok_iff.mp h
      dsimp only at h
      split at h
      case isTrue => cases h
      case isFalse range =>
        cases h
        exact ⟨⟨v, w, given?_eq_some_iff.mp given, read, rfl⟩, by omega⟩
  · rintro ⟨⟨v, w, given, read, rfl⟩, positive, short⟩
    rw [number?, given?_eq_some_iff.mpr given]
    exact bind_eq_ok_iff.mpr ⟨w, read, if_neg (by omega)⟩

theorem ipv4?_eq_none_iff : ipv4? input = .ok none ↔ Omits input "ipv4" := by
  rw [← given?_eq_none_iff, ipv4?]
  split
  case h_1 omitted => simp [omitted]
  case h_2 s given =>
    simp only [given, reduceCtorEq, iff_false]
    intro h
    split at h <;> cases h
  case h_3 given => simp [given]

theorem ipv4?_eq_some_iff {s : String} :
    ipv4? input = .ok (some s) ↔ Gives input "ipv4" (.text s) ∧ ∃ a, Address.read .v4 s = .ok a := by
  rw [← given?_eq_some_iff]
  constructor
  · intro h
    rw [ipv4?] at h
    split at h
    case h_1 => cases h
    case h_2 given =>
      split at h
      case h_1 a read =>
        cases h
        exact ⟨given, a, read⟩
      case h_2 => cases h
    case h_3 => cases h
  · rintro ⟨given, a, read⟩
    simp only [ipv4?, given, read]

/-! ### The whole -/

variable {asNumber assigned : Option Int} {ipv4 : Option String} {rd : RouteDistinguisher}

theorem combine_numbered {a n : Int} :
    combine input (some a) none (some n) = .ok rd ↔
      (a < UInt16.size ∨ n < UInt16.size) ∧ rd = .numbered a n := by
  rw [combine]
  split
  case isTrue wide =>
    obtain ⟨wideAs, wide⟩ : ¬a < UInt16.size ∧ ¬n < UInt16.size := by simpa [isShort] using wide
    exact iff_of_false nofun fun ⟨short, _⟩ => short.elim wideAs wide
  case isFalse short =>
    have short : a < UInt16.size ∨ n < UInt16.size := by
      by_contra wide
      exact short (by simpa [isShort] using wide)
    rw [Except.ok.injEq, and_iff_right short, eq_comm]

theorem combine_addressed {s : String} {n : Int} :
    combine input none (some s) (some n) = .ok rd ↔ n < UInt16.size ∧ rd = .addressed s n := by
  rw [combine]
  split
  case isTrue short => rw [Except.ok.injEq, and_iff_right (of_decide_eq_true short), eq_comm]
  case isFalse wide => exact iff_of_false nofun fun ⟨short, _⟩ => wide (decide_eq_true short)

/-- Two parts are put together: a number and an administrator, of which one is short. -/
theorem combine_eq_ok_iff :
    combine input asNumber ipv4 assigned = .ok rd ↔
      (∃ a n, asNumber = some a ∧ ipv4 = none ∧ assigned = some n ∧
        (a < UInt16.size ∨ n < UInt16.size) ∧ rd = .numbered a n) ∨
      ∃ s n, asNumber = none ∧ ipv4 = some s ∧ assigned = some n ∧ n < UInt16.size ∧
        rd = .addressed s n := by
  cases asNumber <;> cases ipv4 <;> cases assigned
  case some.none.some => simp [combine_numbered]
  case none.some.some => simp [combine_addressed]
  all_goals simp [combine]

/-- An input describes a distinguisher exactly if it gives its parts, and these are in range. -/
theorem describe_eq_ok_iff : describe input = .ok rd ↔ Described input rd ∧ rd.Valid := by
  constructor
  · intro h
    obtain ⟨assigned, hassigned, h⟩ := bind_eq_ok_iff.mp h
    obtain ⟨asNumber, hasNumber, h⟩ := bind_eq_ok_iff.mp h
    obtain ⟨ipv4, hipv4, h⟩ := bind_eq_ok_iff.mp h
    cases combined : combine input asNumber ipv4 assigned with
    | error why =>
      rw [combined] at h
      cases h
    | ok made =>
      rw [combined] at h
      cases h
      obtain ⟨a, n, rfl, rfl, rfl, short, rfl⟩ | ⟨s, n, rfl, rfl, rfl, short, rfl⟩ :=
        combine_eq_ok_iff.mp combined
      · obtain ⟨givesNumber, low, high⟩ := number?_eq_some_iff.mp hassigned
        obtain ⟨givesAs, asLow, asHigh⟩ := number?_eq_some_iff.mp hasNumber
        exact ⟨.numbered givesNumber givesAs (ipv4?_eq_none_iff.mp hipv4),
          asLow, asHigh, low, high, short⟩
      · obtain ⟨givesNumber, low, -⟩ := number?_eq_some_iff.mp hassigned
        obtain ⟨givesText, read⟩ := ipv4?_eq_some_iff.mp hipv4
        exact ⟨.addressed givesNumber (number?_eq_none_iff.mp hasNumber) givesText, read, low, short⟩
  · rintro ⟨described, valid⟩
    cases described with
    | numbered givesNumber givesAs omitted =>
      obtain ⟨asLow, asHigh, low, high, short⟩ := valid
      refine bind_eq_ok_iff.mpr ⟨_, number?_eq_some_iff.mpr ⟨givesNumber, low, high⟩, ?_⟩
      refine bind_eq_ok_iff.mpr ⟨_, number?_eq_some_iff.mpr ⟨givesAs, asLow, asHigh⟩, ?_⟩
      refine bind_eq_ok_iff.mpr ⟨_, ipv4?_eq_none_iff.mpr omitted, ?_⟩
      rw [combine_eq_ok_iff.mpr (.inl ⟨_, _, rfl, rfl, rfl, short, rfl⟩)]
    | addressed givesNumber omitted givesText =>
      obtain ⟨read, low, short⟩ := valid
      have high : UInt16.size < UInt32.size := by decide
      refine bind_eq_ok_iff.mpr ⟨_, number?_eq_some_iff.mpr ⟨givesNumber, low, by omega⟩, ?_⟩
      refine bind_eq_ok_iff.mpr ⟨_, number?_eq_none_iff.mpr omitted, ?_⟩
      refine bind_eq_ok_iff.mpr ⟨_, ipv4?_eq_some_iff.mpr ⟨givesText, read⟩, ?_⟩
      rw [combine_eq_ok_iff.mpr (.inr ⟨_, _, rfl, rfl, rfl, short, rfl⟩)]

end RouteDistinguisherPool
end ResourcePool
