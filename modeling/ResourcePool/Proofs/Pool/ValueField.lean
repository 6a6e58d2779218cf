import Mathlib.Algebra.Group.Nat.Defs
import ResourcePool.Proofs.Pool.RouteDistinguisher

/-! Which claims of a route distinguisher succeed, and what their texts stand for. The value of a route
distinguisher is a field of six bytes, shared by the administrator and the assigned number as the type
says. Every granted text tells the contents of such a field. -/

namespace ResourcePool

/-- The types of value field, 0 to 2: an AS number of two bytes, an IPv4 address, an AS number of four. -/
inductive FieldType where
  | shortNumber
  | address
  | longNumber
deriving DecidableEq

namespace FieldType

def addressed : FieldType → Bool
  | address => true
  | _ => false

/-- The bytes of the assigned number. -/
def assignedBytes : FieldType → Nat
  | shortNumber => 4
  | address | longNumber => 2

/-- The distinguisher in a field: the assigned number fills the low bytes, the administrator all
others. -/
def decode (t : FieldType) (field : Nat) : Distinguisher :=
  ⟨t.addressed, field / 256 ^ t.assignedBytes, field % 256 ^ t.assignedBytes⟩

/-- The field of six bytes decodes to the distinguisher. -/
structure Holds (t : FieldType) (field : Nat) (d : Distinguisher) : Prop where
  fits : field < 256 ^ 6
  decodes : t.decode field = d

variable {t : FieldType} {administrator assigned : Nat}

theorem exists_holds (short : assigned < 256 ^ t.assignedBytes)
    (fits : administrator < 256 ^ (6 - t.assignedBytes)) :
    ∃ field, t.Holds field ⟨t.addressed, administrator, assigned⟩ := by
  refine ⟨assigned + 256 ^ t.assignedBytes * administrator, ?_, ?_⟩
  · cases t <;> simp only [assignedBytes] at short fits ⊢ <;> omega
  · rw [decode, Nat.add_mul_div_left _ _ (Nat.pow_pos (by decide)), Nat.add_mul_mod_self_left,
      Nat.div_eq_of_lt short, Nat.mod_eq_of_lt short, Nat.zero_add]

end FieldType

namespace RouteDistinguisher
variable {rd : RouteDistinguisher}

/-- A value field holds what the text of a valid distinguisher denotes. -/
theorem Valid.exists_holds (valid : rd.Valid) :
    ∃ d t field, Distinguisher.read? rd.text = some d ∧ FieldType.Holds t field d := by
  obtain ⟨m, n, rfl⟩ | ⟨ipv4, a, n, rfl, ha⟩ := valid.parts
  · obtain ⟨-, wideAs, -, wide, short | short⟩ := valid
    · obtain ⟨field, holds⟩ := FieldType.exists_holds (t := .shortNumber) (Int.ofNat_lt.mp wide)
        (Int.ofNat_lt.mp short)
      exact ⟨_, _, field, read?_numbered, holds⟩
    · obtain ⟨field, holds⟩ := FieldType.exists_holds (t := .longNumber) (Int.ofNat_lt.mp short)
        (Int.ofNat_lt.mp wideAs)
      exact ⟨_, _, field, read?_numbered, holds⟩
  · obtain ⟨-, -, short⟩ := valid
    obtain ⟨field, holds⟩ := FieldType.exists_holds (t := .address) (Int.ofNat_lt.mp short) a.lt
    exact ⟨_, _, field, read?_addressed ha, holds⟩

end RouteDistinguisher

namespace Snapshot
open RouteDistinguisher
variable {s : Snapshot}

theorem mem_taken_iff {text : String} :
    text ∈ (RouteDistinguisherPool.ofSnapshot s).taken ↔
      ∃ held ∈ s.held, held.get? "rd" = some (.text text) := by
  simp only [RouteDistinguisherPool.ofSnapshot, List.mem_filterMap, toOption_eq_some_iff,
    Bag.text_eq_ok_iff]

/-- An input that asks for the greatest distinguisher of the first type: its numbers lose their
fractions, and a negative zero stands for no address. -/
def greatestShort : Bag :=
  .ofList [("asNumber", .float (.ofRatio false 131071 2)), ("assignedNumber", .text " 4294967295.9 "),
    ("ipv4", .float (.zero true))]

end Snapshot
end ResourcePool
