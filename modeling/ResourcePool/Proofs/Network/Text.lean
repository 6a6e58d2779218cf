import Mathlib.Data.List.Basic
import ResourcePool.Proofs.Numeral
import ResourcePool.Proofs.Pool.Reading
import ResourcePool.Proofs.Text.Parts

/-! Networks as text. An address consists of hexadecimal digits, points and colons, so the slash, the dash
and the white space around it are never taken for a part of it. Making a network of an address and a mask,
reading it and writing it therefore come to the same block. -/

namespace ResourcePool

/-! ### The characters of an address -/

namespace Numeral
variable {c : Char}

theorem isDigit_of_hexDigit? (h : hexDigit? c = none) : c.isDigit = false := by
  by_contra digit
  rw [hexDigit?, if_pos (by simpa using digit)] at h
  cases h

theorem hexDigit?_of_isBlank (h : Text.isBlank c = true) : hexDigit? c = none := by
  have value : ∀ x : Char, x.val.toNat = x.toNat := fun _ => rfl
  have digits : '0'.toNat = 48 ∧ '9'.toNat = 57 := ⟨rfl, rfl⟩
  have small : 'a'.toNat = 97 ∧ 'f'.toNat = 102 := ⟨rfl, rfl⟩
  have large : 'A'.toNat = 65 ∧ 'F'.toNat = 70 := ⟨rfl, rfl⟩
  simp only [Text.isBlank, Bool.or_eq_true, Bool.and_eq_true, decide_eq_true_eq, beq_iff_eq] at h
  rw [hexDigit?, if_neg, if_neg, if_neg] <;>
    simp only [Char.isDigit_iff_toNat, Char.le_def, UInt32.le_iff_toNat_le, value, digits, small, large] <;>
    omega

end Numeral

namespace Address
variable {c : Char}

theorem V4.not_mem_write (digit : Numeral.hexDigit? c = none) (point : c ≠ '.') (a : Address .v4) :
    c ∉ write a := by
  intro h
  rcases Text.mem_intercalate h with h | ⟨octet, mem, h⟩
  · exact point (List.mem_singleton.mp h)
  · obtain ⟨n, -, rfl⟩ := List.mem_map.mp mem
    exact not_mem_toDigits (Numeral.isDigit_of_hexDigit? digit) n h

theorem V6.not_mem_joined (digit : Numeral.hexDigit? c = none) (colon : c ≠ ':') (groups : List Nat) :
    c ∉ joined groups := by
  intro h
  rcases Text.mem_intercalate h with h | ⟨group, mem, h⟩
  · exact colon (List.mem_singleton.mp h)
  · obtain ⟨n, -, rfl⟩ := List.mem_map.mp mem
    exact Numeral.not_mem_toDigits_hex digit n h

theorem V6.not_mem_write (digit : Numeral.hexDigit? c = none) (colon : c ≠ ':') (a : Address .v6) :
    c ∉ write a := by
  have groups := not_mem_joined digit colon
  unfold write
  dsimp only
  split
  · exact groups _
  · simp [groups, colon]

/-- What is no hexadecimal digit, point or colon does not stand in an address. -/
theorem not_mem_text {f : Family} (digit : Numeral.hexDigit? c = none) (point : c ≠ '.') (colon : c ≠ ':')
    (a : Address f) : c ∉ a.text.toList := by
  cases f with
  | v4 =>
    rw [text, String.toList_ofList]
    exact V4.not_mem_write digit point a
  | v6 =>
    rw [text, String.toList_ofList]
    exact V6.not_mem_write digit colon a

theorem isBlank_of_mem_text {f : Family} {a : Address f} (h : c ∈ a.text.toList) : Text.isBlank c = false := by
  by_contra blank
  rw [Bool.not_eq_false] at blank
  refine not_mem_text (Numeral.hexDigit?_of_isBlank blank) ?_ ?_ a h
  · rintro rfl
    cases blank
  · rintro rfl
    cases blank

end Address

/-! ### Address and mask -/

namespace Network
variable {f : Family} {a : Address f} {n : Network f} {mask : Nat}

/-- Networks may be spelt in more ways than addresses, hence also in the way addresses are written. -/
theorem readAddress?_text (a : Address f) : readAddress? f a.text.toList = some a := by
  cases f with
  | v4 =>
    rw [Address.text, String.toList_ofList, readAddress?, Address.V4.groups?_write]
    exact Address.V4.ofOctets?_octets a
  | v6 =>
    rw [Address.text, String.toList_ofList]
    exact Address.V6.read?_write _ a

theorem readMask?_toDigits (le : mask ≤ f.bits) : readMask? f (Nat.toDigits 10 mask) = some mask := by
  have short : (Nat.toDigits 10 mask).length ≤ maskDigits f := by
    cases f with
    | v4 => exact (Nat.length_toDigits_le_iff (by decide) (by decide)).mpr (Nat.lt_of_le_of_lt le (by decide))
    | v6 => exact (Nat.length_toDigits_le_iff (by decide) (by decide)).mpr (Nat.lt_of_le_of_lt le (by decide))
  rw [readMask?, if_pos short, Numeral.natural?_toDigits, Option.bind_some, if_pos le]

/-- An address and a mask with a slash between them. -/
def cidr (a : Address f) (mask : Nat) : String := s!"{a.text}/{mask}"

theorem toList_cidr (a : Address f) (mask : Nat) :
    (cidr a mask).toList = a.text.toList ++ '/' :: Nat.toDigits 10 mask := by
  show (a.text ++ "/" ++ Nat.repr mask).toList = _
  simp [Nat.repr]

theorem isBlank_of_mem_cidr {c : Char} (h : c ∈ (cidr a mask).toList) : Text.isBlank c = false := by
  rw [toList_cidr, List.mem_append, List.mem_cons] at h
  rcases h with h | rfl | h
  · exact Address.isBlank_of_mem_text h
  · rfl
  · exact Numeral.isBlank_of_isDigit (Address.V4.isDigit_toDigits h)

/-- Reading an address with a mask is to make the network of both. -/
theorem read_cidr {before after : String} (hbefore : ∀ c ∈ before.toList, Text.isBlank c = true)
    (hafter : ∀ c ∈ after.toList, Text.isBlank c = true) (a : Address f) (le : mask ≤ f.bits) :
    read f (before ++ cidr a mask ++ after) = holding a mask := by
  have trimmed : Text.trim (before ++ cidr a mask ++ after).toList = (cidr a mask).toList := by
    rw [String.toList_append, String.toList_append, Text.trim_surrounded hbefore hafter]
    exact Text.trim_eq_self_of_forall fun c => isBlank_of_mem_cidr
  have slash : '/' ∉ a.text.toList := Address.not_mem_text (by decide) (by decide) (by decide) a
  have slash' : '/' ∉ Nat.toDigits 10 mask := Address.V4.not_mem_toDigits (by decide) mask
  rw [read, trimmed, toList_cidr, Text.splitOn_append_cons slash slash']
  dsimp only
  rw [readAddress?_text, readMask?_toDigits le]

theorem holding_eq_ok_iff :
    holding a mask = .ok n ↔ n.mask = mask ∧ n.start = a.value - a.value % f.addresses mask := by
  constructor
  · intro h
    rw [holding] at h
    split at h
    case isTrue =>
      cases h
      exact ⟨rfl, rfl⟩
    case isFalse => cases h
  · rintro ⟨rfl, start⟩
    rw [holding, dif_pos n.mask_le]
    exact congrArg Except.ok (ext start.symm rfl)

theorem exists_holding_iff : (∃ n, holding a mask = .ok n) ↔ mask ≤ f.bits := by
  rw [holding]
  split
  case isTrue le => simp [le]
  case isFalse long => simp [long]

/-- The block of the network that holds an address. -/
theorem block_holding (h : holding a mask = .ok n) :
    n.block.start ≤ a.value ∧ (a.value : Int) < n.block.stop := by
  obtain ⟨rfl, start⟩ := holding_eq_ok_iff.mp h
  have rest := Nat.mod_lt a.value n.size_pos
  have below := Nat.mod_le a.value n.size
  rw [← size] at start
  simp only [block, Block.stop]
  omega

/-! ### The range -/

/-- Between the two addresses of a range stands the only dash. -/
theorem rangeText_eq_iff {first last : String} :
    n.rangeText = s!"{n.text}[{first}-{last}]" ↔ first = n.first.text ∧ last = n.last.text := by
  have dash (a : Address f) : '-' ∉ a.text.toList := Address.not_mem_text (by decide) (by decide) (by decide) a
  have parts (first last : String) : (s!"{n.text}[{first}-{last}]").toList =
      n.text.toList ++ '[' :: (first.toList ++ '-' :: last.toList ++ [']']) := by
    show (n.text ++ "[" ++ first ++ "-" ++ last ++ "]").toList = _
    simp
  rw [rangeText, ← String.toList_inj, parts, parts, List.append_cancel_left_eq, List.cons.injEq,
    and_iff_right rfl, List.append_cancel_right_eq, List.append_cons_inj_of_notMem (dash _) (dash _),
    String.toList_inj, String.toList_inj, and_iff_right rfl, eq_comm, eq_comm (a := n.last.text)]

/-- There is a network with a mask around an address for the masks that are not longer than addresses. It
begins at the multiple of its size below the address and ends inside of the space. It is what address and
mask are read as, with any white space around them; it is read back from its own text; and the two addresses
of its range are the first and the last of its block. -/
theorem holding_agrees_with_text (f : Family) (a : Address f) (mask : Nat) :
    ((∃ n, holding a mask = .ok n) ↔ mask ≤ f.bits) ∧
    ∀ n, holding a mask = .ok n →
      (n.mask = mask ∧ n.size = Nat.pow 2 (f.bits - mask) ∧
        n.start = a.value - a.value % Nat.pow 2 (f.bits - mask)) ∧
      (n.block.start ≤ a.value ∧ (a.value : Int) < n.block.stop ∧ n.block.stop ≤ f.space) ∧
      (∀ before after : String, (∀ c ∈ before.toList, Text.isBlank c = true) →
        (∀ c ∈ after.toList, Text.isBlank c = true) → read f (before ++ cidr a mask ++ after) = .ok n) ∧
      read f n.text = .ok n ∧
      (∃ first last : String, n.rangeText = s!"{n.text}[{first}-{last}]") ∧
      ∀ first last : String, n.rangeText = s!"{n.text}[{first}-{last}]" →
        (Address.read f first).map (fun x => (x.value : Int)) = .ok n.block.start ∧
        (Address.read f last).map (fun x => (x.value : Int)) = .ok (n.block.stop - 1) := by
  refine ⟨exists_holding_iff, fun n h => ?_⟩
  obtain ⟨rfl, start⟩ := holding_eq_ok_iff.mp h
  obtain ⟨low, high⟩ := block_holding h
  refine ⟨⟨rfl, rfl, start⟩, ⟨low, high, n.block_stop_le⟩, fun before after hbefore hafter => ?_, ?_,
    ⟨_, _, rfl⟩, fun first last split => ?_⟩
  · rw [read_cidr hbefore hafter a n.mask_le, h]
  · have plain : read f ("" ++ cidr n.first n.mask ++ "") = holding n.first n.mask :=
      read_cidr (by simp) (by simp) n.first n.mask_le
    rw [String.empty_append, String.append_empty, holding_first] at plain
    exact plain
  · obtain ⟨rfl, rfl⟩ := rangeText_eq_iff.mp split
    have filled := n.size_pos
    have last : (n.last.value : Int) = n.block.stop - 1 := by
      simp only [Network.last, block, Block.stop]
      omega
    rw [Address.read_text, Address.read_text]
    exact ⟨rfl, congrArg Except.ok last⟩

/-- The upper half of the IPv6 addresses ends where the space does. -/
theorem holding_agrees_with_text_upper_half :
    ∃ n, holding (Address.last .v6) 1 = .ok n ∧ n.block = ⟨Nat.pow 2 127, Nat.pow 2 127⟩ ∧
      read .v6 "\t ffff:ffff:ffff:ffff:ffff:ffff:ffff:ffff/1\n" = .ok n ∧ read .v6 "8000::/1" = .ok n ∧
      n.rangeText = "8000::/1[8000::-ffff:ffff:ffff:ffff:ffff:ffff:ffff:ffff]" := by
  obtain ⟨made, agrees⟩ := holding_agrees_with_text .v6 (Address.last .v6) 1
  obtain ⟨n, h⟩ := made.mpr (by decide)
  obtain ⟨⟨mask, -, start⟩, -, reads, own, -, -⟩ := agrees n h
  let upper : Network .v6 := ⟨Nat.pow 2 127, 1, by decide, by decide, by decide⟩
  obtain rfl : n = upper := ext start mask
  have spelt : "\t " ++ cidr (Address.last .v6) 1 ++ "\n" = "\t ffff:ffff:ffff:ffff:ffff:ffff:ffff:ffff/1\n" := by
    decide +kernel
  have text : upper.text = "8000::/1" := by decide +kernel
  have read := reads "\t " "\n" (by simp [Text.isBlank]) (by simp [Text.isBlank])
  exact ⟨upper, h, rfl, spelt ▸ read, text ▸ own, by decide +kernel⟩

end Network
end ResourcePool
