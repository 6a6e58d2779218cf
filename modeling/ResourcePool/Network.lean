import ResourcePool.Address
import ResourcePool.Block.Search
import ResourcePool.Value

/-!
Networks: aligned blocks of addresses, given by their first address and the length of their mask.
Everything here is the same for both families and depends on the width of an address alone.
-/

namespace ResourcePool

namespace Family

/-- The number of addresses behind a mask. -/
def addresses (f : Family) (mask : Nat) : Nat := Nat.pow 2 (f.bits - mask)

/-- The whole space is so many times the addresses behind a mask. -/
theorem addresses_mul {f : Family} {mask : Nat} (h : mask ≤ f.bits) :
    f.addresses mask * Nat.pow 2 mask = f.space := by
  have := Nat.pow_add 2 (f.bits - mask) mask
  rw [Nat.sub_add_cancel h] at this
  exact this.symm

/-- The addresses behind a mask that hosts can use: all but the first and the last, except that the
two longest masks reserve none. -/
def hosts (f : Family) (mask : Nat) : Int :=
  if mask = f.bits then 1 else if mask + 1 = f.bits then 2 else f.addresses mask - 2

end Family

/-- The least exponent of a power of two that is not below a number. -/
def ceilLog2 (n : Int) : Nat :=
  if n ≤ 1 then 0 else (n - 1).toNat.log2 + 1

namespace Family

/-- The longest mask with at least so many addresses behind it. -/
def maskFor (f : Family) (size : Int) : Option Nat :=
  if ceilLog2 size ≤ f.bits then some (f.bits - ceilLog2 size) else none

/-- A mask taken from a property. -/
def checkMask (f : Family) (mask : Int) : Except Error Nat :=
  if 0 ≤ mask ∧ mask ≤ f.bits then .ok mask.toNat else .error (.maskRange mask f)

end Family

/-- A network of a family. -/
structure Network (f : Family) where
  start : Nat
  mask : Nat
  mask_le : mask ≤ f.bits
  aligned : f.addresses mask ∣ start
  lt : start < f.space

namespace Network

variable {f : Family}

/-- The network with a mask that holds an address. -/
def holding (a : Address f) (mask : Nat) : Except Error (Network f) :=
  if h : mask ≤ f.bits then
    .ok
      { start := a.value - a.value % f.addresses mask
        mask := mask
        mask_le := h
        aligned := Nat.dvd_sub_mod _
        lt := Nat.lt_of_le_of_lt (Nat.sub_le ..) a.lt }
  else .error (.maskRange mask f)

/-- Networks with the same first address and the same mask are the same. -/
theorem ext {a b : Network f} (start : a.start = b.start) (mask : a.mask = b.mask) : a = b := by
  cases a
  cases b
  cases start
  cases mask
  rfl

instance : DecidableEq (Network f) := fun a b =>
  decidable_of_iff (a.start = b.start ∧ a.mask = b.mask)
    ⟨fun h => ext h.1 h.2, fun h => h ▸ ⟨rfl, rfl⟩⟩

def size (n : Network f) : Nat := f.addresses n.mask

/-- The addresses of a network. -/
def block (n : Network f) : Block := ⟨n.start, n.size⟩

theorem stop_le (n : Network f) : n.start + n.size ≤ f.space := by
  obtain ⟨k, hk⟩ := n.aligned
  have bound := n.lt
  rw [hk, ← Family.addresses_mul n.mask_le] at bound
  have := Nat.lt_of_mul_lt_mul_left bound
  rw [hk, ← Family.addresses_mul n.mask_le, size, ← Nat.mul_succ]
  exact Nat.mul_le_mul_left _ this

theorem size_pos (n : Network f) : 0 < n.size := Nat.two_pow_pos _

/-- The network's own address. -/
def first (n : Network f) : Address f := ⟨n.start, n.lt⟩

def last (n : Network f) : Address f :=
  ⟨n.start + n.size - 1, by have := n.stop_le; have := n.size_pos; omega⟩

/-- Address and mask. -/
def text (n : Network f) : String := s!"{n.first.text}/{n.mask}"

/-- Address and mask, with the first and the last address. -/
def rangeText (n : Network f) : String := s!"{n.text}[{n.first.text}-{n.last.text}]"

/-! ### Reading -/

/-- The number of digits a mask may be written with. -/
def maskDigits : Family → Nat
  | .v4 => 2
  | .v6 => 3

def readMask? (f : Family) (cs : List Char) : Option Nat :=
  if cs.length ≤ maskDigits f then
    (Numeral.natural? cs).bind fun mask => if mask ≤ f.bits then some mask else none
  else none

/-- The address of a network; octets may have leading zeros, and `::` may stand for no group. -/
def readAddress? : (f : Family) → List Char → Option (Address f)
  | .v4, cs => (Address.V4.groups? cs).bind Address.V4.ofOctets?
  | .v6, cs => Address.V6.read? .network cs

/-- The network that an address, a slash and a mask name, with white space around them. -/
def read (f : Family) (text : String) : Except Error (Network f) :=
  match (Text.trim text.toList).splitOn '/' with
  | [address, mask] =>
    match readAddress? f address, readMask? f mask with
    | some a, some m => holding a m
    | _, _ => .error (.networkShape text)
  | _ => .error (.networkShape text)

end Network

end ResourcePool
