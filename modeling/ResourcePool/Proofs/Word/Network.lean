import ResourcePool.Proofs.Pool.Blocks
import ResourcePool.Proofs.Word.Address

/-! Pools of networks in words. Sizes of requests are 64-bit integers in IPv4, and what is granted never
adds up to more than the whole space for each network held. -/

namespace ResourcePool

namespace Width
variable {w : Width} {n : Int}

/-- The least exponent of a power of two that is not below a number. -/
def ceilLog2 (w : Width) (n : Int) : Option Nat :=
  if n ≤ 1 then some 0 else do
    let below ← w.fit (n - 1)
    some (below.toNat.log2 + 1)

theorem ceilLog2_eq (holds : 1 < n → w.Holds (n - 1)) : w.ceilLog2 n = some (ResourcePool.ceilLog2 n) := by
  unfold ceilLog2 ResourcePool.ceilLog2
  split
  case isTrue => rfl
  case isFalse large =>
    rw [fit_of_holds (holds (by omega))]
    rfl

end Width

namespace Family
variable {f : Family} {mask : Nat}

/-- The addresses behind a mask that hosts can use. -/
def hostsInWords (f : Family) (mask : Nat) : Option Int :=
  if mask = f.bits then some 1
  else if mask + 1 = f.bits then some 2
  else do
    let size ← f.word.fit (f.addresses mask)
    f.word.fit (size - 2)

/-- The longest mask with at least so many addresses behind it. -/
def maskForInWords (f : Family) (size : Int) : Option (Option Nat) := do
  let exponent ← f.word.ceilLog2 size
  return if exponent ≤ f.bits then some (f.bits - exponent) else none

theorem addresses_le (f : Family) (mask : Nat) : f.addresses mask ≤ f.space :=
  Nat.pow_le_pow_right (by decide) (Nat.sub_le ..)

theorem addresses_pos (f : Family) (mask : Nat) : 0 < f.addresses mask := Nat.two_pow_pos _

theorem word_holds_addresses : f.word.Holds (f.addresses mask) :=
  word_holds (by omega) (by have := f.addresses_le mask; have := f.addresses_pos mask; omega)

theorem hostsInWords_eq (le : mask ≤ f.bits) : f.hostsInWords mask = some (f.hosts mask) := by
  unfold hostsInWords hosts
  split
  · rfl
  case isFalse short =>
    split
    · rfl
    case isFalse shorter =>
      have large : 2 ^ 2 ≤ f.addresses mask := Nat.pow_le_pow_right (by decide) (by omega)
      have small := f.addresses_le mask
      have hosts : f.word.Holds (f.addresses mask - 2) := word_holds (by omega) (by omega)
      simp only [Width.fit_of_holds word_holds_addresses, Width.fit_of_holds hosts, Option.bind_eq_bind,
        Option.bind_some]

theorem maskForInWords_eq {size : Int} (holds : 1 < size → f.word.Holds (size - 1)) :
    f.maskForInWords size = some (f.maskFor size) := by
  rw [maskForInWords, Width.ceilLog2_eq holds]
  rfl

end Family

namespace NetworkPool
variable {f : Family} {pool : NetworkPool f}

def ofSnapshotInWords (f : Family) (s : Snapshot) : InWords (NetworkPool f) := do
  let network ← (poolNetwork f s.properties : Except Error _)
  let held ← (s.ofHeld (heldNetwork f) : Except Error _)
  let held ← f.word.sortBy Network.block held
  return ⟨network, s.properties.flag "subnet", held⟩

/-! ### Accounting -/

def totalInWords (pool : NetworkPool f) : Option Int :=
  if pool.subnet then
    if f.bits ≤ pool.network.mask + 1 then some 0 else f.hostsInWords pool.network.mask
  else f.word.fit pool.network.size

def utilizedInWords (pool : NetworkPool f) : Option Int := do
  let sizes ← pool.held.mapM fun n => f.word.fit n.size
  f.word.sum sizes

/-- A difference below zero counts as zero, so it always fits. -/
def capacityInWords (pool : NetworkPool f) : Option Capacity := do
  let total ← pool.totalInWords
  let utilized ← pool.utilizedInWords
  return .of (max (total - utilized) 0) utilized

/-! ### Allocation -/

/-- The addresses needed for a request. -/
def neededInWords (pool : NetworkPool f) (requested : Int) : Option Int := do
  let requested ← f.word.fit requested
  if pool.subnet then f.word.fit (requested + 2) else return requested

def exhaustedInWords {α : Type} (pool : NetworkPool f) (requested : Int) : InWords α := do
  let _ ← pool.totalInWords
  let _ ← pool.utilizedInWords
  (pool.exhausted requested : Logged α)

def maskForInWords (pool : NetworkPool f) (requested : Int) : InWords Nat := do
  let needed ← pool.neededInWords requested
  match ← f.maskForInWords needed with
  | none => pool.exhaustedInWords requested
  | some mask =>
    if pool.subnet ∧ f.bits ≤ mask + 1 then (Logged.fail (.noRoomForHosts mask) : Logged Nat)
    else return mask

def refuseInWords (pool : NetworkPool f) (requested : Int) (desired : String) :
    NoBlock (Network f) → InWords Bag
  | .exhausted => pool.exhaustedInWords requested
  | why => pool.refuse requested desired why

def grantInWords (pool : NetworkPool f) (start : Int) (mask : Nat) : InWords Bag := do
  let size ← f.word.fit (f.addresses mask)
  let _ ← pool.totalInWords
  let utilized ← pool.utilizedInWords
  let _ ← f.word.fit (utilized + size)
  pool.grant start mask

/-- Hands out the wanted network, or the lowest one that is free. -/
def allocateInWords (pool : NetworkPool f) (input : Bag) : InWords Bag := do
  let requested ← (pool.requested input : Except Error Int)
  let mask ← pool.maskForInWords requested
  let size ← f.word.fit (f.addresses mask)
  let subnet := (Value.bool pool.subnet).plain
  Logged.record .debug s!"Allocating /{mask} ({size} addresses) from {pool.network.text} (subnet: {subnet})"
  let wanted ← (AddressPool.wanted? f input : Except Error _)
  let desired := (wanted.map Prod.fst).getD ""
  let start ← f.word.fit? (wanted.map fun w => w.2.value)
  let parent ← pool.network.blockInWords
  let blocks ← (pool.held.mapM Network.blockInWords : Option (List Block))
  match ← f.word.chooseBlock parent pool.held blocks size size start with
  | .ok start => pool.grantInWords start mask
  | .error why => pool.refuseInWords requested s!"{desired}/{mask}" why

/-! ### Agreement -/

theorem ofSnapshotInWords_eq (s : Snapshot) :
    ofSnapshotInWords f s = some (.quiet (ofSnapshot f s)) := by
  refine InWords.quiet_eq rfl fun network _ => InWords.quiet_eq rfl fun held _ => ?_
  rw [InWords.number_eq (f.word_spans.sortBy_eq fun n _ => n.block_within)]
  rfl

theorem length_held {s : Snapshot} (h : ofSnapshot f s = .ok pool) : pool.held.length = s.held.length := by
  obtain ⟨held, -, read, -, sorted⟩ := ofSnapshot_eq_ok_iff.mp h
  rw [sorted, (perm_sortBy ..).length_eq, length_of_read read]

theorem totalInWords_eq (pool : NetworkPool f) : pool.totalInWords = some pool.total := by
  have size : f.word.Holds pool.network.size := Family.word_holds_addresses
  unfold totalInWords total
  split
  · split
    · rfl
    · exact Family.hostsInWords_eq pool.network.mask_le
  · exact Width.fit_of_holds size

theorem size_bounds (n : Network f) : (0 : Int) ≤ n.size ∧ (n.size : Int) ≤ f.space := by
  have small : n.size ≤ f.space := f.addresses_le n.mask
  omega

theorem utilized_eq_sum (pool : NetworkPool f) :
    pool.utilized = (pool.held.map fun n => (n.size : Int)).sum := by
  rw [utilized, List.sum, List.foldr_map]

theorem sizes_bounds (pool : NetworkPool f) :
    ∀ size ∈ pool.held.map (fun n => (n.size : Int)), 0 ≤ size ∧ size ≤ (f.space : Int) :=
  List.forall_mem_map.mpr fun n _ => size_bounds n

section Few
variable (few : pool.held.length < 2147483648)
include few

theorem length_mul_space_le : (pool.held.length : Int) * f.space ≤ 2147483648 * f.space :=
  Int.mul_le_mul_of_nonneg_right (by omega) (by omega)

/-- What is granted is at most the whole space for each network. -/
theorem utilized_bounds : 0 ≤ pool.utilized ∧ pool.utilized ≤ 2147483648 * f.space := by
  have bounds := sum_bounds pool.sizes_bounds
  have most := length_mul_space_le few
  rw [List.length_map, ← utilized_eq_sum] at bounds
  omega

theorem utilizedInWords_eq : pool.utilizedInWords = some pool.utilized := by
  have sizes : pool.held.mapM (fun n => f.word.fit n.size) =
      some (pool.held.map fun n => (n.size : Int)) :=
    mapM_eq_some fun n _ => Width.fit_of_holds Family.word_holds_addresses
  have most := length_mul_space_le few
  have space := f.space_pos
  simp only [utilizedInWords, sizes, Option.bind_eq_bind, Option.bind_some]
  rw [utilized_eq_sum]
  refine Width.sum_eq pool.sizes_bounds (Int.le_refl 0) (by omega) fun n low high =>
    Family.word_holds (by omega) ?_
  rw [List.length_map] at high
  omega

theorem capacityInWords_eq : pool.capacityInWords = some pool.capacity := by
  simp only [capacityInWords, pool.totalInWords_eq, utilizedInWords_eq few, Option.bind_eq_bind,
    Option.bind_some]
  rfl

theorem exhaustedInWords_eq {α : Type} (requested : Int) :
    (pool.exhaustedInWords requested : InWords α) = some (pool.exhausted requested) := by
  rw [exhaustedInWords, InWords.number_eq pool.totalInWords_eq, InWords.number_eq (utilizedInWords_eq few)]
  rfl

theorem refuseInWords_eq (requested : Int) (desired : String) (why : NoBlock (Network f)) :
    pool.refuseInWords requested desired why = some (pool.refuse requested desired why) := by
  cases why with
  | exhausted => exact exhaustedInWords_eq few requested
  | misaligned next => rfl
  | outside => rfl
  | overlaps holder => rfl

theorem grantInWords_eq (start : Int) (mask : Nat) :
    pool.grantInWords start mask = some (pool.grant start mask) := by
  obtain ⟨natural, most⟩ := utilized_bounds few
  have small := f.addresses_le mask
  have space := f.space_pos
  have grown : f.word.Holds (pool.utilized + f.addresses mask) :=
    Family.word_holds (by omega) (by omega)
  rw [grantInWords, InWords.number_eq (Width.fit_of_holds Family.word_holds_addresses),
    InWords.number_eq pool.totalInWords_eq, InWords.number_eq (utilizedInWords_eq few),
    InWords.number_eq (Width.fit_of_holds grown)]
  rfl

/-- A valid request is a 64-bit integer in IPv4, so there is room for two addresses more. -/
theorem word_holds_of_requested {input : Bag} {n m : Int} (h : pool.requested input = .ok n)
    (natural : 0 ≤ m) (le : m ≤ n + 2) : f.word.Holds m := by
  obtain ⟨sized, -⟩ := requested_eq_ok_iff.mp h
  cases f with
  | v4 =>
    obtain ⟨size, -, rfl⟩ := map_eq_ok_iff.mp sized
    have := size.toInt_lt
    have space : Family.v4.space = 4294967296 := rfl
    exact Family.word_holds natural (by rw [space]; omega)
  | v6 => trivial

theorem maskForInWords_eq {input : Bag} {n : Int} (h : pool.requested input = .ok n) :
    pool.maskForInWords n = some (pool.maskFor n) := by
  obtain ⟨-, large⟩ := requested_eq_ok_iff.mp h
  have holds : ∀ m, 0 ≤ m → m ≤ n + 2 → f.word.Holds m := fun m => word_holds_of_requested few h
  have needed : pool.neededInWords n = some (pool.needed n) := by
    simp only [neededInWords, NetworkPool.needed, Width.fit_of_holds (holds n (by omega) (by omega)),
      Option.bind_eq_bind, Option.bind_some]
    split
    · exact Width.fit_of_holds (holds (n + 2) (by omega) (by omega))
    · rfl
  have bounds : 2 ≤ pool.needed n ∧ pool.needed n ≤ n + 2 := by
    unfold NetworkPool.needed
    split <;> omega
  rw [maskForInWords, InWords.number_eq needed, InWords.number_eq (Family.maskForInWords_eq fun _ =>
    holds _ (by omega) (by omega)), maskFor]
  cases f.maskFor (pool.needed n) with
  | none => exact exhaustedInWords_eq few n
  | some mask =>
    dsimp only
    split <;> rfl

theorem allocateInWords_eq (input : Bag) : pool.allocateInWords input = some (pool.allocate input) := by
  refine InWords.step_eq fun n hn => InWords.bind_eq (maskForInWords_eq few hn) fun mask hmask => ?_
  rw [InWords.number_eq (Width.fit_of_holds Family.word_holds_addresses)]
  refine InWords.step_eq fun _ _ => InWords.step_eq fun wanted hwanted => ?_
  have blocks : pool.held.mapM Network.blockInWords = some (pool.held.map Network.block) :=
    mapM_eq_some fun n _ => n.blockInWords_eq
  have chosen : f.word.chooseBlock pool.network.block pool.held (pool.held.map Network.block)
      (f.addresses mask) (f.addresses mask) (wanted.map fun w => w.2.value) =
        some (chooseBlock pool.network.block pool.held Network.block (f.addresses mask)
          (f.addresses mask) (wanted.map fun w => w.2.value)) := by
    have small := f.addresses_le mask
    have positive := f.addresses_pos mask
    refine f.word_spans.chooseBlock_eq pool.network.block_within (fun n _ => n.block_within) (by omega)
      (by omega) (by omega) (by omega) fun m hm => ?_
    obtain ⟨⟨_, a⟩, -, rfl⟩ := Option.map_eq_some_iff.mp hm
    have inside := a.lt
    have below : a.value % f.addresses mask ≤ a.value := Nat.mod_le ..
    rw [← Int.natCast_emod]
    refine ⟨⟨?_, ?_, ?_, ?_⟩, ?_⟩ <;> simp only [Block.stop] <;> omega
  rw [InWords.number_eq (Width.fit?_eq (AddressPool.word_holds_wanted wanted)),
    InWords.number_eq pool.network.blockInWords_eq, InWords.number_eq blocks, InWords.number_eq chosen]
  cases chooseBlock pool.network.block pool.held Network.block (f.addresses mask) (f.addresses mask)
    (wanted.map fun w => w.2.value) with
  | ok start => exact grantInWords_eq few start mask
  | error why => exact refuseInWords_eq few n _ why

end Few

/-! ### What is granted -/

/-- The start of the network that is found for a claim. -/
def found (pool : NetworkPool f) (input : Bag) : Option Int := do
  let requested ← (pool.requested input).toOption
  let mask ← f.maskFor (pool.needed requested)
  let wanted ← (AddressPool.wanted? f input).toOption
  (chooseBlock pool.network.block pool.held Network.block (f.addresses mask) (f.addresses mask)
    (wanted.map fun w => w.2.value)).toOption

/-- A granted network starts at the place that was found, however far the held ones lie. -/
theorem exists_found {input bag : Bag} (h : (pool.allocate input).result = .ok bag) :
    ∃ a : Address f, pool.found input = some (a.value : Int) ∧
      bag.get? "address" = some (.text a.text) := by
  obtain ⟨n, mask, wanted, start, sized, large, hmask, hwanted, chosen, granted⟩ :=
    allocate_eq_ok_iff.mp h
  have positive := f.addresses_pos mask
  have near : ∀ b ∈ pool.held.map Network.block, b.start ≤ f.space := by
    refine List.forall_mem_map.mpr fun n _ => ?_
    have := n.lt
    simp only [Network.block]
    omega
  obtain ⟨-, low, high⟩ := chooseBlock_bounds (by omega) pool.network.block_stop_le near chosen
  have natural : 0 ≤ start := Int.le_trans (Int.natCast_nonneg _) low
  obtain ⟨value, rfl⟩ := Int.eq_ofNat_of_zero_le natural
  let a : Address f := ⟨value, by omega⟩
  have written : Address.ofInt f value = .ok a := Address.ofInt_value a
  refine ⟨a, ?_, ?_⟩
  · simp only [found, requested_eq_ok_iff.mpr ⟨sized, large⟩, hmask, hwanted, chosen, Except.toOption,
      Option.bind_eq_bind, Option.bind_some]
    rfl
  · rw [grant_result _ _ (Family.mask_le_of_maskFor hmask), written] at granted
    cases granted
    simp

end NetworkPool
end ResourcePool
