import ResourcePool.Pool.Address
import ResourcePool.Proofs.Network.Size
import ResourcePool.Proofs.Unit.Address
import ResourcePool.Proofs.Word.Search

/-! Pools of addresses in words. IPv4 addresses are computed with in 64 bits, where even the address past
the end of the space has room; IPv6 addresses in integers of any size. -/

namespace ResourcePool

namespace Family
variable {f : Family} {n : Int}

/-- The type that addresses of a family are computed with. -/
def word : Family → Width
  | .v4 => .unsigned 64
  | .v6 => .unbounded

/-- There is room for as many whole spaces as there are IPv4 addresses. -/
theorem word_holds (natural : 0 ≤ n) (small : n < 4294967296 * f.space) : f.word.Holds n := by
  cases f with
  | v4 =>
    have space : Family.v4.space = 4294967296 := rfl
    rw [space] at small
    exact Width.holds_unsigned_64.mpr (by omega)
  | v6 => trivial

theorem space_pos (f : Family) : 0 < f.space := Nat.two_pow_pos _

theorem word_spans (f : Family) : f.word.Spans 0 (2 * f.space) where
  low_nonpos := Int.le_refl 0
  neg_high := by omega
  holds n natural small := word_holds natural (by have := f.space_pos; omega)

end Family

namespace Network
variable {f : Family}

/-- The addresses of a network. -/
def blockInWords (n : Network f) : Option Block := do
  return ⟨← f.word.fit n.start, ← f.word.fit n.size⟩

theorem block_within (n : Network f) : n.block.Within 0 (2 * f.space) := by
  have stop := n.stop_le
  refine ⟨?_, ?_, ?_, ?_⟩ <;> simp only [block, Block.stop] <;> omega

theorem blockInWords_eq (n : Network f) : n.blockInWords = some n.block := by
  have stop := n.stop_le
  have filled := n.size_pos
  have start : f.word.Holds n.start := Family.word_holds (by omega) (by omega)
  have size : f.word.Holds n.size := Family.word_holds (by omega) (by omega)
  simp only [blockInWords, Width.fit_of_holds start, Width.fit_of_holds size, Option.bind_eq_bind,
    Option.bind_some]
  rfl

end Network

namespace AddressPool
variable {f : Family}

/-- The address of a granted resource. -/
def heldAddressInWords (f : Family) (bag : Bag) : InWords Int := do
  let n ← (heldAddress f bag : Except Error Int)
  f.word.fit n

def ofSnapshotInWords (f : Family) (s : Snapshot) : InWords (AddressPool f) := do
  let network ← (poolNetwork f s.properties : Except Error _)
  let taken ← InWords.readAll (heldAddressInWords f) s.held
  return ⟨network, s.properties.flag "subnet" || s.input.flag "subnet", .ofList taken⟩

/-- The lowest address that may be handed out, and one past the highest. -/
def boundsInWords (pool : AddressPool f) : Option (Int × Int) := do
  let b ← pool.network.blockInWords
  let stop ← f.word.stop b
  if pool.reserves then return (← f.word.fit (b.start + 1), ← f.word.fit (stop - 1))
  else return (b.start, stop)

def capacityInWords (pool : AddressPool f) : Option Capacity := do
  let (first, stop) ← pool.boundsInWords
  let room ← f.word.fit (stop - first)
  let utilized ← f.word.fit pool.taken.size
  return .of (room - utilized) utilized

/-- Only the summary of a full pool needs a number. -/
def refuseInWords (pool : AddressPool f) (desired : String) : NoNumber → InWords Bag
  | .exhausted => do
    let (first, stop) ← pool.boundsInWords
    let _ ← f.word.fit (stop - first)
    pool.refuse desired .exhausted
  | why => pool.refuse desired why

/-- Hands out the wanted address, or the lowest free one. -/
def allocateInWords (pool : AddressPool f) (input : Bag) : InWords Bag := do
  let (first, stop) ← pool.boundsInWords
  Logged.record .debug pool.opening
  let wanted ← (wanted? f input : Except Error _)
  let number ← f.word.fit? (wanted.map fun w => w.2.value)
  let last ← f.word.fit (stop - 1)
  match ← f.word.chooseNumber first last pool.taken number with
  | .ok n => pool.grant n
  | .error why => pool.refuseInWords ((wanted.map Prod.fst).getD "") why

theorem heldAddressInWords_eq (bag : Bag) :
    heldAddressInWords f bag = some (.quiet (heldAddress f bag)) := by
  have agrees : heldAddressInWords f bag = some (.quiet ((heldAddress f bag).bind .ok)) := by
    refine InWords.quiet_eq rfl fun n read => ?_
    obtain ⟨text, a, -, -, rfl⟩ := heldAddress_eq_ok_iff.mp read
    have := a.lt
    have fits : f.word.Holds a.value := Family.word_holds (by omega) (by omega)
    rw [Width.fit_of_holds fits]
    rfl
  rw [agrees]
  cases heldAddress f bag <;> rfl

theorem ofSnapshotInWords_eq (s : Snapshot) :
    ofSnapshotInWords f s = some (.quiet (ofSnapshot f s)) :=
  InWords.quiet_eq rfl fun _ _ =>
    InWords.quiet_eq (InWords.readAll_eq heldAddressInWords_eq s.held) fun _ _ => rfl

/-- A pool keeps two addresses back only where there are at least four. -/
theorem bounds_inside (pool : AddressPool f) :
    0 ≤ pool.first ∧ pool.first < pool.stop ∧ pool.stop ≤ f.space := by
  have stop := pool.network.stop_le
  have filled := pool.network.size_pos
  simp only [first, AddressPool.stop, Network.block, Block.stop]
  split
  case isTrue reserves =>
    have short : pool.network.mask + 1 < f.bits := by
      simpa using (Bool.and_eq_true_iff.mp reserves).2
    have large : 2 ^ 2 ≤ pool.network.size := Nat.pow_le_pow_right (by decide) (by omega)
    omega
  case isFalse => omega

theorem boundsInWords_eq (pool : AddressPool f) : pool.boundsInWords = some (pool.first, pool.stop) := by
  obtain ⟨low, order, high⟩ := pool.bounds_inside
  simp only [boundsInWords, pool.network.blockInWords_eq, f.word_spans.stop_eq pool.network.block_within,
    Option.bind_eq_bind, Option.bind_some]
  split
  case isTrue reserves =>
    simp only [first, AddressPool.stop, reserves, ↓reduceIte] at low order high ⊢
    rw [Width.fit_of_holds (Family.word_holds (by omega) (by omega)),
      Width.fit_of_holds (Family.word_holds (by omega) (by omega))]
    rfl
  case isFalse plain =>
    simp only [first, AddressPool.stop, plain]
    rfl

theorem taken_size_le {s : Snapshot} {pool : AddressPool f} (h : ofSnapshot f s = .ok pool) :
    pool.taken.size ≤ s.held.length := by
  obtain ⟨network, -, h⟩ := bind_eq_ok_iff.mp h
  obtain ⟨taken, read, h⟩ := bind_eq_ok_iff.mp h
  cases h
  rw [← length_of_read (Snapshot.ofHeld_eq_ok_iff.mp read)]
  exact IntSet.size_ofList_le taken

theorem capacityInWords_eq (pool : AddressPool f) (few : pool.taken.size < 2147483648) :
    pool.capacityInWords = some pool.capacity := by
  obtain ⟨low, order, high⟩ := pool.bounds_inside
  have space := f.space_pos
  have room : f.word.Holds (pool.stop - pool.first) := Family.word_holds (by omega) (by omega)
  have utilized : f.word.Holds pool.taken.size := Family.word_holds (by omega) (by omega)
  simp only [capacityInWords, pool.boundsInWords_eq, Width.fit_of_holds room, Width.fit_of_holds utilized,
    Option.bind_eq_bind, Option.bind_some]
  rfl

theorem refuseInWords_eq (pool : AddressPool f) (desired : String) (why : NoNumber) :
    pool.refuseInWords desired why = some (pool.refuse desired why) := by
  cases why with
  | exhausted =>
    obtain ⟨low, order, high⟩ := pool.bounds_inside
    have room : f.word.Holds (pool.stop - pool.first) := Family.word_holds (by omega) (by omega)
    simp only [refuseInWords, InWords.number_eq pool.boundsInWords_eq,
      InWords.number_eq (Width.fit_of_holds room)]
    rfl
  | outside => rfl
  | taken => rfl

theorem word_holds_wanted (wanted : Option (String × Address f)) (n : Int)
    (h : wanted.map (fun w => (w.2.value : Int)) = some n) : f.word.Holds n := by
  obtain ⟨⟨_, a⟩, -, rfl⟩ := Option.map_eq_some_iff.mp h
  have := a.lt
  exact Family.word_holds (by omega) (by dsimp only; omega)

theorem allocateInWords_eq (pool : AddressPool f) (input : Bag) :
    pool.allocateInWords input = some (pool.allocate input) := by
  obtain ⟨low, order, high⟩ := pool.bounds_inside
  have last : f.word.Holds (pool.stop - 1) := Family.word_holds (by omega) (by omega)
  have between : ∀ n, pool.first ≤ n → n ≤ pool.stop - 1 → f.word.Holds n := fun n hlow hhigh =>
    Family.word_holds (by omega) (by omega)
  rw [allocateInWords, InWords.number_eq pool.boundsInWords_eq]
  refine InWords.step_eq fun _ _ => InWords.step_eq fun wanted _ => ?_
  rw [InWords.number_eq (Width.fit?_eq (word_holds_wanted wanted)),
    InWords.number_eq (Width.fit_of_holds last), InWords.number_eq (Width.chooseNumber_eq between)]
  cases chooseNumber pool.first (pool.stop - 1) pool.taken (wanted.map fun w => w.2.value) with
  | ok n => rfl
  | error why => exact pool.refuseInWords_eq _ why

/-! ### What is granted -/

/-- The number that is found for a claim. -/
def found (pool : AddressPool f) (input : Bag) : Option Int := do
  let wanted ← (wanted? f input).toOption
  (chooseNumber pool.first (pool.stop - 1) pool.taken (wanted.map fun w => w.2.value)).toOption

/-- A granted address is the number that was found: it belongs to the space, so that it never gives way
to the last address. -/
theorem exists_found {pool : AddressPool f} {input bag : Bag}
    (h : (pool.allocate input).result = .ok bag) :
    ∃ a : Address f, pool.found input = some (a.value : Int) ∧
      bag = Bag.empty.set "address" (.text a.text) := by
  rw [allocate_result] at h
  obtain ⟨wanted, hwanted, h⟩ := bind_eq_ok_iff.mp h
  split at h
  case h_1 n chosen =>
    obtain ⟨lower, upper, -⟩ := chooseNumber_free chosen
    obtain ⟨low, order, high⟩ := pool.bounds_inside
    obtain ⟨value, rfl⟩ := Int.eq_ofNat_of_zero_le (Int.le_trans low lower)
    let a : Address f := ⟨value, by omega⟩
    have written : Address.ofInt f value = .ok a := Address.ofInt_value a
    refine ⟨a, ?_, ?_⟩
    · simp only [found, hwanted, Except.toOption, Option.bind_eq_bind, Option.bind_some, chosen]
      rfl
    · simp only [grant, Logged.result_bind, Logged.result_lift, Logged.result_record, Logged.result_pure,
        written, Except.bind] at h
      exact (Except.ok.inj h).symm
  case h_2 why refused =>
    obtain ⟨e, refusal, -⟩ := pool.refuse_fails ((wanted.map Prod.fst).getD "") why
    rw [refusal] at h
    cases h

end AddressPool
end ResourcePool
