import ResourcePool.Pool
import ResourcePool.Proofs.Pool.Call
import ResourcePool.Proofs.Word.Counter
import ResourcePool.Proofs.Word.Network
import ResourcePool.Proofs.Word.Vlan

/-! Whole calls in words. As long as less than 2³¹ resources are held, every number that a call computes
fits the type it is computed in, and nothing is granted only because a number was cut down to a type. -/

namespace ResourcePool

namespace Pool

/-- The pool of a kind in the given circumstances. -/
def ofSnapshotInWords (kind : Kind) (s : Snapshot) : InWords Pool :=
  match kind with
  | .address f => do return .address f (← AddressPool.ofSnapshotInWords f s)
  | .network f => do return .network f (← NetworkPool.ofSnapshotInWords f s)
  | .vlan => do return .vlan (← (VlanPool.ofSnapshot s : Except Error _))
  | .vlanRange => do return .vlanRange (← VlanRangePool.ofSnapshotInWords s)
  | .uniqueId => do return .uniqueId (← (UniqueIdPool.ofSnapshot s : Except Error _))
  | .randomInt32 => do return .randomInt32 (← (RandomInt32Pool.ofSnapshot s : Except Error _))
  | .routeDistinguisher => return .routeDistinguisher (.ofSnapshot s)

/-- Opens a pool and says so in the log. -/
def openInWords (kind : Kind) (s : Snapshot) : InWords Pool := do
  Logged.record .debug s!"Building {kind.name} strategy over {s.held.length} allocated resources"
  ofSnapshotInWords kind s

/-- Claims a resource. Route distinguishers are put together without arithmetic. -/
def allocateInWords (pool : Pool) (input : Bag) (words : List UInt64) : InWords Bag :=
  match pool with
  | .address _ pool => pool.allocateInWords input
  | .network _ pool => pool.allocateInWords input
  | .vlan pool => pool.allocateInWords input
  | .vlanRange pool => pool.allocateInWords input
  | .uniqueId pool => pool.allocateInWords input
  | .randomInt32 pool => pool.allocateInWords words
  | .routeDistinguisher pool => pool.allocate input

/-- Free and utilized room; that of route distinguishers is counted in integers of any size. -/
def capacityInWords : Pool → Option Capacity
  | .address _ pool => pool.capacityInWords
  | .network _ pool => pool.capacityInWords
  | .vlan pool => pool.capacityInWords
  | .vlanRange pool => pool.capacityInWords
  | .uniqueId pool => pool.capacityInWords
  | .randomInt32 pool => pool.capacityInWords
  | .routeDistinguisher pool => some pool.capacity

theorem ofSnapshotInWords_eq (kind : Kind) (s : Snapshot) :
    ofSnapshotInWords kind s = some (.quiet (ofSnapshot kind s)) := by
  cases kind with
  | address f => exact InWords.quiet_map _ (AddressPool.ofSnapshotInWords_eq s)
  | network f => exact InWords.quiet_map _ (NetworkPool.ofSnapshotInWords_eq s)
  | vlan => exact InWords.quiet_map _ rfl
  | vlanRange => exact InWords.quiet_map _ (VlanRangePool.ofSnapshotInWords_eq s)
  | uniqueId => exact InWords.quiet_map _ rfl
  | randomInt32 => exact InWords.quiet_map _ rfl
  | routeDistinguisher => rfl

theorem openInWords_eq (kind : Kind) (s : Snapshot) : openInWords kind s = some (openFor kind s) :=
  InWords.step_eq fun _ _ => ofSnapshotInWords_eq kind s

section Few
variable {kind : Kind} {s : Snapshot} {pool : Pool} (few : s.held.length < 2147483648)
  (h : ofSnapshot kind s = .ok pool)
include few h

theorem allocateInWords_eq (input : Bag) (words : List UInt64) :
    pool.allocateInWords input words = some (pool.allocate input words) := by
  cases kind with
  | address f =>
    obtain ⟨pool, -, rfl⟩ := map_eq_ok_iff.mp h
    exact pool.allocateInWords_eq input
  | network f =>
    obtain ⟨pool, opened, rfl⟩ := map_eq_ok_iff.mp h
    exact NetworkPool.allocateInWords_eq (NetworkPool.length_held opened ▸ few) input
  | vlan =>
    obtain ⟨pool, -, rfl⟩ := map_eq_ok_iff.mp h
    exact pool.allocateInWords_eq input
  | vlanRange =>
    obtain ⟨pool, opened, rfl⟩ := map_eq_ok_iff.mp h
    exact VlanRangePool.allocateInWords_eq (VlanRangePool.bounded_of_ofSnapshot opened)
      (VlanRangePool.length_held opened ▸ few) input
  | uniqueId =>
    obtain ⟨pool, -, rfl⟩ := map_eq_ok_iff.mp h
    exact pool.allocateInWords_eq input
  | randomInt32 =>
    obtain ⟨pool, opened, rfl⟩ := map_eq_ok_iff.mp h
    exact RandomInt32Pool.allocateInWords_eq (RandomInt32Pool.bounded_of_ofSnapshot few opened) words
  | routeDistinguisher =>
    cases h
    rfl

theorem capacityInWords_eq : pool.capacityInWords = some pool.capacity := by
  cases kind with
  | address f =>
    obtain ⟨pool, opened, rfl⟩ := map_eq_ok_iff.mp h
    exact pool.capacityInWords_eq (Nat.lt_of_le_of_lt (AddressPool.taken_size_le opened) few)
  | network f =>
    obtain ⟨pool, opened, rfl⟩ := map_eq_ok_iff.mp h
    exact NetworkPool.capacityInWords_eq (NetworkPool.length_held opened ▸ few)
  | vlan =>
    obtain ⟨pool, -, rfl⟩ := map_eq_ok_iff.mp h
    exact pool.capacityInWords_eq
  | vlanRange =>
    obtain ⟨pool, opened, rfl⟩ := map_eq_ok_iff.mp h
    exact VlanRangePool.capacityInWords_eq (VlanRangePool.bounded_of_ofSnapshot opened)
      (VlanRangePool.length_held opened ▸ few)
  | uniqueId =>
    obtain ⟨pool, -, rfl⟩ := map_eq_ok_iff.mp h
    exact pool.capacityInWords_eq
  | randomInt32 =>
    obtain ⟨pool, opened, rfl⟩ := map_eq_ok_iff.mp h
    exact RandomInt32Pool.capacityInWords_eq (RandomInt32Pool.bounded_of_ofSnapshot few opened)
  | routeDistinguisher =>
    cases h
    rfl

end Few
end Pool

namespace Snapshot

/-- Opens a pool of a kind and claims a resource from it. -/
def allocateInWords (s : Snapshot) (kind : Kind) (script : Option (List UInt64)) : InWords Bag :=
  match kind, script with
  | .randomInt32, some words => do
    (← (RandomInt32Pool.ofSnapshot s : Except Error _)).allocateInWords words
  | _, _ => do
    (← Pool.openInWords kind s).allocateInWords s.input []

/-- Opens a pool of a kind and reports its room. -/
def capacityInWords (s : Snapshot) (kind : Kind) : InWords Capacity := do
  let pool ← Pool.openInWords kind s
  pool.capacityInWords

/-- Words are enough for all calls with a snapshot. What is computed in words, among it the room that pools
of networks are asked for, is what is computed in integers of any size; the text of a granted address or
network is that of the number found; and no range is refused for a bound of more than 64 bits. -/
structure FitsWords (s : Snapshot) (script : Option (List UInt64)) : Prop where
  allocate (kind : Kind) : s.allocateInWords kind script = some (s.allocate kind script)
  capacity (kind : Kind) : s.capacityInWords kind = some (s.capacity kind)
  accessors (f : Family) (pool : NetworkPool f) : NetworkPool.ofSnapshot f s = .ok pool →
    pool.totalInWords = some pool.total ∧ pool.utilizedInWords = some pool.utilized
  address (f : Family) (bag : Bag) : (s.allocate (.address f) script).result = .ok bag →
    ∃ (pool : AddressPool f) (a : Address f), AddressPool.ofSnapshot f s = .ok pool ∧
      pool.found s.input = some (a.value : Int) ∧ bag.get? "address" = some (.text a.text)
  network (f : Family) (bag : Bag) : (s.allocate (.network f) script).result = .ok bag →
    ∃ (pool : NetworkPool f) (a : Address f), NetworkPool.ofSnapshot f s = .ok pool ∧
      pool.found s.input = some (a.value : Int) ∧ bag.get? "address" = some (.text a.text)
  range (n : Int) : (s.allocate .vlanRange script).result ≠ .error (.vlanTooWide n)

theorem openInWords_bind_eq {s : Snapshot} {α : Type} {kind : Kind} {f : Pool → InWords α} {next : Pool → Logged α}
    (then_ : ∀ pool, Pool.ofSnapshot kind s = .ok pool → f pool = some (next pool)) :
    Pool.openInWords kind s >>= f = some (Pool.openFor kind s >>= next) := by
  refine InWords.bind_eq (Pool.openInWords_eq kind s) fun pool opened => then_ pool ?_
  simpa [Pool.openFor, Except.bind] using opened

section Few
variable {s : Snapshot} (few : s.held.length < 2147483648)
include few

theorem allocateInWords_eq (kind : Kind) (script : Option (List UInt64)) :
    s.allocateInWords kind script = some (s.allocate kind script) := by
  have plain : (do (← Pool.openInWords kind s).allocateInWords s.input [] : InWords Bag) =
      some (do (← Pool.openFor kind s).allocate s.input []) :=
    openInWords_bind_eq fun pool opened => Pool.allocateInWords_eq few opened s.input []
  cases kind with
  | randomInt32 =>
    cases script with
    | none => exact plain
    | some words =>
      exact InWords.step_eq fun pool opened =>
        RandomInt32Pool.allocateInWords_eq (RandomInt32Pool.bounded_of_ofSnapshot few opened) words
  | address | network | vlan | vlanRange | uniqueId | routeDistinguisher => exact plain

theorem capacityInWords_eq (kind : Kind) : s.capacityInWords kind = some (s.capacity kind) :=
  openInWords_bind_eq fun pool opened => by
    rw [Pool.capacityInWords_eq few opened]
    rfl

end Few

/-- With less than 2³¹ resources held, whatever the properties and the input, words are enough. -/
theorem fitsWords_of_few (s : Snapshot) (script : Option (List UInt64))
    (few : s.held.length < 2147483648) : s.FitsWords script where
  allocate kind := allocateInWords_eq few kind script
  capacity kind := capacityInWords_eq few kind
  accessors f pool opened :=
    ⟨pool.totalInWords_eq, NetworkPool.utilizedInWords_eq (NetworkPool.length_held opened ▸ few)⟩
  address f bag granted := by
    rw [allocate_address] at granted
    obtain ⟨pool, opened, granted⟩ := bind_eq_ok_iff.mp granted
    obtain ⟨a, found, rfl⟩ := AddressPool.exists_found granted
    exact ⟨pool, a, opened, found, by simp⟩
  network f bag granted := by
    rw [allocate_network] at granted
    obtain ⟨pool, opened, granted⟩ := bind_eq_ok_iff.mp granted
    obtain ⟨a, found, text⟩ := NetworkPool.exists_found granted
    exact ⟨pool, a, opened, found, text⟩
  range n := by
    rw [allocate_vlanRange]
    exact VlanRangePool.narrow_bind (VlanRangePool.narrow_ofSnapshot s) (fun pool opened =>
      VlanRangePool.narrow_allocate (VlanRangePool.bounded_of_ofSnapshot opened)) n

/-- A pool at the ends of the types: the last addresses of the space and all 64-bit integers. One
resource is held, which leaves four of the integers. -/
def atTheEnds : Snapshot where
  properties := .ofList [("address", .text "255.255.255.0"), ("prefix", .int 24),
    ("from", .int Int64.minValue), ("to", .int Int64.maxValue), ("idFormat", .text "\x7bcounter\x7d")]
  held := [.ofList [("address", .text "255.255.255.128"), ("prefix", .int 25),
    ("from", .int Int64.minValue), ("to", .int (Int64.maxValue - 4)), ("vlan", .int Int64.minValue),
    ("counter", .int Int64.maxValue), ("int", .int Int64.maxValue)]]
  input := .ofList [("desiredSize", .int 4)]

theorem fitsWords_of_few_at_the_ends :
    atTheEnds.held.length < 2147483648 ∧ atTheEnds.FitsWords none ∧
      (atTheEnds.allocate .vlanRange none).result =
        .ok (VlanRangePool.granted (Int64.maxValue - 3) Int64.maxValue) ∧
      (atTheEnds.allocate .uniqueId none).result.map (fun bag => bag.get? "counter") =
        .ok (some (.int Int64.minValue)) :=
  ⟨by decide, fitsWords_of_few atTheEnds none (by decide), by decide, by decide⟩

end Snapshot
end ResourcePool
