import ResourcePool.Proofs.Pool.Blocks
import ResourcePool.Proofs.Word.Search

/-! Pools of VLAN ids and of ranges of them in words. Ids are 64-bit integers of any sign; how many there
are, and everything about ranges, is computed in 128 bits. -/

namespace ResourcePool

namespace VlanPool

def totalInWords (pool : VlanPool) : Option Int := do
  let total ← (Width.signed 128).count pool.first.toInt pool.last.toInt
  return max total 0

def capacityInWords (pool : VlanPool) : Option Capacity := do
  let total ← pool.totalInWords
  return .of (total - pool.taken.size) pool.taken.size

/-- Only the summary of a full pool needs a number. -/
def refuseInWords (pool : VlanPool) (desired : String) : NoNumber → InWords Bag
  | .exhausted => do
    let _ ← pool.totalInWords
    pool.refuse desired .exhausted
  | why => pool.refuse desired why

/-- Hands out the wanted id, or the lowest free one. -/
def allocateInWords (pool : VlanPool) (input : Bag) : InWords Bag := do
  Logged.record .debug s!"Allocating VLAN from {pool.range} ({pool.taken.size} allocated)"
  let wanted ← (wanted? input : Except Error _)
  match ← (Width.signed 64).chooseNumber pool.first.toInt pool.last.toInt pool.taken
      (wanted.map Int64.toInt) with
  | .ok id => pool.grant id
  | .error why => pool.refuseInWords ((wanted.map fun id => id.toInt.repr).getD "") why

variable (pool : VlanPool)

theorem totalInWords_eq : pool.totalInWords = some pool.total := by
  rw [totalInWords, Width.count_of_bounds (toInt_bounds pool.first) (toInt_bounds pool.last)]
  rfl

theorem capacityInWords_eq : pool.capacityInWords = some pool.capacity := by
  rw [capacityInWords, totalInWords_eq]
  rfl

theorem refuseInWords_eq (desired : String) (why : NoNumber) :
    pool.refuseInWords desired why = some (pool.refuse desired why) := by
  cases why with
  | exhausted =>
    rw [refuseInWords, InWords.number_eq pool.totalInWords_eq]
    rfl
  | outside => rfl
  | taken => rfl

theorem allocateInWords_eq (input : Bag) : pool.allocateInWords input = some (pool.allocate input) := by
  have low := toInt_bounds pool.first
  have high := toInt_bounds pool.last
  have between : ∀ n, pool.first.toInt ≤ n → n ≤ pool.last.toInt → (Width.signed 64).Holds n :=
    fun n hlow hhigh => Width.holds_signed_64.mpr (by omega)
  refine InWords.step_eq fun _ _ => InWords.step_eq fun wanted _ => ?_
  rw [InWords.number_eq (Width.chooseNumber_eq between)]
  cases chooseNumber pool.first.toInt pool.last.toInt pool.taken (wanted.map Int64.toInt) with
  | ok id => rfl
  | error why => exact pool.refuseInWords_eq _ why

end VlanPool

/-! ### Ranges -/

/-- The last member of a block. -/
def Width.lastMember (w : Width) (b : Block) : Option Int := do
  let stop ← w.stop b
  w.fit (stop - 1)

namespace VlanRangePool

/-- The block of a granted range. -/
def heldBlockInWords (bag : Bag) : InWords Block := do
  let first ← (heldNumber "from" bag : Except Error _)
  let last ← (heldNumber "to" bag : Except Error _)
  let start ← (Width.signed 128).fit first
  let size ← (Width.signed 128).count first last
  return ⟨start, size⟩

def ofSnapshotInWords (s : Snapshot) : InWords VlanRangePool := do
  let first ← (s.properties.int64 "from" .pool : Except Error _)
  let last ← (s.properties.int64 "to" .pool : Except Error _)
  let held ← InWords.readAll heldBlockInWords s.held
  let held ← (Width.signed 128).sortByStop held
  let start ← (Width.signed 128).fit first.toInt
  let size ← (Width.signed 128).count first.toInt last.toInt
  return ⟨⟨start, max size 0⟩, held⟩

def utilizedInWords (pool : VlanRangePool) : Option Int :=
  (Width.signed 128).sum (pool.held.map Block.size)

def capacityInWords (pool : VlanRangePool) : Option Capacity := do
  let utilized ← pool.utilizedInWords
  let free ← (Width.signed 128).fit (pool.parent.size - utilized)
  return .of (max free 0) utilized

/-- Ranges are told with their last members. -/
def refuseInWords (pool : VlanRangePool) (size : Int) (desired : String) : NoBlock Block → InWords Bag
  | .overlaps holder => do
    let _ ← (Width.signed 128).lastMember holder
    pool.refuse size desired (.overlaps holder)
  | .exhausted => do
    let _ ← pool.utilizedInWords
    let _ ← (pool.held.mapM (Width.signed 128).lastMember : Option (List Int))
    pool.refuse size desired .exhausted
  | why => pool.refuse size desired why

def grantInWords (pool : VlanRangePool) (b : Block) : InWords Bag := do
  let _ ← (Width.signed 128).lastMember b
  pool.grant b

/-- Hands out the wanted range, or the first one that fits. -/
def allocateInWords (pool : VlanRangePool) (input : Bag) : InWords Bag := do
  let _ ← (Width.signed 128).lastMember pool.parent
  let size ← (pool.requested input : Except Error Int)
  let size ← (Width.signed 128).fit size
  Logged.record .debug s!"Allocating VLAN range of size {size} from {pool.range}"
  let wanted ← (VlanPool.wanted? input : Except Error _)
  let start ← (Width.signed 128).fit? (wanted.map Int64.toInt)
  match ← (Width.signed 128).chooseBlock pool.parent pool.held pool.held size 1 start with
  | .ok start => pool.grantInWords ⟨start, size⟩
  | .error why => do
    let candidate := wanted.map fun w => (⟨w.toInt, size⟩ : Block)
    let _ ← (candidate.toList.mapM (Width.signed 128).lastMember : Option (List Int))
    pool.refuseInWords size ((candidate.map Block.described).getD "") why

/-! ### Agreement -/

/-- 128 bits hold four times a range of all 64-bit integers. -/
theorem spans : (Width.signed 128).Spans least64 18446744073709551616 where
  low_nonpos := by decide
  neg_high := by decide
  holds n low high := Width.holds_signed_128.mpr (by simp only [least64] at low; omega)

theorem holds_toInt (n : Int64) : (Width.signed 128).Holds n.toInt := by
  have bounds := toInt_bounds n
  simp only [least64, greatest64] at bounds
  exact Width.holds_signed_128.mpr (by omega)

theorem holds_wanted (wanted : Option Int64) (n : Int) (h : wanted.map Int64.toInt = some n) :
    (Width.signed 128).Holds n := by
  obtain ⟨word, -, rfl⟩ := Option.map_eq_some_iff.mp h
  exact holds_toInt word

/-- The ends of the pool's range and of the granted ones are 64-bit integers. -/
structure Bounded (pool : VlanRangePool) : Prop where
  parent : pool.parent.Within least64 (greatest64 + 1)
  held : ∀ b ∈ pool.held, b.Within least64 (greatest64 + 1)

theorem exists_of_heldNumber {bag : Bag} {key : String} {n : Int} (h : heldNumber key bag = .ok n) :
    ∃ word : Int64, n = word.toInt := by
  obtain ⟨word, -, rfl⟩ := map_eq_ok_iff.mp h
  exact ⟨word, rfl⟩

theorem within_of_heldBlock {bag : Bag} {b : Block} (h : heldBlock bag = .ok b) :
    b.Within least64 (greatest64 + 1) := by
  obtain ⟨first, hfirst, h⟩ := bind_eq_ok_iff.mp h
  obtain ⟨last, hlast, h⟩ := bind_eq_ok_iff.mp h
  obtain ⟨first, rfl⟩ := exists_of_heldNumber hfirst
  obtain ⟨last, rfl⟩ := exists_of_heldNumber hlast
  cases h
  have low := toInt_bounds first
  have high := toInt_bounds last
  refine ⟨?_, ?_, ?_, ?_⟩ <;> simp only [Block.stop] <;> omega

theorem bounded_of_ofSnapshot {s : Snapshot} {pool : VlanRangePool} (h : ofSnapshot s = .ok pool) :
    pool.Bounded := by
  obtain ⟨held, range, read, sorted⟩ := ofSnapshot_eq_ok_iff.mp h
  obtain ⟨first, -, range⟩ := bind_eq_ok_iff.mp range
  obtain ⟨last, -, range⟩ := map_eq_ok_iff.mp range
  have low := toInt_bounds first
  have high := toInt_bounds last
  constructor
  · rw [← range]
    refine ⟨?_, ?_, ?_, ?_⟩ <;> simp only [Block.stop] <;> omega
  · intro b hb
    rw [sorted, (perm_sortBy ..).mem_iff] at hb
    obtain ⟨bag, -, hbag⟩ := exists_of_mem_read read hb
    exact within_of_heldBlock hbag

theorem length_held {s : Snapshot} {pool : VlanRangePool} (h : ofSnapshot s = .ok pool) :
    pool.held.length = s.held.length := by
  obtain ⟨held, -, read, sorted⟩ := ofSnapshot_eq_ok_iff.mp h
  rw [sorted, (perm_sortBy ..).length_eq, length_of_read read]

theorem heldBlockInWords_eq (bag : Bag) : heldBlockInWords bag = some (.quiet (heldBlock bag)) := by
  refine InWords.quiet_eq rfl fun first hfirst => InWords.quiet_eq rfl fun last hlast => ?_
  obtain ⟨first, rfl⟩ := exists_of_heldNumber hfirst
  obtain ⟨last, rfl⟩ := exists_of_heldNumber hlast
  rw [InWords.number_eq (Width.fit_of_holds (holds_toInt first)),
    InWords.number_eq (Width.count_of_bounds (toInt_bounds first) (toInt_bounds last))]
  rfl

theorem ofSnapshotInWords_eq (s : Snapshot) : ofSnapshotInWords s = some (.quiet (ofSnapshot s)) := by
  refine InWords.quiet_eq rfl fun first _ => InWords.quiet_eq rfl fun last _ =>
    InWords.quiet_eq (InWords.readAll_eq heldBlockInWords_eq s.held) fun held read => ?_
  have within : ∀ b ∈ held, b.Within least64 18446744073709551616 := by
    intro b hb
    obtain ⟨bag, -, hbag⟩ := exists_of_mem_read (Snapshot.ofHeld_eq_ok_iff.mp read) hb
    exact (within_of_heldBlock hbag).mono (by decide)
  have sorted := spans.sortByStop_eq within
  rw [InWords.number_eq sorted, InWords.number_eq (Width.fit_of_holds (holds_toInt first)),
    InWords.number_eq (Width.count_of_bounds (toInt_bounds first) (toInt_bounds last))]
  rfl

theorem lastMember_eq {b : Block} (within : b.Within least64 18446744073709551616) :
    (Width.signed 128).lastMember b = some (b.stop - 1) := by
  have low := within.low_stop
  have high := within.stop_high
  simp only [least64] at low
  have last : (Width.signed 128).Holds (b.stop - 1) := Width.holds_signed_128.mpr (by omega)
  simp only [Width.lastMember, spans.stop_eq within, Width.fit_of_holds last, Option.bind_eq_bind,
    Option.bind_some]

theorem within_of_wanted {pool : VlanRangePool} {input : Bag} {size : Int} (wanted : Int64)
    (h : pool.requested input = .ok size) :
    (⟨wanted.toInt, size⟩ : Block).Within least64 18446744073709551616 := by
  obtain ⟨word, -, large, rfl⟩ := requested_eq_ok_iff.mp h
  have start := toInt_bounds wanted
  have most := toInt_bounds word
  simp only [least64, greatest64] at start most
  refine ⟨?_, ?_, ?_, ?_⟩ <;> simp only [Block.stop, least64] <;> omega

theorem utilized_eq_sum (pool : VlanRangePool) : pool.utilized = (pool.held.map Block.size).sum := by
  rw [utilized, List.sum, List.foldr_map]

theorem size_bounds {b : Block} (h : b.Within least64 (greatest64 + 1)) :
    -18446744073709551616 ≤ b.size ∧ b.size ≤ 18446744073709551616 := by
  obtain ⟨lowStart, startHigh, lowStop, stopHigh⟩ := h
  simp only [least64, greatest64, Block.stop] at *
  omega

section Bounded
variable {pool : VlanRangePool} (bounded : pool.Bounded) {input : Bag} {size start : Int}
  {wanted : Option Int64}
include bounded

/-- Wherever the search stops, it stops inside of 64 bits. -/
theorem within_of_chosen (h : pool.requested input = .ok size)
    (chosen : chooseBlock pool.parent pool.held id size 1 (wanted.map Int64.toInt) = .ok start) :
    (⟨start, size⟩ : Block).Within least64 (greatest64 + 1) := by
  obtain ⟨-, -, large, -⟩ := requested_eq_ok_iff.mp h
  have near : ∀ b ∈ pool.held.map id, b.start ≤ greatest64 + 1 := by
    rw [List.map_id]
    exact fun b hb => (bounded.held b hb).start_high
  obtain ⟨-, low, high⟩ := chooseBlock_bounds Int.one_pos bounded.parent.stop_high near chosen
  have first := bounded.parent.low_start
  refine ⟨?_, ?_, ?_, ?_⟩ <;> simp only [Block.stop] <;> omega

/-- What is granted always has bounds of 64 bits. -/
theorem exists_grant_eq_ok (h : pool.requested input = .ok size)
    (chosen : chooseBlock pool.parent pool.held id size 1 (wanted.map Int64.toInt) = .ok start) :
    ∃ bag, (pool.grant ⟨start, size⟩).result = .ok bag := by
  obtain ⟨-, -, large, -⟩ := requested_eq_ok_iff.mp h
  obtain ⟨low, -, -, high⟩ := within_of_chosen bounded h chosen
  simp only [Block.stop] at low high
  have first := bound_eq_ok (n := start) ⟨low, by omega⟩
  have last := bound_eq_ok (n := start + size - 1) ⟨by omega, by omega⟩
  rw [grant_result pool .empty, BlockKind.resource]
  simp only [Block.stop, first, last]
  exact ⟨_, rfl⟩

theorem chooseBlock_eq (wanted : Option Int64) (h : pool.requested input = .ok size) :
    (Width.signed 128).chooseBlock pool.parent pool.held pool.held size 1 (wanted.map Int64.toInt) =
      some (chooseBlock pool.parent pool.held id size 1 (wanted.map Int64.toInt)) := by
  obtain ⟨word, -, large, rfl⟩ := requested_eq_ok_iff.mp h
  have most := toInt_bounds word
  simp only [greatest64] at most
  have wide : greatest64 + 1 ≤ 18446744073709551616 := by decide
  have chosen : (Width.signed 128).chooseBlock pool.parent pool.held (pool.held.map id) word.toInt 1
      (wanted.map Int64.toInt) =
        some (chooseBlock pool.parent pool.held id word.toInt 1 (wanted.map Int64.toInt)) := by
    refine spans.chooseBlock_eq (bounded.parent.mono wide) (fun b hb => (bounded.held b hb).mono wide)
      (by omega) (by omega) Int.one_pos (by decide) fun n hn => ?_
    obtain ⟨w, -, rfl⟩ := Option.map_eq_some_iff.mp hn
    refine ⟨within_of_wanted w h, ?_⟩
    rw [Int.emod_one, Int.sub_zero]
    exact (toInt_bounds w).1
  rwa [List.map_id] at chosen

end Bounded

section Few
variable {pool : VlanRangePool} (bounded : pool.Bounded) (few : pool.held.length < 2147483648)
include bounded few

theorem utilizedInWords_eq : pool.utilizedInWords = some pool.utilized ∧
    -39614081257132168796771975168 ≤ pool.utilized ∧ pool.utilized ≤ 39614081257132168796771975168 := by
  have each : ∀ size ∈ pool.held.map Block.size,
      -18446744073709551616 ≤ size ∧ size ≤ 18446744073709551616 :=
    List.forall_mem_map.mpr fun b hb => size_bounds (bounded.held b hb)
  have bounds := sum_bounds each
  have length : (pool.held.map Block.size).length = pool.held.length := List.length_map ..
  rw [← utilized_eq_sum, length] at bounds
  refine ⟨?_, by omega, by omega⟩
  rw [utilizedInWords, utilized_eq_sum]
  refine Width.sum_eq each (by decide) (by decide) fun n low high => Width.holds_signed_128.mpr ?_
  omega

theorem capacityInWords_eq : pool.capacityInWords = some pool.capacity := by
  obtain ⟨utilized, low, high⟩ := utilizedInWords_eq bounded few
  have size := size_bounds bounded.parent
  have free : (Width.signed 128).Holds (pool.parent.size - pool.utilized) :=
    Width.holds_signed_128.mpr (by omega)
  simp only [capacityInWords, utilized, Width.fit_of_holds free, Option.bind_eq_bind, Option.bind_some]
  rfl

theorem refuseInWords_eq (size : Int) (desired : String) {why : NoBlock Block}
    (held : ∀ holder, why = .overlaps holder → holder ∈ pool.held) :
    pool.refuseInWords size desired why = some (pool.refuse size desired why) := by
  have last : ∀ b ∈ pool.held, (Width.signed 128).lastMember b = some (b.stop - 1) :=
    fun b hb => lastMember_eq ((bounded.held b hb).mono (by decide))
  cases why with
  | overlaps holder =>
    rw [refuseInWords, InWords.number_eq (last holder (held holder rfl))]
    rfl
  | exhausted =>
    rw [refuseInWords, InWords.number_eq (utilizedInWords_eq bounded few).1,
      InWords.number_eq (mapM_eq_some last)]
    rfl
  | misaligned next => rfl
  | outside => rfl

theorem allocateInWords_eq (input : Bag) : pool.allocateInWords input = some (pool.allocate input) := by
  rw [allocateInWords, InWords.number_eq (lastMember_eq (bounded.parent.mono (by decide)))]
  refine InWords.step_eq fun size hsize => ?_
  obtain ⟨word, -, -, rfl⟩ := requested_eq_ok_iff.mp hsize
  rw [InWords.number_eq (Width.fit_of_holds (holds_toInt word))]
  refine InWords.step_eq fun _ _ => InWords.step_eq fun wanted _ => ?_
  rw [InWords.number_eq (Width.fit?_eq (holds_wanted wanted)),
    InWords.number_eq (chooseBlock_eq bounded wanted hsize)]
  cases chosen : chooseBlock pool.parent pool.held id word.toInt 1 (wanted.map Int64.toInt) with
  | ok start =>
    have within := within_of_chosen bounded hsize chosen
    dsimp only
    rw [grantInWords, InWords.number_eq (lastMember_eq (within.mono (by decide)))]
    rfl
  | error why =>
    have told : (wanted.map fun w => (⟨w.toInt, word.toInt⟩ : Block)).toList.mapM
        (Width.signed 128).lastMember =
          some ((wanted.map fun w => (⟨w.toInt, word.toInt⟩ : Block)).toList.map fun b => b.stop - 1) := by
      refine mapM_eq_some fun b hb => ?_
      obtain ⟨w, -, rfl⟩ := Option.map_eq_some_iff.mp (Option.mem_toList.mp hb)
      exact lastMember_eq (within_of_wanted w hsize)
    dsimp only
    rw [InWords.number_eq told, Option.map_map]
    refine refuseInWords_eq bounded few word.toInt _ fun holder hwhy => ?_
    exact mem_of_chooseBlock_overlaps (hwhy ▸ chosen)

end Few

/-! ### Bounds that are too wide -/

/-- Not refused for a bound that is too wide for a property. -/
def Narrow {α : Type} (result : Except Error α) : Prop := ∀ n, result ≠ .error (.vlanTooWide n)

section Narrow
variable {α β : Type} {result : Except Error α} {pool : VlanRangePool} {input : Bag}

theorem narrow_ok (a : α) : Narrow (.ok a) := nofun

theorem narrow_bind {next : α → Except Error β} (first : Narrow result)
    (then_ : ∀ a, result = .ok a → Narrow (next a)) : Narrow (result.bind next) := by
  cases result with
  | ok a => exact then_ a rfl
  | error e =>
    intro n h
    cases h
    exact first n rfl

theorem narrow_toInt64 (v : Value) : Narrow v.toInt64 := by
  rintro n h
  rw [Value.toInt64] at h
  split at h <;> cases h

theorem narrow_int64 (bag : Bag) (key : String) (scope : Scope) : Narrow (bag.int64 key scope) := by
  refine narrow_bind (fun n h => ?_) fun v _ => narrow_toInt64 v
  rw [Bag.require] at h
  split at h <;> cases h

theorem narrow_heldNumber (bag : Bag) (key : String) : Narrow (heldNumber key bag) :=
  narrow_bind (narrow_int64 bag key .resource) fun n _ => narrow_ok n.toInt

theorem narrow_mapM {read : Bag → Except Error α} (each : ∀ bag, Narrow (read bag)) (bags : List Bag) :
    Narrow (bags.mapM read) := by
  induction bags with
  | nil => exact narrow_ok []
  | cons bag rest ih =>
    rw [List.mapM_cons]
    exact narrow_bind (each bag) fun _ _ => narrow_bind ih fun _ _ => narrow_ok _

theorem narrow_heldBlock (bag : Bag) : Narrow (heldBlock bag) :=
  narrow_bind (narrow_heldNumber bag "from") fun _ _ =>
    narrow_bind (narrow_heldNumber bag "to") fun _ _ => narrow_ok _

theorem narrow_ofSnapshot (s : Snapshot) : Narrow (ofSnapshot s) :=
  narrow_bind (narrow_int64 s.properties "from" .pool) fun _ _ =>
    narrow_bind (narrow_int64 s.properties "to" .pool) fun _ _ =>
      narrow_bind (narrow_mapM narrow_heldBlock s.held) fun _ _ => narrow_ok _

theorem narrow_requested : Narrow (pool.requested input) := by
  refine narrow_bind (narrow_int64 input "desiredSize" .input) fun size _ n h => ?_
  split at h <;> cases h

theorem narrow_readVlan (v : Value) : Narrow (readVlan v) := by
  intro n h
  simp only [readVlan] at h
  split at h <;> cases h

theorem narrow_wanted : Narrow (VlanPool.wanted? input) := by
  rw [VlanPool.wanted?]
  split
  · exact narrow_ok none
  · next v found =>
    intro n h
    cases read : readVlan v with
    | ok id =>
      rw [read] at h
      cases h
    | error e =>
      rw [read] at h
      cases h
      exact narrow_readVlan v n read

theorem narrow_allocate (bounded : pool.Bounded) : Narrow (pool.allocate input).result := by
  simp only [allocate, Logged.result_bind, Logged.result_lift, Logged.result_record]
  refine narrow_bind narrow_requested fun size hsize => narrow_bind (narrow_ok ()) fun _ _ =>
    narrow_bind narrow_wanted fun wanted _ => ?_
  cases chosen : chooseBlock pool.parent pool.held id size 1 (wanted.map Int64.toInt) with
  | ok start =>
    obtain ⟨bag, granted⟩ := exists_grant_eq_ok bounded hsize chosen
    intro n h
    dsimp only at h
    rw [granted] at h
    cases h
  | error why =>
    intro n h
    cases why <;> cases h

end Narrow

end VlanRangePool
end ResourcePool
