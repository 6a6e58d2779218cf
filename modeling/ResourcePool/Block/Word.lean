import ResourcePool.Block.Search

/-!
The searches in words of a fixed width. Each step computes the same numbers as the search over all
integers and answers `none` as soon as one of them does not fit; an answer is therefore always the
answer of the unbounded search.
-/

namespace ResourcePool

/-- The numbers a computation may hold. -/
inductive Width where
  | unsigned (bits : Nat)
  | signed (bits : Nat)
  | unbounded
deriving DecidableEq

namespace Width

def Holds : Width → Int → Prop
  | unsigned bits, n => 0 ≤ n ∧ n < (Nat.pow 2 bits : Int)
  | signed bits, n => -(Nat.pow 2 (bits - 1) : Int) ≤ n ∧ n < (Nat.pow 2 (bits - 1) : Int)
  | unbounded, _ => True

instance (w : Width) (n : Int) : Decidable (w.Holds n) := by
  cases w <;> unfold Holds <;> infer_instance

/-- The number, if it fits. -/
def fit (w : Width) (n : Int) : Option Int :=
  if w.Holds n then some n else none

theorem fit_eq_some {w : Width} {n m : Int} : w.fit n = some m ↔ w.Holds n ∧ n = m := by
  simp [fit]

/-! ### The searches -/

def stop (w : Width) (b : Block) : Option Int := w.fit (b.start + b.size)

def alignUp (w : Width) (value alignment : Int) : Option Int :=
  if alignment = 0 then none
  else
    let rest := value.tmod alignment
    if rest = 0 then some value
    else (w.fit (value + alignment)).bind fun n => w.fit (n - rest)

def pass (w : Width) (cursor : Int) (b : Block) (alignment : Int) : Option Int := do
  let next ← w.alignUp (← w.stop b) alignment
  some (max cursor next)

/-- The gap is computed only when the block does not begin before the cursor. -/
def leavesRoom (w : Width) (b : Block) (cursor size : Int) : Option Bool :=
  if cursor ≤ b.start then (w.fit (b.start - cursor)).map fun gap => decide (size ≤ gap)
  else some false

def leavesRoomAfter (w : Width) (network : Int) (b : Block) (cursor size : Int) : Option Bool :=
  if network < b.start then w.leavesRoom b cursor size else some false

def fitFrom (w : Width) (parent : Block) (size alignment cursor : Int) :
    List Block → Option (Option Int)
  | [] => do
    let last ← w.fit (cursor + size)
    let stop ← w.stop parent
    some (if last ≤ stop then some cursor else none)
  | b :: rest => do
    if ← w.leavesRoom b cursor size then some (some cursor)
    else w.fitFrom parent size alignment (← w.pass cursor b alignment) rest

def firstFit (w : Width) (parent : Block) (held : List Block) (size alignment : Int) :
    Option (Option Int) := do
  w.fitFrom parent size alignment (← w.alignUp parent.start alignment) held

def freeAfterFrom (w : Width) (network size alignment cursor : Int) : List Block → Option Int
  | [] => some cursor
  | b :: rest => do
    if ← w.leavesRoomAfter network b cursor size then some cursor
    else w.freeAfterFrom network size alignment (← w.pass cursor b alignment) rest

def nextFreeAfter (w : Width) (network : Int) (held : List Block) (size alignment : Int) :
    Option Int :=
  w.freeAfterFrom network size alignment network held

def overlaps (w : Width) (a b : Block) : Option Bool := do
  if a.start < (← w.stop b) then some (decide (b.start < (← w.stop a))) else some false

def contains (w : Width) (a b : Block) : Option Bool := do
  if a.start ≤ b.start then some (decide ((← w.stop b) ≤ (← w.stop a))) else some false

def firstOverlap (w : Width) (candidate : Block) : List Block → Option (Option Nat)
  | [] => some none
  | b :: rest => do
    if ← w.overlaps b candidate then some (some 0)
    else (w.firstOverlap candidate rest).map fun found => found.map (· + 1)

/-- The blocks in the order of their ends, all of which have to fit. -/
def sortByStop (w : Width) (held : List Block) : Option (List Block) :=
  if held.all fun b => (w.stop b).isSome then some (sortBy Block.stop held) else none

/-! ### Agreement with the unbounded search -/

variable {w : Width}

theorem stop_eq {b : Block} {n : Int} (h : w.stop b = some n) : n = b.stop :=
  (fit_eq_some.1 h).2.symm

theorem alignUp_eq {value alignment n : Int} (h : w.alignUp value alignment = some n) :
    n = ResourcePool.alignUp value alignment := by
  unfold alignUp at h
  split at h
  · cases h
  · simp only [ResourcePool.alignUp]
    dsimp only at h
    split at h
    · case isTrue whole => rw [if_pos whole]; exact (Option.some.inj h).symm
    · case isFalse broken =>
      obtain ⟨m, hm, hn⟩ := Option.bind_eq_some_iff.1 h
      rw [if_neg broken, (fit_eq_some.1 hm).2, (fit_eq_some.1 hn).2]

theorem pass_eq {cursor alignment n : Int} {b : Block} (h : w.pass cursor b alignment = some n) :
    n = ResourcePool.pass cursor b alignment := by
  obtain ⟨s, hs, h⟩ := Option.bind_eq_some_iff.1 h
  obtain ⟨next, hnext, h⟩ := Option.bind_eq_some_iff.1 h
  rw [ResourcePool.pass, ← stop_eq hs, ← alignUp_eq hnext]
  exact (Option.some.inj h).symm

theorem leavesRoom_eq {b : Block} {cursor size : Int} {room : Bool}
    (h : w.leavesRoom b cursor size = some room) : room = decide (b.LeavesRoom cursor size) := by
  unfold leavesRoom at h
  split at h
  · case isTrue le =>
    obtain ⟨gap, hgap, rfl⟩ := Option.map_eq_some_iff.1 h
    rw [← (fit_eq_some.1 hgap).2]
    simp [Block.LeavesRoom, le]
  · case isFalse lt =>
    cases h
    simp [Block.LeavesRoom, lt]

theorem fitFrom_eq {parent : Block} {size alignment cursor : Int} {held : List Block}
    {place : Option Int} (h : w.fitFrom parent size alignment cursor held = some place) :
    place = ResourcePool.fitFrom parent.stop size alignment cursor held := by
  induction held generalizing cursor with
  | nil =>
    obtain ⟨last, hlast, h⟩ := Option.bind_eq_some_iff.1 h
    obtain ⟨stop, hstop, h⟩ := Option.bind_eq_some_iff.1 h
    rw [ResourcePool.fitFrom, ← stop_eq hstop, (fit_eq_some.1 hlast).2]
    exact (Option.some.inj h).symm
  | cons b rest ih =>
    obtain ⟨room, hroom, h⟩ := Option.bind_eq_some_iff.1 h
    rw [ResourcePool.fitFrom]
    have room_eq := leavesRoom_eq hroom
    cases room
    · obtain ⟨next, hnext, h⟩ := Option.bind_eq_some_iff.1 h
      rw [if_neg (of_decide_eq_false room_eq.symm), ← pass_eq hnext]
      exact ih h
    · rw [if_pos (of_decide_eq_true room_eq.symm)]
      exact (Option.some.inj h).symm

/-- Where the words suffice, the search in words finds what the unbounded search finds. -/
theorem firstFit_eq {parent : Block} {held : List Block} {size alignment : Int}
    {place : Option Int} (h : w.firstFit parent held size alignment = some place) :
    place = ResourcePool.firstFit parent held size alignment := by
  obtain ⟨cursor, hcursor, h⟩ := Option.bind_eq_some_iff.1 h
  rw [ResourcePool.firstFit, ← alignUp_eq hcursor]
  exact fitFrom_eq h

theorem freeAfterFrom_eq {network size alignment cursor place : Int} {held : List Block}
    (h : w.freeAfterFrom network size alignment cursor held = some place) :
    place = ResourcePool.freeAfterFrom network size alignment cursor held := by
  induction held generalizing cursor with
  | nil => exact (Option.some.inj h).symm
  | cons b rest ih =>
    obtain ⟨room, hroom, h⟩ := Option.bind_eq_some_iff.1 h
    have room_eq : room = decide (network < b.start ∧ b.LeavesRoom cursor size) := by
      unfold leavesRoomAfter at hroom
      split at hroom
      · case isTrue lt => simpa [lt] using leavesRoom_eq hroom
      · case isFalse ge => cases hroom; simp [ge]
    rw [ResourcePool.freeAfterFrom]
    cases room
    · obtain ⟨next, hnext, h⟩ := Option.bind_eq_some_iff.1 h
      rw [if_neg (of_decide_eq_false room_eq.symm), ← pass_eq hnext]
      exact ih h
    · rw [if_pos (of_decide_eq_true room_eq.symm)]
      exact (Option.some.inj h).symm

theorem nextFreeAfter_eq {network size alignment place : Int} {held : List Block}
    (h : w.nextFreeAfter network held size alignment = some place) :
    place = ResourcePool.nextFreeAfter network held size alignment :=
  freeAfterFrom_eq h

end Width

end ResourcePool
