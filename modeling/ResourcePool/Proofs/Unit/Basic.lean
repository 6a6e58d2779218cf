import ResourcePool.Proofs.IntSet
import ResourcePool.Proofs.Pool.Call
import ResourcePool.Proofs.Pool.Reading

/-! Pools of numbers, taken together: addresses, VLAN ids, random integers and the counters of unique
ids. However a number is chosen and written, a pool with its bounds hands out a free number of them,
refuses a plain claim only when there is none, and counts what is held. -/

namespace ResourcePool

/-! ### Refusals -/

/-- The reason for choosing no number that an error states. -/
def Error.noNumber? : Error → Option NoNumber
  | .outside .. => some .outside
  | .taken .. => some .taken
  | .exhausted .. => some .exhausted
  | _ => none

/-- A claim fails for the reason. -/
def Fails (result : Except Error Bag) (why : NoNumber) : Prop :=
  ∃ e, result = .error e ∧ e.noNumber? = some why

theorem Fails.eq_error {result : Except Error Bag} {why : NoNumber} (h : Fails result why) :
    ∃ e, result = .error e ∧ (why = .exhausted → e.isExhausted = true) := by
  obtain ⟨e, failed, reason⟩ := h
  refine ⟨e, failed, ?_⟩
  rintro rfl
  cases e <;> cases reason
  rfl

/-! ### Kinds -/

/-- The kinds whose resources are single numbers. -/
inductive UnitKind where
  | address (f : Family)
  | vlan
  | randomInt32
  | uniqueId

namespace UnitKind

def kind : UnitKind → Kind
  | address f => .address f
  | vlan => .vlan
  | randomInt32 => .randomInt32
  | uniqueId => .uniqueId

/-- The number of a granted resource. -/
def heldNumber : UnitKind → Bag → Except Error Int
  | address f => AddressPool.heldAddress f
  | vlan => ResourcePool.heldNumber "vlan"
  | randomInt32 => ResourcePool.heldNumber "int"
  | uniqueId => ResourcePool.heldNumber "counter"

/-- The first and the last number of a pool. A pool of subnets keeps its network and its broadcast
address back, unless it has one of the two longest masks. -/
def bounds : UnitKind → Bag → Except Error (Int × Int)
  | address f, properties =>
    (poolNetwork f properties).map fun n =>
      if properties.flag "subnet" ∧ n.mask + 1 < f.bits then (n.start + 1, n.start + n.size - 2)
      else (n.start, n.start + n.size - 1)
  | vlan, properties =>
    (properties.int64 "from" .pool).bind fun first => (properties.int64 "to" .pool).map fun last =>
      (first.toInt, last.toInt)
  | randomInt32, properties =>
    (properties.int64? "from").bind fun first => (properties.int64? "to").map fun last =>
      ((first.map Int64.toInt).getD RandomInt32Pool.least,
        (last.map Int64.toInt).getD RandomInt32Pool.greatest)
  | uniqueId, properties =>
    (properties.int64? "from").bind fun first => (properties.int64? "to").map fun last =>
      ((first.map Int64.toInt).getD 0, (last.map Int64.toInt).getD greatest64)

/-- A pool of unique ids counts up to a bound of its own and has a place for the counter; of the other
pools nothing is asked. -/
def Counts : UnitKind → Bag → Prop
  | uniqueId, properties =>
    properties.get? "to" ≠ none ∧ ∃ template, properties.get? "idFormat" = some (.text template) ∧
      Text.occurs UniqueIdPool.counterToken template.toList = true
  | _, _ => True

/-- How a claim is answered in a pool with the bounds and the held numbers. A granted number is a free
one of the bounds; a plain claim is granted while there is one, and else refused for want of one. -/
structure Answers (kind : UnitKind) (first last : Int) (values : List Int) (plain : Prop)
    (result : Except Error Bag) : Prop where
  granted : ∀ bag, result = .ok bag →
    ∃ n, kind.heldNumber bag = .ok n ∧ first ≤ n ∧ n ≤ last ∧ n ∉ values
  free : plain → (∃ n, first ≤ n ∧ n ≤ last ∧ n ∉ values) → ∃ bag, result = .ok bag
  full : plain → (∀ n, first ≤ n → n ≤ last → n ∈ values) →
    ∃ e, result = .error e ∧ e.isExhausted = true

/-- Every claim in a pool with the bounds is answered, whatever is held, and what is held is counted. -/
structure Exact (kind : UnitKind) (properties : Bag) (first last : Int) : Prop where
  answers {bags : List Bag} {values : List Int} (input : Bag) (script : Option (List UInt64)) :
    bags.map kind.heldNumber = values.map .ok →
      kind.Answers first last values (input = .empty)
        (Snapshot.allocate ⟨properties, bags, input⟩ kind.kind script).result
  capacity {bags : List Bag} {values : List Int} :
    bags.map kind.heldNumber = values.map .ok →
      (Snapshot.capacity ⟨properties, bags, .empty⟩ kind.kind).result =
        .ok (.of (last - first + 1 - (IntSet.ofList values).size) (IntSet.ofList values).size)

/-- A claim that is granted the number of a sound and complete choice, and refused for its reason. -/
theorem answers_of_choice {kind : UnitKind} {first last : Int} {values : List Int} {plain : Prop}
    {α : Type} {wanted : Except Error (Option α)} {choice : Option α → Except NoNumber Int}
    {grant : Int → Except Error Bag} {refuse : Option α → NoNumber → Except Error Bag}
    (sound : ∀ w n, choice w = .ok n → first ≤ n ∧ n ≤ last ∧ n ∉ values)
    (grants : ∀ n, first ≤ n → n ≤ last → ∃ bag, grant n = .ok bag ∧ kind.heldNumber bag = .ok n)
    (refuses : ∀ w why, ∃ e, refuse w why = .error e ∧ (why = .exhausted → e.isExhausted = true))
    (nothing : plain → wanted = .ok none)
    (complete : plain → (∃ n, first ≤ n ∧ n ≤ last ∧ n ∉ values) → ∃ n, choice none = .ok n)
    (full : plain → (∀ n, first ≤ n → n ≤ last → n ∈ values) → choice none = .error .exhausted) :
    kind.Answers first last values plain
      (wanted.bind fun w =>
        match choice w with
        | .ok n => grant n
        | .error why => refuse w why) where
  granted bag h := by
    obtain ⟨w, -, h⟩ := bind_eq_ok_iff.mp h
    cases hchoice : choice w with
    | error why =>
      obtain ⟨e, he, -⟩ := refuses w why
      rw [hchoice] at h
      exact absurd he (ne_error_of_ok h)
    | ok n =>
      obtain ⟨low, high, free⟩ := sound w n hchoice
      obtain ⟨bag', granted, read⟩ := grants n low high
      rw [hchoice] at h
      obtain rfl := Except.ok.inj (granted.symm.trans h)
      exact ⟨n, read, low, high, free⟩
  free hplain hfree := by
    obtain ⟨n, hchoice⟩ := complete hplain hfree
    obtain ⟨low, high, -⟩ := sound none n hchoice
    obtain ⟨bag, granted, -⟩ := grants n low high
    exact ⟨bag, by rw [nothing hplain, Except.bind, hchoice]; exact granted⟩
  full hplain hfull := by
    obtain ⟨e, he, exhausted⟩ := refuses none .exhausted
    exact ⟨e, by rw [nothing hplain, Except.bind, full hplain hfull]; exact he, exhausted rfl⟩

/-- A claim that is granted the wanted number or the least free one. Its bounds may be tighter than
those of the pool, but not when nothing is wanted. -/
theorem answers_of_chooseNumber {kind : UnitKind} {first last low high : Int} {values : List Int}
    {plain : Prop} {α : Type} {wanted : Except Error (Option α)} {number : α → Int}
    {grant : Int → Except Error Bag} {refuse : Option α → NoNumber → Except Error Bag}
    (hlow : first ≤ low) (hhigh : high ≤ last) (same : plain → low = first ∧ high = last)
    (grants : ∀ n, first ≤ n → n ≤ last → ∃ bag, grant n = .ok bag ∧ kind.heldNumber bag = .ok n)
    (refuses : ∀ w why, ∃ e, refuse w why = .error e ∧ (why = .exhausted → e.isExhausted = true))
    (nothing : plain → wanted = .ok none) :
    kind.Answers first last values plain
      (wanted.bind fun w =>
        match chooseNumber low high (.ofList values) (w.map number) with
        | .ok n => grant n
        | .error why => refuse w why) := by
  refine answers_of_choice ?_ grants refuses nothing ?_ ?_
  · intro w n chosen
    obtain ⟨above, below, fresh⟩ := chooseNumber_free chosen
    exact ⟨Int.le_trans hlow above, Int.le_trans below hhigh, IntSet.not_mem_ofList.mp fresh⟩
  · rintro hplain ⟨n, above, below, fresh⟩
    obtain ⟨rfl, rfl⟩ := same hplain
    exact chooseNumber_of_free ⟨n, above, below, IntSet.not_mem_ofList.mpr fresh⟩
  · intro hplain full
    obtain ⟨rfl, rfl⟩ := same hplain
    exact chooseNumber_of_full fun n above below => IntSet.mem_ofList.mpr (full n above below)

end UnitKind

end ResourcePool
