import ResourcePool.Value

/-!
Bags of properties. A bag holds one value per key, in the order of the keys, so that two bags are
equal exactly when they hold the same properties.
-/

namespace ResourcePool

/-- The properties of a list, with one set: it replaces the one under the same key, or goes before
the first greater key. -/
def setEntry (key : String) (value : Value) : List (String × Value) → List (String × Value)
  | [] => [(key, value)]
  | (k, v) :: rest =>
    if key = k then (key, value) :: rest
    else if key < k then (key, value) :: (k, v) :: rest
    else (k, v) :: setEntry key value rest

/-- Keys in strictly ascending order. -/
def Ascending (entries : List (String × Value)) : Prop :=
  entries.Pairwise fun a b => a.1 < b.1

theorem mem_setEntry {key : String} {value : Value} {entries : List (String × Value)}
    {e : String × Value} (h : e ∈ setEntry key value entries) : e = (key, value) ∨ e ∈ entries := by
  induction entries with
  | nil => simpa [setEntry] using h
  | cons head rest ih =>
    obtain ⟨k, v⟩ := head
    unfold setEntry at h
    split at h
    · rcases List.mem_cons.1 h with h | h
      · exact .inl h
      · exact .inr (List.mem_cons_of_mem _ h)
    · split at h
      · exact List.mem_cons.1 h
      · rcases List.mem_cons.1 h with h | h
        · exact .inr (h ▸ List.mem_cons_self)
        · exact (ih h).imp_right (List.mem_cons_of_mem _)

theorem Ascending.setEntry {key : String} {value : Value} {entries : List (String × Value)}
    (h : Ascending entries) : Ascending (setEntry key value entries) := by
  induction entries with
  | nil => exact List.pairwise_singleton _ _
  | cons head rest ih =>
    obtain ⟨k, v⟩ := head
    obtain ⟨before, tail⟩ := List.pairwise_cons.1 h
    unfold ResourcePool.setEntry
    split
    · case isTrue same =>
      subst same
      exact List.pairwise_cons.2 ⟨before, tail⟩
    · case isFalse differ =>
      split
      · case isTrue lt =>
        refine List.pairwise_cons.2 ⟨fun e he => ?_, h⟩
        rcases List.mem_cons.1 he with rfl | he
        · exact lt
        · exact String.lt_trans lt (before e he)
      · case isFalse ge =>
        have lt : k < key := by
          refine Decidable.byContradiction fun not => differ ?_
          exact String.le_antisymm (String.not_lt.1 not) (String.not_lt.1 ge)
        refine List.pairwise_cons.2 ⟨fun e he => ?_, ih tail⟩
        rcases mem_setEntry he with rfl | he
        · exact lt
        · exact before e he

/-- A bag of properties. -/
structure Bag where
  entries : List (String × Value)
  ascending : Ascending entries
deriving DecidableEq

namespace Bag

def empty : Bag := ⟨[], List.Pairwise.nil⟩

/-- The bag with a property set. -/
def set (bag : Bag) (key : String) (value : Value) : Bag :=
  ⟨setEntry key value bag.entries, bag.ascending.setEntry⟩

/-- The bag of a list of properties; of two with the same key the later counts. -/
def ofList (entries : List (String × Value)) : Bag :=
  entries.foldl (fun bag e => bag.set e.1 e.2) empty

/-- The value under a key. -/
def get? (bag : Bag) (key : String) : Option Value :=
  bag.entries.lookup key

/-! ### Reading a property -/

/-- The value under a key that must be there. -/
def require (bag : Bag) (key : String) (scope : Scope) : Except Error Value :=
  match bag.get? key with
  | some v => .ok v
  | none => .error (.missing key scope)

/-- The text under a key. -/
def text (bag : Bag) (key : String) (scope : Scope) : Except Error String := do
  match ← bag.require key scope with
  | .text s => .ok s
  | other => .error (.notText key scope other.plain)

/-- The 64-bit integer under a key. -/
def int64 (bag : Bag) (key : String) (scope : Scope) : Except Error Int64 := do
  (← bag.require key scope).toInt64

/-- The integer of any size under a key. -/
def integer (bag : Bag) (key : String) (scope : Scope) : Except Error Int := do
  (← bag.require key scope).toInteger

/-- The 64-bit integer under a key that may be absent. -/
def int64? (bag : Bag) (key : String) : Except Error (Option Int64) :=
  match bag.get? key with
  | some v => v.toInt64.map some
  | none => .ok none

/-- Whether the value under a key is `true`; a value that is no truth value counts as `false`. -/
def flag (bag : Bag) (key : String) : Bool :=
  bag.get? key == some (.bool true)

end Bag

/-! ### Setting and reading back -/

theorem lookup_entry (k k' : String) (value : Value) (rest : List (String × Value)) :
    ((k', value) :: rest).lookup k = if k = k' then some value else rest.lookup k := by
  rw [List.lookup_cons]
  by_cases h : k = k'
  · subst h
    rw [beq_self_eq_true, if_pos rfl]
  · rw [beq_eq_false_iff_ne.2 h, if_neg h]

theorem lookup_setEntry (key k : String) (value : Value) (entries : List (String × Value)) :
    (setEntry key value entries).lookup k =
      if k = key then some value else entries.lookup k := by
  induction entries with
  | nil => rw [setEntry, lookup_entry]
  | cons head rest ih =>
    obtain ⟨k', v⟩ := head
    unfold setEntry
    split
    · case isTrue same =>
      subst same
      simp only [lookup_entry]
      split <;> rfl
    · split
      · rw [lookup_entry]
      · case isFalse differ _ =>
        simp only [lookup_entry, ih]
        by_cases h : k = k'
        · simp [h, Ne.symm differ]
        · simp [h]

@[simp] theorem Bag.get?_set (bag : Bag) (key k : String) (value : Value) :
    (bag.set key value).get? k = if k = key then some value else bag.get? k :=
  lookup_setEntry key k value bag.entries

end ResourcePool
