import Mathlib.Data.List.InsertIdx
import Mathlib.Data.List.Perm.Basic
import ResourcePool.Pool.Basic

/-! What it takes for a computation to succeed: each of its steps succeeds. Records leave no trace in
results, so these facts carry over from `Except` to `Logged`. -/

namespace ResourcePool

section Except
variable {ε α β : Type} {x : Except ε α}

theorem bind_eq_ok_iff {g : α → Except ε β} {b : β} :
    x.bind g = .ok b ↔ ∃ a, x = .ok a ∧ g a = .ok b := by
  cases x <;> simp [Except.bind]

theorem map_eq_ok_iff {g : α → β} {b : β} : x.map g = .ok b ↔ ∃ a, x = .ok a ∧ g a = b := by
  cases x <;> simp [Except.map]

theorem map_bind {γ : Type} (g : α → β) (k : β → Except ε γ) :
    (x.map g).bind k = x.bind fun a => k (g a) := by
  cases x <;> rfl

theorem ne_error_of_ok {a : α} {e : ε} (h : x = .ok a) : x ≠ .error e := by
  rw [h]
  exact nofun

theorem toOption_eq_some_iff {a : α} : x.toOption = some a ↔ x = .ok a := by
  cases x <;> simp [Except.toOption]

end Except

section MapM
variable {α β γ : Type}

theorem mapM_eq_ok_iff {read : α → Except Error β} {items : List α} {values : List β} :
    items.mapM read = .ok values ↔ items.map read = values.map .ok := by
  induction items generalizing values with
  | nil => simp [pure, Except.pure, eq_comm]
  | cons a rest ih =>
    rw [List.mapM_cons]
    constructor
    · intro h
      obtain ⟨b, hb, h⟩ := bind_eq_ok_iff.mp h
      obtain ⟨bs, hbs, h⟩ := bind_eq_ok_iff.mp h
      cases h
      rw [List.map_cons, List.map_cons, hb, ih.mp hbs]
    · intro h
      obtain ⟨b, bs, rfl, hb, hbs⟩ := List.map_eq_cons_iff.mp h.symm
      exact bind_eq_ok_iff.mpr ⟨b, hb.symm, bind_eq_ok_iff.mpr ⟨bs, ih.mpr hbs.symm, rfl⟩⟩

theorem mapM_map (read : α → Except Error β) (g : β → γ) (items : List α) :
    items.mapM (fun a => (read a).map g) = (items.mapM read).map (List.map g) := by
  induction items with
  | nil => rfl
  | cons a rest ih =>
    rw [List.mapM_cons, List.mapM_cons, ih]
    cases read a with
    | error => rfl
    | ok b => cases rest.mapM read <;> rfl

/-! ### Lists that are read item by item -/

variable {ε : Type} {read : α → Except ε β} {items : List α} {values : List β}

theorem map_read_map {α' β' : Type} {read' : α' → Except ε β'} {g : α → α'} {k : β → β'}
    (h : items.map read = values.map .ok) (kept : ∀ a b, read a = .ok b → read' (g a) = .ok (k b)) :
    (items.map g).map read' = (values.map k).map .ok := by
  induction items generalizing values with
  | nil =>
    obtain rfl := List.map_eq_nil_iff.mp h.symm
    rfl
  | cons a rest ih =>
    obtain ⟨b, bs, rfl, hb, hbs⟩ := List.map_eq_cons_iff.mp h.symm
    rw [List.map_cons, List.map_cons, List.map_cons, List.map_cons, ih hbs.symm, kept a b hb.symm]

theorem map_read_congr {read' : α → Except ε β}
    (same : ∀ a ∈ items, ∀ b, read a = .ok b ↔ read' a = .ok b) :
    items.map read = values.map .ok ↔ items.map read' = values.map .ok := by
  induction items generalizing values with
  | nil => rfl
  | cons a rest ih =>
    cases values with
    | nil => simp
    | cons b bs =>
      rw [List.map_cons, List.map_cons, List.map_cons, List.cons.injEq, List.cons.injEq,
        same a List.mem_cons_self b, ih fun c hc => same c (List.mem_cons_of_mem a hc)]

theorem exists_perm_read {items' : List α} (p : items'.Perm items) (h : items.map read = values.map .ok) :
    ∃ values' : List β, values'.Perm values ∧ items'.map read = values'.map .ok := by
  have order : (items'.map read).Perm (values.map .ok) := h ▸ p.map read
  obtain ⟨values', read', order⟩ :=
    (congrFun₂ (List.eq_map_comp_perm Except.ok) (items'.map read) values).mpr order
  exact ⟨values', order, read'⟩

theorem length_of_read (h : items.map read = values.map .ok) : values.length = items.length := by
  have length := congrArg List.length h
  rw [List.length_map, List.length_map] at length
  exact length.symm

theorem exists_of_mem_read {b : β} (h : items.map read = values.map .ok) (hb : b ∈ values) :
    ∃ a ∈ items, read a = .ok b := by
  have mem : Except.ok b ∈ items.map read := h ▸ List.mem_map_of_mem hb
  exact List.mem_map.mp mem

theorem map_read_append {a : α} {b : β} (h : items.map read = values.map .ok) (ha : read a = .ok b) :
    (items ++ [a]).map read = (values ++ [b]).map .ok := by
  rw [List.map_append, List.map_append, h, List.map_singleton, ha]
  rfl

theorem map_read_eraseIdx (h : items.map read = values.map .ok) (index : Nat) :
    (items.eraseIdx index).map read = (values.eraseIdx index).map .ok := by
  rw [← List.eraseIdx_map, h, List.eraseIdx_map]

end MapM

theorem Snapshot.ofHeld_eq_ok_iff {s : Snapshot} {β : Type} {read : Bag → Except Error β}
    {values : List β} : s.ofHeld read = .ok values ↔ s.held.map read = values.map .ok :=
  mapM_eq_ok_iff

theorem Logged.result_lift {α : Type} (x : Except Error α) : (liftM x : Logged α).result = x := rfl

end ResourcePool
