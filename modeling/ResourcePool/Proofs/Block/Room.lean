import Mathlib.Data.List.Nodup
import ResourcePool.Choice

/-! Room among blocks, told by the numbers that belong to them. A held list is `Packed` when it could
have been granted: its blocks have members, lie inside the parent and share none. In the order of
their ends such blocks are in the order of their starts as well, which is all that a search needs to
know of them. -/

namespace ResourcePool
namespace Block

instance : Membership Int Block := ⟨fun b n => b.start ≤ n ∧ n < b.stop⟩

theorem mem_iff {b : Block} {n : Int} : n ∈ b ↔ b.start ≤ n ∧ n < b.stop := Iff.rfl

/-- No number belongs to both blocks. -/
def Apart (a b : Block) : Prop := ∀ n ∈ a, n ∉ b

theorem Apart.symm {a b : Block} (h : a.Apart b) : b.Apart a := fun n hb ha => h n ha hb

theorem start_mem {b : Block} (h : 0 < b.size) : b.start ∈ b :=
  mem_iff.mpr ⟨Int.le_refl _, by unfold stop; omega⟩

theorem apart_of_not_overlaps {a b : Block} (h : ¬a.Overlaps b) : a.Apart b := by
  intro n ha hb
  rw [mem_iff] at ha hb
  exact h ⟨by omega, by omega⟩

/-- Blocks with members have one in common as soon as they overlap: the later start. -/
theorem apart_iff_not_overlaps {a b : Block} (ha : 0 < a.size) (hb : 0 < b.size) :
    a.Apart b ↔ ¬a.Overlaps b := by
  refine ⟨fun h overlap => ?_, apart_of_not_overlaps⟩
  obtain ⟨left, right⟩ := overlap
  have hsa := start_mem ha
  have hsb := start_mem hb
  rw [mem_iff] at hsa hsb
  rcases Int.le_total a.start b.start with le | le
  · exact h b.start ⟨le, right⟩ ⟨by omega, hsb.2⟩
  · exact h a.start ⟨by omega, hsa.2⟩ ⟨le, left⟩

theorem not_contains_of_apart {b c : Block} (hb : 0 < b.size) (h : b.Apart c) : ¬c.Contains b := by
  intro within
  have first := start_mem hb
  refine h b.start first ⟨within.1, ?_⟩
  exact Int.lt_of_lt_of_le first.2 within.2

end Block

/-! ### Lists of blocks -/

theorem map_sortBy {α β : Type} (key : β → Int) (g : α → β) (items : List α) :
    (sortBy (fun a => key (g a)) items).map g = sortBy key (items.map g) := by
  have insert : ∀ (a : α) (rest : List α),
      (insertBy (fun a => key (g a)) a rest).map g = insertBy key (g a) (rest.map g) := by
    intro a rest
    induction rest with
    | nil => rfl
    | cons c rest ih =>
      simp only [insertBy, List.map_cons]
      split
      · rfl
      · rw [List.map_cons, ih]
  induction items with
  | nil => rfl
  | cons a rest ih =>
    show (insertBy _ a (sortBy _ rest)).map g = insertBy key (g a) (sortBy key (rest.map g))
    rw [insert, ih]

/-- Where no two keys are equal, there is only one order of the keys. -/
theorem sortBy_perm {α : Type} {key : α → Int} {items items' : List α} (p : items'.Perm items)
    (distinct : (items.map key).Nodup) : sortBy key items' = sortBy key items := by
  have order := perm_sortBy key items
  have order' := (perm_sortBy key items').trans p
  refine List.Perm.eq_of_pairwise (fun a b ha hb le ge => ?_) (pairwise_sortBy key items')
    (pairwise_sortBy key items) (order'.trans order.symm)
  exact List.inj_on_of_nodup_map distinct (order'.mem_iff.mp ha) (order.mem_iff.mp hb)
    (Int.le_antisymm le ge)

/-- Blocks that have members and share none have different ends. -/
theorem nodup_stops {blocks : List Block} (filled : ∀ b ∈ blocks, 0 < b.size)
    (apart : blocks.Pairwise Block.Apart) : (blocks.map Block.stop).Nodup := by
  refine List.pairwise_map.mpr (apart.imp_of_mem fun {b c} hb hc hap same => ?_)
  have hb := filled b hb
  have hc := filled c hc
  refine hap (b.stop - 1) (Block.mem_iff.mpr ?_) (Block.mem_iff.mpr ?_)
  all_goals
    simp only [Block.stop] at same ⊢
    omega

/-- No block lies inside one that starts before it. -/
def Unnested (held : List Block) : Prop :=
  ∀ b ∈ held, ∀ c ∈ held, c.Contains b → c.start = b.start

/-- The held blocks have members, lie inside the parent and share no number. -/
structure Packed (parent : Block) (held : List Block) : Prop where
  filled : ∀ b ∈ held, 0 < b.size
  inside : ∀ b ∈ held, parent.Contains b
  apart : held.Pairwise Block.Apart

namespace Packed
variable {parent : Block} {held held' : List Block}

theorem perm (h : Packed parent held) (p : held'.Perm held) : Packed parent held' where
  filled b hb := h.filled b (p.mem_iff.mp hb)
  inside b hb := h.inside b (p.mem_iff.mp hb)
  apart := (p.pairwise_iff fun hab => hab.symm).mpr h.apart

theorem append_singleton (h : Packed parent held) {b : Block} (filled : 0 < b.size)
    (inside : parent.Contains b) (apart : ∀ c ∈ held, c.Apart b) : Packed parent (held ++ [b]) where
  filled c hc := by
    rcases List.mem_append.mp hc with hc | hc
    · exact h.filled c hc
    · obtain rfl := List.mem_singleton.mp hc
      exact filled
  inside c hc := by
    rcases List.mem_append.mp hc with hc | hc
    · exact h.inside c hc
    · obtain rfl := List.mem_singleton.mp hc
      exact inside
  apart := List.pairwise_append.mpr ⟨h.apart, List.pairwise_singleton _ _, fun c hc b' hb' => by
    obtain rfl := List.mem_singleton.mp hb'
    exact apart c hc⟩

theorem unnested (h : Packed parent held) : Unnested held := by
  have differ : ∀ {b c : Block}, b ∈ held → b.Apart c → c.Contains b → c.start = b.start :=
    fun hb hap within => absurd within (Block.not_contains_of_apart (h.filled _ hb) hap)
  have ahead : held.Pairwise fun b c => c.Contains b → c.start = b.start :=
    h.apart.imp_of_mem fun hb _ hap => differ hb hap
  have behind : held.Pairwise (flip fun b c => c.Contains b → c.start = b.start) :=
    h.apart.imp_of_mem fun _ hc hap => differ hc hap.symm
  intro b hb c hc
  exact List.Pairwise.forall_of_forall_of_flip (fun _ _ _ => rfl) ahead behind hb hc

end Packed

/-- Where no block is nested, the order of ends is the order of starts. -/
theorem Unnested.pairwise_start {held : List Block} (h : Unnested held)
    (sorted : held.Pairwise (·.stop ≤ ·.stop)) : held.Pairwise (·.start ≤ ·.start) := by
  refine sorted.imp_of_mem fun {b c} hb hc le => ?_
  by_cases before : b.start ≤ c.start
  · exact before
  · have within : c.Contains b := ⟨by omega, le⟩
    have := h b hb c hc within
    omega

end ResourcePool
