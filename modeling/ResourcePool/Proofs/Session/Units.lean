import ResourcePool.Proofs.Session.Run
import ResourcePool.Proofs.Unit.Address
import ResourcePool.Proofs.Unit.RandomInt32
import ResourcePool.Proofs.Unit.UniqueId
import ResourcePool.Proofs.Unit.Vlan

/-! Sessions of a pool of numbers. Claims and returns keep the held numbers distinct and inside the
bounds of the pool. Hence the free numbers that a pool reports are those it has, and it hands out as
many of them and no more. -/

namespace ResourcePool

/-! ### Counting -/

/-- The numbers of the bounds that are not among those held. -/
def vacancies (first last : Int) (values : List Int) : List Int :=
  (Int.range first (last + 1)).filter (· ∉ values)

/-- How many of them there are. -/
def vacant (first last : Int) (values : List Int) : Nat := (vacancies first last values).length

section Vacant
variable {first last n : Int} {values : List Int}

theorem nodup_vacancies : (vacancies first last values).Nodup := nodup_range.filter _

theorem mem_vacancies : n ∈ vacancies first last values ↔ first ≤ n ∧ n ≤ last ∧ n ∉ values := by
  rw [vacancies, List.mem_filter, Int.mem_range_iff, Int.lt_add_one_iff, decide_eq_true_iff, and_assoc]

theorem vacant_pos_iff : 0 < vacant first last values ↔ ∃ n, first ≤ n ∧ n ≤ last ∧ n ∉ values := by
  rw [vacant, List.length_pos_iff_exists_mem]
  exact exists_congr fun _ => mem_vacancies

theorem vacant_eq_zero_iff :
    vacant first last values = 0 ↔ ∀ n, first ≤ n → n ≤ last → n ∈ values := by
  rw [← Nat.le_zero, ← Nat.not_lt, vacant_pos_iff]
  simp only [not_exists, not_and, not_not]

/-- Distinct numbers of the bounds leave as many free as there are more numbers than those. -/
theorem vacant_eq (distinct : values.Nodup) (inside : ∀ n ∈ values, first ≤ n ∧ n ≤ last) :
    (vacant first last values : Int) = max (last - first + 1 - values.length) 0 := by
  have parted : (values ++ vacancies first last values).Perm (Int.range first (last + 1)) := by
    refine (List.perm_ext_iff_of_nodup ?_ nodup_range).mpr fun n => ?_
    · exact List.nodup_append.mpr ⟨distinct, nodup_vacancies, fun m hm k hk same =>
        (mem_vacancies.mp hk).2.2 (same ▸ hm)⟩
    · rw [List.mem_append, mem_vacancies, Int.mem_range_iff, Int.lt_add_one_iff]
      constructor
      · rintro (hn | ⟨low, high, -⟩)
        · exact inside n hn
        · exact ⟨low, high⟩
      · rintro ⟨low, high⟩
        by_cases hn : n ∈ values
        · exact .inl hn
        · exact .inr ⟨low, high, hn⟩
  have count := parted.length_eq
  rw [List.length_append, Int.range, List.length_map, List.length_range] at count
  rw [vacant]
  omega

theorem vacant_append (low : first ≤ n) (high : n ≤ last) (fresh : n ∉ values) :
    vacant first last (values ++ [n]) + 1 = vacant first last values := by
  have taken : n ∉ vacancies first last (values ++ [n]) := fun h =>
    (mem_vacancies.mp h).2.2 (List.mem_append_right _ (List.mem_singleton_self n))
  have parted : (n :: vacancies first last (values ++ [n])).Perm (vacancies first last values) := by
    refine (List.perm_ext_iff_of_nodup ?_ nodup_vacancies).mpr fun k => ?_
    · exact List.nodup_cons.mpr ⟨taken, nodup_vacancies⟩
    · rw [List.mem_cons, mem_vacancies, mem_vacancies, List.mem_append, List.mem_singleton, not_or]
      constructor
      · rintro (rfl | ⟨hlow, hhigh, old, -⟩)
        · exact ⟨low, high, fresh⟩
        · exact ⟨hlow, hhigh, old⟩
      · rintro ⟨hlow, hhigh, old⟩
        by_cases same : k = n
        · exact .inl same
        · exact .inr ⟨hlow, hhigh, old, same⟩
  exact parted.length_eq

end Vacant

/-! ### What claims and returns keep -/

namespace UnitKind
variable {kind : UnitKind} {properties : Bag} {first last : Int} {bags : List Bag} {values : List Int}

/-- The held resources are read back as distinct numbers of the bounds. -/
structure Holds (kind : UnitKind) (first last : Int) (bags : List Bag) (values : List Int) : Prop where
  read : bags.map kind.heldNumber = values.map .ok
  distinct : values.Nodup
  inside : ∀ n ∈ values, first ≤ n ∧ n ≤ last

namespace Holds

theorem nil : kind.Holds first last [] [] := ⟨rfl, .nil, by simp⟩

/-- A granted claim adds a number that was free. -/
theorem claim (h : kind.Holds first last bags values) (exact_ : kind.Exact properties first last)
    {input bag : Bag} {script : Option (List UInt64)}
    (granted : (Snapshot.allocate ⟨properties, bags, input⟩ kind.kind script).result = .ok bag) :
    ∃ n, kind.Holds first last (bags ++ [bag]) (values ++ [n]) ∧
      vacant first last (values ++ [n]) + 1 = vacant first last values := by
  obtain ⟨n, read, low, high, fresh⟩ := (exact_.answers input script h.read).granted bag granted
  refine ⟨n, ⟨map_read_append h.read read, ?_, ?_⟩, vacant_append low high fresh⟩
  · exact List.nodup_append.mpr ⟨h.distinct, List.nodup_singleton n, fun m hm k hk same =>
      fresh (List.mem_singleton.mp hk ▸ same ▸ hm)⟩
  · intro m hm
    rcases List.mem_append.mp hm with hm | hm
    · exact h.inside m hm
    · obtain rfl := List.mem_singleton.mp hm
      exact ⟨low, high⟩

theorem giveBack (h : kind.Holds first last bags values) (index : Nat) :
    kind.Holds first last (bags.eraseIdx index) (values.eraseIdx index) where
  read := map_read_eraseIdx h.read index
  distinct := h.distinct.sublist (List.eraseIdx_sublist ..)
  inside n hn := h.inside n (List.mem_of_mem_eraseIdx hn)

theorem length_eq (h : kind.Holds first last bags values) : values.length = bags.length := by
  have := congrArg List.length h.read
  rw [List.length_map, List.length_map] at this
  exact this.symm

/-- Each plain claim takes one free number, as long as there is one. -/
theorem after_plain (exact_ : kind.Exact properties first last) (h : kind.Holds first last bags values)
    (scripts : List (Option (List UInt64))) :
    ∃ bags' values', (⟨kind.kind, properties, bags⟩ : Session).after
        (scripts.map (Step.allocate .empty)) = ⟨kind.kind, properties, bags'⟩ ∧
      kind.Holds first last bags' values' ∧
      vacant first last values' = vacant first last values - scripts.length := by
  induction scripts generalizing bags values with
  | nil => exact ⟨bags, values, rfl, h, rfl⟩
  | cons script rest ih =>
    rw [List.map_cons, Session.after_claim]
    have answers := exact_.answers .empty script h.read
    by_cases room : 0 < vacant first last values
    · obtain ⟨bag, granted⟩ := answers.free rfl (vacant_pos_iff.mp room)
      obtain ⟨n, h', less⟩ := h.claim exact_ granted
      obtain ⟨bags', values', run, holds, count⟩ := ih h'
      rw [granted]
      refine ⟨bags', values', run, holds, ?_⟩
      rw [count, List.length_cons]
      omega
    · -- Nothing is free: the claim is refused and the session stays as it is.
      obtain ⟨e, refused, -⟩ := answers.full rfl (vacant_eq_zero_iff.mp (by omega))
      obtain ⟨bags', values', run, holds, count⟩ := ih h
      rw [refused]
      refine ⟨bags', values', run, holds, ?_⟩
      rw [count]
      omega

end Holds

/-- Every pool that can be opened has bounds within which its claims are exact. -/
theorem exists_exact {pool : Pool}
    (builds : Pool.ofSnapshot kind.kind ⟨properties, [], .empty⟩ = .ok pool) (counts : kind.Counts properties) :
    ∃ first last, kind.bounds properties = .ok (first, last) ∧ kind.Exact properties first last := by
  cases kind with
  | address f =>
    obtain ⟨pool, opened, -⟩ := map_eq_ok_iff.mp builds
    obtain ⟨first, last, bounds⟩ := AddressPool.bounds_of_ofSnapshot opened
    exact ⟨first, last, bounds, exact_address bounds⟩
  | vlan =>
    obtain ⟨pool, opened, -⟩ := map_eq_ok_iff.mp builds
    obtain ⟨first, last, bounds⟩ := VlanPool.bounds_of_ofSnapshot opened
    exact ⟨first, last, bounds, exact_vlan bounds⟩
  | randomInt32 =>
    obtain ⟨pool, opened, -⟩ := map_eq_ok_iff.mp builds
    obtain ⟨first, last, bounds, order, low, high⟩ := RandomInt32Pool.bounds_of_ofSnapshot opened
    exact ⟨first, last, bounds, exact_randomInt32 bounds order low high⟩
  | uniqueId =>
    obtain ⟨pool, opened, -⟩ := map_eq_ok_iff.mp builds
    obtain ⟨bounds, -, -⟩ := UniqueIdPool.bounds_of_ofSnapshot opened counts
    exact ⟨pool.floor, pool.ceiling, bounds, exact_uniqueId opened counts⟩

/-- The held resources are read back as distinct numbers of the bounds; the reported room is what they
leave free; and plain claims are granted as often as that, and from then on refused for want of room. -/
structure Accounts (kind : UnitKind) (first last : Int) (s : Session) (values : List Int) : Prop where
  holds : kind.Holds first last s.held values
  capacity : (s.take .capacity).1 = .capacity (.ok ⟨vacant first last values, s.held.length⟩)
  granted (scripts : List (Option (List UInt64))) (script : Option (List UInt64)) :
    scripts.length < vacant first last values →
      ∃ bag, ((s.after (scripts.map (Step.allocate .empty))).take (.allocate .empty script)).1 =
        .allocated (.ok bag)
  refused (scripts : List (Option (List UInt64))) (script : Option (List UInt64)) :
    vacant first last values ≤ scripts.length →
      ∃ e, ((s.after (scripts.map (Step.allocate .empty))).take (.allocate .empty script)).1 =
        .allocated (.error e) ∧ e.isExhausted = true

theorem Holds.accounts (exact_ : kind.Exact properties first last)
    (h : kind.Holds first last bags values) :
    kind.Accounts first last ⟨kind.kind, properties, bags⟩ values := by
  refine ⟨h, ?_, ?_, ?_⟩
  · have size : (IntSet.ofList values).size = bags.length := by
      rw [IntSet.size_ofList h.distinct, h.length_eq]
    have room := vacant_eq h.distinct h.inside
    rw [h.length_eq] at room
    show Answer.capacity (Snapshot.capacity ⟨properties, bags, .empty⟩ kind.kind).result = _
    rw [exact_.capacity h.read, size, Capacity.of, room]
  · intro scripts script fewer
    obtain ⟨bags', values', run, holds, count⟩ := h.after_plain exact_ scripts
    obtain ⟨bag, granted⟩ :=
      (exact_.answers .empty script holds.read).free rfl (vacant_pos_iff.mp (by omega))
    refine ⟨bag, ?_⟩
    rw [run]
    exact congrArg Answer.allocated granted
  · intro scripts script enough
    obtain ⟨bags', values', run, holds, count⟩ := h.after_plain exact_ scripts
    obtain ⟨e, refused, exhausted⟩ :=
      (exact_.answers .empty script holds.read).full rfl (vacant_eq_zero_iff.mp (by omega))
    refine ⟨e, ?_, exhausted⟩
    rw [run]
    exact congrArg Answer.allocated refused

end UnitKind

namespace Session

/-- Whatever is claimed and given back in a pool of numbers that can be opened, what is held and what is
free are exact. -/
theorem exists_accounts_after {kind : UnitKind} {properties : Bag} {pool : Pool}
    (builds : Pool.ofSnapshot kind.kind ⟨properties, [], .empty⟩ = .ok pool)
    (counts : kind.Counts properties) (moves : List Move) :
    ∃ first last values, kind.bounds properties = .ok (first, last) ∧
      kind.Accounts first last ((start kind.kind properties).after (moves.map Move.step)) values := by
  obtain ⟨first, last, bounds, exact_⟩ := kind.exists_exact builds counts
  have kept : ∃ held, (start kind.kind properties).after (moves.map Move.step) =
      ⟨kind.kind, properties, held⟩ ∧ ∃ values, kind.Holds first last held values := by
    refine after_moves ?_ ?_ moves ⟨[], .nil⟩
    · rintro held input script bag ⟨values, h⟩ granted
      obtain ⟨n, h, -⟩ := h.claim exact_ granted
      exact ⟨values ++ [n], h⟩
    · rintro held index ⟨values, h⟩
      exact ⟨values.eraseIdx index, h.giveBack index⟩
  obtain ⟨held, run, values, h⟩ := kept
  refine ⟨first, last, values, bounds, ?_⟩
  rw [run]
  exact h.accounts exact_

/-- Ids with a counter from zero to five. -/
def sixIds : Bag := .ofList [("idFormat", .text "VPN-\x7bcounter\x7d"), ("to", .int 5)]

/-- An id is claimed by its counter, another one follows it, and the first is given back. -/
theorem exists_accounts_after_six_ids :
    ∃ values, UnitKind.Accounts .uniqueId 0 5
      ((start .uniqueId sixIds).after [.allocate (.ofList [("desiredValue", .int 3)]) none,
        .allocate .empty none, .release 0]) values := by
  obtain ⟨pool, builds⟩ : ∃ pool,
      Pool.ofSnapshot UnitKind.uniqueId.kind ⟨sixIds, [], .empty⟩ = .ok pool := ⟨_, rfl⟩
  have template : sixIds.get? "idFormat" = some (.text "VPN-\x7bcounter\x7d") := rfl
  have counts : UnitKind.Counts .uniqueId sixIds := ⟨by decide, _, template, rfl⟩
  obtain ⟨first, last, values, bounds, accounts⟩ := exists_accounts_after builds counts
    [.claim (.ofList [("desiredValue", .int 3)]) none, .claim .empty none, .giveBack 0]
  cases bounds
  exact ⟨values, accounts⟩

end Session
end ResourcePool
