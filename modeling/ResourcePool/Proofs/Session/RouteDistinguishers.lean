import ResourcePool.Proofs.Pool.RouteDistinguisher
import ResourcePool.Proofs.Session.Run

/-! Sessions of a pool of route distinguishers. A pool grants no text that is held, so whatever runs on
it leaves distinct texts, and two of them denote the same distinguisher only where a needless zero
stands in an address. Such a zero is enough: the pool takes the address as it is spelt. -/

namespace ResourcePool
namespace RouteDistinguisher
variable {bags : List Bag} {rds : List RouteDistinguisher}

/-- The held resources grant the distinct texts of valid distinguishers. -/
structure Grants (bags : List Bag) (rds : List RouteDistinguisher) : Prop where
  resources : bags = (rds.map text).map resource
  valid : ∀ rd ∈ rds, rd.Valid
  distinct : (rds.map text).Nodup

namespace Grants

theorem nil : Grants [] [] := ⟨rfl, by simp, .nil⟩

theorem claim (h : Grants bags rds) {properties input bag : Bag} {script : Option (List UInt64)}
    (granted : (Snapshot.allocate ⟨properties, bags, input⟩ .routeDistinguisher script).result = .ok bag) :
    ∃ rd, Grants (bags ++ [bag]) (rds ++ [rd]) := by
  rw [Snapshot.allocate_routeDistinguisher, RouteDistinguisherPool.allocate_eq_ok_iff, h.resources,
    RouteDistinguisherPool.taken_resources] at granted
  obtain ⟨rd, described, fresh, rfl⟩ := granted
  refine ⟨rd, ?_, ?_, ?_⟩
  · rw [h.resources, List.map_append, List.map_append]
    rfl
  · intro made hmade
    rcases List.mem_append.mp hmade with old | new
    · exact h.valid made old
    · rw [List.mem_singleton.mp new]
      exact RouteDistinguisherPool.valid_of_describe described
  · rw [List.map_append, List.map_singleton]
    exact List.nodup_append.mpr ⟨h.distinct, List.nodup_singleton _, fun t ht u hu same =>
      fresh (List.mem_singleton.mp hu ▸ same ▸ ht)⟩

theorem giveBack (h : Grants bags rds) (index : Nat) :
    Grants (bags.eraseIdx index) (rds.eraseIdx index) where
  resources := by rw [h.resources, List.eraseIdx_map, List.eraseIdx_map]
  valid rd hrd := h.valid rd (List.mem_of_mem_eraseIdx hrd)
  distinct := h.distinct.sublist ((List.eraseIdx_sublist rds index).map text)

/-- Texts of one pair of integers differ in their administrators, or a needless zero tells them apart. -/
theorem pairwise (h : Grants bags rds) :
    (rds.map text).Pairwise fun t u => ∀ d e, Distinguisher.read? t = some d →
      Distinguisher.read? u = some e → d.pair = e.pair →
        d.addressed ≠ e.addressed ∨ Distinguisher.Padded t ∨ Distinguisher.Padded u := by
  refine h.distinct.imp_of_mem fun {t u} ht hu differ d e hd he same => ?_
  obtain ⟨rd, hrd, rfl⟩ := List.mem_map.mp ht
  obtain ⟨rd', hrd', rfl⟩ := List.mem_map.mp hu
  by_contra bare
  simp only [not_or, not_not] at bare
  obtain ⟨kind, bare, bare'⟩ := bare
  have denoted : d = e := by
    cases d
    cases e
    cases kind
    cases same
    rfl
  exact differ ((h.valid rd hrd).text_eq (h.valid rd' hrd') bare bare' (hd.trans (denoted ▸ he.symm)))

end Grants
end RouteDistinguisher

namespace Session

/-- Whatever is claimed and given back in a pool of route distinguishers, the held texts are distinct and
each denotes a distinguisher. Two texts that denote the same pair of integers have an AS number and an
address for their administrators, unless one of them spells an address with a needless zero. -/
theorem held_distinguishers (properties : Bag) (moves : List Move) :
    ∃ texts : List String, (start .routeDistinguisher properties).after (moves.map Move.step) =
        ⟨.routeDistinguisher, properties, texts.map RouteDistinguisher.resource⟩ ∧
      texts.Nodup ∧ (∀ t ∈ texts, ∃ d, Distinguisher.read? t = some d) ∧
      texts.Pairwise fun t u => ∀ d e, Distinguisher.read? t = some d →
        Distinguisher.read? u = some e → d.pair = e.pair →
          d.addressed ≠ e.addressed ∨ Distinguisher.Padded t ∨ Distinguisher.Padded u := by
  have kept : ∃ held, (start .routeDistinguisher properties).after (moves.map Move.step) =
      ⟨.routeDistinguisher, properties, held⟩ ∧ ∃ rds, RouteDistinguisher.Grants held rds := by
    refine after_moves ?_ ?_ moves ⟨[], .nil⟩
    · rintro held input script bag ⟨rds, h⟩ granted
      obtain ⟨rd, h⟩ := h.claim granted
      exact ⟨rds ++ [rd], h⟩
    · rintro held index ⟨rds, h⟩
      exact ⟨rds.eraseIdx index, h.giveBack index⟩
  obtain ⟨held, run, rds, h⟩ := kept
  refine ⟨rds.map RouteDistinguisher.text, ?_, h.distinct, ?_, h.pairwise⟩
  · rw [run, h.resources]
  · intro t ht
    obtain ⟨rd, hrd, rfl⟩ := List.mem_map.mp ht
    exact (h.valid rd hrd).exists_read?

/-- The input that asks for an address and an assigned number of five. -/
def fifthOf (ipv4 : String) : Bag := .ofList [("ipv4", .text ipv4), ("assignedNumber", .int 5)]

/-- A distinguisher is granted again when a zero is put in front of its address. -/
theorem distinguisher_granted_twice :
    ((start .routeDistinguisher .empty).after
        ([.claim (fifthOf "10.0.0.1") none, .claim (fifthOf "010.0.0.1") none].map Move.step)).held =
      [RouteDistinguisher.resource "10.0.0.1:5", RouteDistinguisher.resource "010.0.0.1:5"] ∧
    Distinguisher.read? "10.0.0.1:5" = some ⟨true, 167772161, 5⟩ ∧
    Distinguisher.read? "010.0.0.1:5" = some ⟨true, 167772161, 5⟩ := by
  decide

end Session
end ResourcePool
