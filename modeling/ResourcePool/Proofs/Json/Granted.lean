import ResourcePool.Proofs.Json.Bag
import ResourcePool.Proofs.Pool.Call

/-! Granted resources as documents. Whatever its kind, a pool writes nothing but truth values, words and
texts into a resource, so the resource that is read from its document is the one that was granted. -/

namespace ResourcePool

/-- The values that come back from a document as they are. -/
def Value.isPlain : Value → Bool
  | .bool _ | .int _ | .text _ => true
  | .big _ | .float _ => false

/-- Every property is a truth value, a word or a text. -/
def Bag.Plain (bag : Bag) : Prop := ∀ e ∈ bag.entries, e.2.isPlain = true

namespace Bag.Plain
variable {bag : Bag}

theorem empty : Bag.empty.Plain := fun _ he => absurd he List.not_mem_nil

theorem set (h : bag.Plain) (key : String) {value : Value} (plain : value.isPlain = true) :
    (bag.set key value).Plain := by
  intro e he
  rcases mem_setEntry he with rfl | he
  · exact plain
  · exact h e he

theorem exact_ (h : bag.Plain) : bag.Exact := by
  rintro ⟨key, value⟩ he
  have plain := h _ he
  cases value with
  | float x => cases plain
  | _ => rfl

theorem reread (h : bag.Plain) : bag.reread = bag := by
  have same : ∀ e ∈ bag.entries, (e.1, e.2.reread) = e := by
    rintro ⟨key, value⟩ he
    have plain := h _ he
    cases value with
    | big n => cases plain
    | _ => rfl
  refine Bag.ext ?_
  show bag.entries.map (fun e => (e.1, e.2.reread)) = bag.entries
  rw [List.map_congr_left same, List.map_id']

end Bag.Plain

/-! ### What is granted -/

/-- A computation that grants a resource grants one of plain values. -/
def Logged.Grants (x : Logged Bag) : Prop := ∀ bag, x.result = .ok bag → bag.Plain

namespace Logged

theorem grants_bind {α : Type} {x : Logged α} {f : α → Logged Bag} (h : ∀ a, (f a).Grants) :
    (x >>= f).Grants := by
  intro bag granted
  rw [result_bind] at granted
  obtain ⟨a, -, granted⟩ := bind_eq_ok_iff.mp granted
  exact h a bag granted

theorem grants_fail (e : Error) : (fail e).Grants := nofun

theorem grants_pure {bag : Bag} (h : bag.Plain) : (pure bag : Logged Bag).Grants := by
  intro bag' same
  cases same
  exact h

end Logged

open Logged

section Pools
variable {f : Family}

theorem AddressPool.grants (pool : AddressPool f) (input : Bag) : (pool.allocate input).Grants := by
  refine grants_bind fun _ => grants_bind fun wanted => ?_
  split
  case h_1 n _ =>
    exact grants_bind fun address => grants_bind fun _ => grants_pure (Bag.Plain.empty.set _ rfl)
  case h_2 why _ =>
    cases why with
    | outside => exact grants_bind fun _ => grants_fail _
    | taken => exact grants_bind fun _ => grants_fail _
    | exhausted => exact grants_bind fun _ => grants_bind fun _ => grants_fail _

theorem NetworkPool.grants (pool : NetworkPool f) (input : Bag) : (pool.allocate input).Grants := by
  have exhausted : ∀ n, (pool.exhausted n : Logged Bag).Grants := fun n =>
    grants_bind fun _ => grants_bind fun _ => grants_fail _
  refine grants_bind fun requested => grants_bind fun mask => grants_bind fun _ =>
    grants_bind fun wanted => ?_
  split
  case h_1 start _ =>
    refine grants_bind fun address => grants_bind fun _ => grants_bind fun _ => grants_pure ?_
    exact ((Bag.Plain.empty.set _ rfl).set _ rfl).set _ rfl
  case h_2 why _ =>
    cases why with
    | misaligned next => exact grants_bind fun _ => grants_bind fun _ => grants_fail _
    | outside => exact grants_bind fun _ => grants_fail _
    | overlaps holder => exact grants_bind fun _ => grants_fail _
    | exhausted => exact exhausted requested

theorem VlanPool.grants (pool : VlanPool) (input : Bag) : (pool.allocate input).Grants := by
  refine grants_bind fun _ => grants_bind fun wanted => ?_
  split
  case h_1 id _ => exact grants_bind fun _ => grants_pure (Bag.Plain.empty.set _ rfl)
  case h_2 why _ =>
    cases why with
    | outside => exact grants_bind fun _ => grants_fail _
    | taken => exact grants_bind fun _ => grants_fail _
    | exhausted => exact grants_bind fun _ => grants_bind fun _ => grants_fail _

theorem VlanRangePool.bound_isPlain {n : Int} {v : Value} (h : bound n = .ok v) : v.isPlain = true := by
  rw [bound] at h
  split at h
  · cases h
    rfl
  · cases h

theorem VlanRangePool.grants (pool : VlanRangePool) (input : Bag) : (pool.allocate input).Grants := by
  refine grants_bind fun size => grants_bind fun _ => grants_bind fun wanted => ?_
  split
  case h_1 start _ =>
    intro bag granted
    simp only [grant, result_bind, result_record, result_pure, bind_eq_ok_iff] at granted
    obtain ⟨-, -, first, hfirst, last, hlast, granted⟩ := granted
    cases granted
    exact (Bag.Plain.empty.set _ (bound_isPlain hfirst)).set _ (bound_isPlain hlast)
  case h_2 why _ =>
    cases why with
    | misaligned next => exact grants_fail _
    | outside => exact grants_bind fun _ => grants_fail _
    | overlaps holder => exact grants_bind fun _ => grants_fail _
    | exhausted => exact grants_bind fun _ => grants_bind fun _ => grants_fail _

theorem UniqueIdPool.grants (pool : UniqueIdPool) (input : Bag) : (pool.allocate input).Grants := by
  rw [allocate]
  split
  case isTrue =>
    refine grants_bind fun wanted => ?_
    split
    case h_1 counter _ =>
      exact grants_bind fun _ => grants_pure ((Bag.Plain.empty.set _ rfl).set _ rfl)
    case h_2 why _ =>
      cases why <;> exact grants_bind fun _ => grants_fail _
  case isFalse => exact grants_fail _

theorem RandomInt32Pool.grants (pool : RandomInt32Pool) (words : List UInt64) :
    (pool.allocate words).Grants := by
  rw [allocate]
  split
  case h_1 n _ => exact grants_bind fun _ => grants_pure (Bag.Plain.empty.set _ rfl)
  case h_2 => exact grants_bind fun _ => grants_bind fun _ => grants_fail _

theorem RouteDistinguisherPool.grants (pool : RouteDistinguisherPool) (input : Bag) :
    (pool.allocate input).Grants := by
  rw [allocate]
  split
  case h_1 rd _ => exact grants_bind fun _ => grants_pure (Bag.Plain.empty.set _ rfl)
  case h_2 e _ =>
    cases e with
    | rejected why => exact grants_bind fun _ => grants_bind fun _ => grants_fail _
    | _ => exact grants_fail _

theorem Pool.grants (pool : Pool) (input : Bag) (words : List UInt64) :
    (pool.allocate input words).Grants := by
  cases pool with
  | address f pool => exact pool.grants input
  | network f pool => exact pool.grants input
  | vlan pool => exact pool.grants input
  | vlanRange pool => exact pool.grants input
  | uniqueId pool => exact pool.grants input
  | randomInt32 pool => exact pool.grants words
  | routeDistinguisher pool => exact pool.grants input

theorem Snapshot.grants (s : Snapshot) (kind : Kind) (script : Option (List UInt64)) :
    (s.allocate kind script).Grants := by
  rw [allocate.eq_def]
  split
  case h_1 words => exact grants_bind fun pool => pool.grants words
  case h_2 => exact grants_bind fun pool => pool.grants s.input []

end Pools

/-- A bag without floating-point numbers is read back from either layout of its document as it is, but
with a text for every integer too large for a word, and that text stands for the integer. A granted
resource is read back as it was granted. -/
theorem Bag.readBack?_exact_and_granted :
    (∀ (layout : Layout) (bag : Bag), bag.Exact → bag.readBack? layout = some bag.reread) ∧
    (∀ n : Int, ∃ t, (Value.big n).reread = .text t ∧ (Value.text t).toInteger = .ok n) ∧
    ∀ (s : Snapshot) (kind : Kind) (script : Option (List UInt64)) (bag : Bag) (layout : Layout),
      (s.allocate kind script).result = .ok bag → bag.readBack? layout = some bag := by
  refine ⟨fun layout bag exact_ => readBack?_eq layout exact_, fun n => ⟨n.repr, rfl, ?_⟩,
    fun s kind script bag layout granted => ?_⟩
  · rw [Value.toInteger, Numeral.toInteger?_repr]
  · have plain := s.grants kind script bag granted
    rw [readBack?_eq layout plain.exact_, plain.reread]

/-- Keys and texts that have to be escaped, the least word, and an integer of more than 64 bits. -/
def awkward : Bag :=
  .ofList [("\x7b\"\\\x7d", .text "\x01\t\x7f𝄞\n"), ("", .int (.ofInt least64)), ("é", .bool false),
    ("\x00", .big (-340282366920938463463374607431768211456))]

/-- Ids that stand between quotes. -/
def quotedIds : Bag := .ofList [("idFormat", .text "\"\x7bcounter\x7d\"")]

theorem Bag.readBack?_exact_and_granted_awkward :
    awkward.readBack? .pretty =
      some (awkward.set "\x00" (.text "-340282366920938463463374607431768211456")) ∧
    ∃ bag, (Snapshot.allocate ⟨quotedIds, [], .empty⟩ .uniqueId none).result = .ok bag ∧
      bag.get? "text" = some (.text "\"0\"") ∧ bag.readBack? .compact = some bag := by
  obtain ⟨exact_, -, granted⟩ := Bag.readBack?_exact_and_granted
  constructor
  · rw [exact_ .pretty awkward (by decide)]
    decide
  · obtain ⟨bag, hbag, text⟩ : ∃ bag,
        (Snapshot.allocate ⟨quotedIds, [], .empty⟩ .uniqueId none).result = .ok bag ∧
          bag.get? "text" = some (.text "\"0\"") := ⟨_, rfl, rfl⟩
    exact ⟨bag, hbag, text, granted _ _ _ bag .compact hbag⟩

end ResourcePool
