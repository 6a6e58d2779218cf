import ResourcePool.Proofs.Json.Token

/-! Bags of properties as documents. A bag without floating-point numbers is read back from either
layout of its document; only integers too large for a word come back in another shape, as their text,
and that text still stands for the same integer. -/

namespace ResourcePool.Json

/-! ### From tokens to a document -/

/-- The document of a value. -/
def ofValue : Value → Json
  | .bool b => .bool b
  | .int n => .number ⟨decide (n.toInt < 0), Numeral.digits n.toInt, [], none⟩
  | .big n => .text (some n.repr)
  | .text s => .text (some s)
  | .float _ => .null

/-- The member that a property is read as. -/
def ofEntry (e : String × Value) : Option String × Json := (some e.1, ofValue e.2)

section Reader
variable {members : List (Option String × Json)} {key : Option String} {outer : List Frame}
  {expected : Expected}

theorem foldlM_take {r r' : Reader} {t : Token} (h : r.take? t = some r') (ts : List Token) :
    (t :: ts).foldlM Reader.take? r = ts.foldlM Reader.take? r' := by
  rw [List.foldlM_cons, h]
  rfl

/-- Where a key may stand, the tokens of a member add it to the open object. -/
theorem foldlM_memberTokens (place : expected = .firstKey ∨ expected = .key) (e : String × Value)
    (ts : List Token) :
    (memberTokens e ++ ts).foldlM Reader.take? ⟨.object members key :: outer, expected⟩ =
      ts.foldlM Reader.take? ⟨.object (ofEntry e :: members) none :: outer, .next⟩ := by
  have named : Reader.take? ⟨.object members key :: outer, expected⟩ (.text (some e.1)) =
      some ⟨.object members (some e.1) :: outer, .colon⟩ := by
    rcases place with rfl | rfl <;> rfl
  have colon : Reader.take? ⟨.object members (some e.1) :: outer, .colon⟩ .colon =
      some ⟨.object members (some e.1) :: outer, .value⟩ := rfl
  have filled : Reader.take? ⟨.object members (some e.1) :: outer, .value⟩ (tokenOf e.2) =
      some ⟨.object (ofEntry e :: members) none :: outer, .next⟩ := by
    obtain ⟨k, v⟩ := e
    cases v <;> rfl
  simp only [memberTokens, List.cons_append, List.nil_append]
  rw [foldlM_take named, foldlM_take colon, foldlM_take filled]

theorem foldlM_members {entries : List (String × Value)} (filled : entries ≠ [])
    (place : expected = .firstKey ∨ expected = .key) (ts : List Token) :
    (List.intercalate [.comma] (entries.map memberTokens) ++ ts).foldlM Reader.take?
        ⟨.object members key :: outer, expected⟩ =
      ts.foldlM Reader.take?
        ⟨.object ((entries.map ofEntry).reverse ++ members) none :: outer, .next⟩ := by
  induction entries generalizing members key expected with
  | nil => exact absurd rfl filled
  | cons e tail ih =>
    cases tail with
    | nil => simpa using foldlM_memberTokens place e ts
    | cons e' tail =>
      have comma : Reader.take? ⟨.object (ofEntry e :: members) none :: outer, .next⟩ .comma =
          some ⟨.object (ofEntry e :: members) none :: outer, .key⟩ := rfl
      rw [List.map_cons, List.map_cons, List.intercalate_cons_cons, ← List.map_cons, List.append_assoc,
        List.append_assoc, foldlM_memberTokens place, List.singleton_append, foldlM_take comma,
        ih (by simp) (.inr rfl)]
      simp

/-- The tokens of an object make up the object. -/
theorem ofTokens?_object (entries : List (String × Value)) :
    ofTokens? (.openObject :: (List.intercalate [.comma] (entries.map memberTokens) ++ [.closeObject])) =
      some (.object (entries.map ofEntry)) := by
  cases entries with
  | nil => rfl
  | cons e tail =>
    have opened : Reader.start.take? .openObject = some ⟨[.object [] none], .firstKey⟩ := rfl
    rw [ofTokens?, foldlM_take opened, foldlM_members (by simp) (.inl rfl), List.append_nil]
    show some (Json.object ((List.map ofEntry (e :: tail)).reverse).reverse) = _
    rw [List.reverse_reverse]

end Reader
end ResourcePool.Json

namespace ResourcePool

/-! ### From a document to a bag -/

/-- The value that a value's document is read as. -/
def Value.reread : Value → Value
  | .big n => .text n.repr
  | v => v

theorem Value.ofJson?_ofValue {v : Value} (exact_ : v.isFloat = false) :
    ofJson? (Json.ofValue v) = some v.reread := by
  cases v with
  | bool b => rfl
  | int n =>
    -- Only the number zero could be read as minus zero, and it is written without a minus.
    have whole : Json.Number.integer? ⟨decide (n.toInt < 0), Numeral.digits n.toInt, [], none⟩ =
        some n.toInt := by
      simp only [Json.Number.integer?, Option.isNone_none, decide_true, Bool.and_self, ↓reduceIte,
        Numeral.digits, Nat.ofDigitChars_ten_toDigits, Numeral.signed_natAbs]
    have signed : (!(decide (n.toInt < 0) && n.toInt == 0)) = true := by
      by_cases negative : n.toInt < 0
      · have : n.toInt ≠ 0 := by omega
        simp [this]
      · simp [negative]
    simp only [Json.ofValue, ofJson?, ofNumber?, whole, Option.filter_some, signed, ↓reduceIte,
      Option.bind_some, ofInt?, int64?_toInt]
    rfl
  | big n => rfl
  | text s => rfl
  | float x => cases exact_

theorem setEntry_last {key : String} {value : Value} {entries : List (String × Value)}
    (last : ∀ e ∈ entries, e.1 < key) : setEntry key value entries = entries ++ [(key, value)] := by
  induction entries with
  | nil => rfl
  | cons e rest ih =>
    have before := last e List.mem_cons_self
    have differ : key ≠ e.1 := fun same => String.lt_irrefl _ (same ▸ before)
    rw [setEntry, if_neg differ, if_neg (String.lt_asymm before),
      ih fun d hd => last d (List.mem_cons_of_mem _ hd), List.cons_append]

namespace Bag

/-- The bag of properties in the order of their keys holds these properties. -/
theorem foldl_set_entries (bag : Bag) {entries : List (String × Value)}
    (ascending : Ascending (bag.entries ++ entries)) :
    (entries.foldl (fun bag e => bag.set e.1 e.2) bag).entries = bag.entries ++ entries := by
  induction entries generalizing bag with
  | nil => rw [List.foldl_nil, List.append_nil]
  | cons e rest ih =>
    have below : ∀ d ∈ bag.entries, d.1 < e.1 := fun d hd =>
      (List.pairwise_append.mp ascending).2.2 d hd e List.mem_cons_self
    have grown : (bag.set e.1 e.2).entries = bag.entries ++ [e] := setEntry_last below
    rw [List.foldl_cons, ih _ (by rwa [grown, List.append_assoc]), grown, List.append_assoc]
    rfl

theorem ext {a b : Bag} (h : a.entries = b.entries) : a = b := by
  cases a
  cases b
  cases h
  rfl

theorem ofList_entries (bag : Bag) : ofList bag.entries = bag :=
  ext (foldl_set_entries empty bag.ascending)

/-- No property is a floating-point number. -/
def Exact (bag : Bag) : Prop := ∀ e ∈ bag.entries, e.2.isFloat = false

instance (bag : Bag) : Decidable bag.Exact :=
  inferInstanceAs (Decidable (∀ e ∈ bag.entries, e.2.isFloat = false))

/-- The bag that a bag's document is read as. -/
def reread (bag : Bag) : Bag where
  entries := bag.entries.map fun e => (e.1, e.2.reread)
  ascending := List.pairwise_map.mpr (bag.ascending.imp id)

theorem mapM_ofEntry {entries : List (String × Value)} (exact_ : ∀ e ∈ entries, e.2.isFloat = false) :
    (entries.map Json.ofEntry).mapM (fun (m : Option String × Json) => do
      some (← m.1, ← Value.ofJson? m.2)) = some (entries.map fun e => (e.1, e.2.reread)) := by
  induction entries with
  | nil => rfl
  | cons e rest ih =>
    have value := Value.ofJson?_ofValue (exact_ e List.mem_cons_self)
    have tail := ih fun d hd => exact_ d (List.mem_cons_of_mem _ hd)
    simp only [List.map_cons, List.mapM_cons, Json.ofEntry, value, Option.bind_eq_bind,
      Option.bind_some] at tail ⊢
    rw [tail]
    rfl

theorem ofJson?_object {bag : Bag} (exact_ : bag.Exact) :
    ofJson? (.object (bag.entries.map Json.ofEntry)) = some bag.reread := by
  have members := mapM_ofEntry exact_
  rw [ofJson?, members, Option.map_some]
  exact congrArg some (ofList_entries bag.reread)

end Bag

/-! ### Layouts -/

namespace Layout

/-- The blanks before a key. -/
def lead : Layout → List Char
  | compact => []
  | pretty => [' ', ' ']

/-- The blanks after a colon. -/
def gap : Layout → List Char
  | compact => []
  | pretty => [' ']

/-- The blanks after a brace and a comma. -/
def line : Layout → List Char
  | compact => []
  | pretty => ['\n']

theorem blank (layout : Layout) : (∀ c ∈ layout.lead ++ layout.gap, Json.isSpace c = true) ∧
    ∀ c ∈ layout.line, Json.isSpace c = true := by
  cases layout <;> simp [lead, gap, line, Json.isSpace]

theorem object_entries (layout : Layout) {entries : List (String × Value)} (filled : entries ≠ []) :
    layout.object (entries.map fun e => (e.1, e.2.document)) =
      '\x7b' :: (layout.line ++ (List.intercalate (',' :: layout.line)
        (entries.map (Json.member layout.lead layout.gap)) ++ (layout.line ++ ['\x7d']))) := by
  have member : ∀ lead gap, Json.member lead gap = fun e : String × Value =>
      lead ++ Json.quote e.1.toList ++ [':'] ++ gap ++ e.2.document := fun _ _ => rfl
  rw [object.eq_def, if_neg (by simpa using filled)]
  cases layout <;> simp [member, lead, gap, line, Function.comp_def]

theorem read?_object (layout : Layout) {entries : List (String × Value)}
    (exact_ : ∀ e ∈ entries, e.2.isFloat = false) :
    Json.read? (layout.object (entries.map fun e => (e.1, e.2.document))) =
      some (.object (entries.map Json.ofEntry)) := by
  have opened : ∀ cs, Json.token? ('\x7b' :: cs) = some (.openObject, cs) := fun _ => rfl
  have closed : Json.tokens? ['\x7d'] = some [.closeObject] := by
    rw [Json.tokens?_of_token? (rfl : Json.token? ['\x7d'] = some (.closeObject, [])), Json.tokens?]
    rfl
  have tokens : Json.tokens? (layout.object (entries.map fun e => (e.1, e.2.document))) =
      some (.openObject ::
        (List.intercalate [.comma] (entries.map Json.memberTokens) ++ [.closeObject])) := by
    by_cases empty : entries = []
    · subst empty
      show Json.tokens? ['\x7b', '\x7d'] = _
      rw [Json.tokens?_of_token? (opened _), closed]
      rfl
    · obtain ⟨between, behind⟩ := layout.blank
      have closes : Json.Closes (layout.line ++ ['\x7d']) := by
        cases layout <;> exact ⟨_, by decide, _, rfl⟩
      rw [layout.object_entries empty, Json.tokens?_of_token? (opened _), Json.tokens?_spaces behind,
        Json.tokens?_members between behind empty exact_ closes, Json.tokens?_spaces behind, closed]
      rfl
  rw [Json.read?, tokens, Option.bind_some, Json.ofTokens?_object]

end Layout

/-- What a bag is read as from its own document. -/
def Bag.readBack? (layout : Layout) (bag : Bag) : Option Bag :=
  (Json.read? (bag.document layout).toList).bind Bag.ofJson?

theorem Bag.readBack?_eq (layout : Layout) {bag : Bag} (exact_ : bag.Exact) :
    bag.readBack? layout = some bag.reread := by
  rw [readBack?, document, String.toList_ofList, layout.read?_object exact_, Option.bind_some,
    ofJson?_object exact_]

end ResourcePool
