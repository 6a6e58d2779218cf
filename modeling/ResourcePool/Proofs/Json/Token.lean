import ResourcePool.Json.Properties
import ResourcePool.Proofs.Json.Quoted
import ResourcePool.Proofs.Numeral

/-! Tokens of what is written. A member of an object is written as the tokens of its key, a colon and
its value, whatever blanks stand between them; a number ends where a comma, a line end or a closing
brace follows. -/

namespace ResourcePool

def Value.isFloat : Value → Bool
  | .float _ => true
  | _ => false

namespace Json

/-! ### Blanks -/

theorem tokens?_space {c : Char} (space : isSpace c = true) (rest : List Char) :
    tokens? (c :: rest) = tokens? rest := by
  rw [tokens?, if_pos space]

theorem tokens?_spaces {gap : List Char} (spaces : ∀ c ∈ gap, isSpace c = true) (rest : List Char) :
    tokens? (gap ++ rest) = tokens? rest := by
  induction gap with
  | nil => rfl
  | cons c gap ih =>
    rw [List.cons_append, tokens?_space (spaces c List.mem_cons_self)]
    exact ih fun d hd => spaces d (List.mem_cons_of_mem _ hd)

/-- No token begins with a blank. -/
theorem token?_space {c : Char} (space : isSpace c = true) (rest : List Char) :
    token? (c :: rest) = none := by
  simp only [isSpace, Bool.or_eq_true, beq_iff_eq] at space
  rcases space with ((rfl | rfl) | rfl) | rfl <;> rfl

theorem tokens?_of_token? {cs after : List Char} {t : Token} (h : token? cs = some (t, after)) :
    tokens? cs = (tokens? after).map (t :: ·) := by
  cases cs with
  | nil => cases h
  | cons c cs =>
    have dark : ¬isSpace c = true := by
      intro space
      rw [token?_space space] at h
      cases h
    rw [tokens?, if_neg dark]
    split
    case h_1 nothing =>
      rw [h] at nothing
      cases nothing
    case h_2 found =>
      rw [h] at found
      cases found
      rfl

/-! ### Numbers -/

/-- A comma, a line end or a closing brace comes next. -/
def Closes (rest : List Char) : Prop := ∃ c ∈ [',', '\n', '\x7d'], ∃ tail, rest = c :: tail

namespace Closes
variable {rest : List Char}

theorem no_digit (h : Closes rest) : rest.takeWhile Char.isDigit = [] ∧
    rest.dropWhile Char.isDigit = rest ∧ rest.head?.any Char.isDigit = false := by
  obtain ⟨c, hc, tail, rfl⟩ := h
  simp only [List.mem_cons, List.not_mem_nil, or_false] at hc
  rcases hc with rfl | rfl | rfl <;> exact ⟨rfl, rfl, rfl⟩

theorem no_fraction (h : Closes rest) : fraction? rest = some ([], rest) := by
  obtain ⟨c, hc, tail, rfl⟩ := h
  simp only [List.mem_cons, List.not_mem_nil, or_false] at hc
  rcases hc with rfl | rfl | rfl <;> rfl

theorem no_power (h : Closes rest) : power? rest = some (none, rest) := by
  obtain ⟨c, hc, tail, rfl⟩ := h
  simp only [List.mem_cons, List.not_mem_nil, or_false] at hc
  rcases hc with rfl | rfl | rfl <;> rfl

end Closes

section Number
variable {rest : List Char}

theorem digits?_toDigits (n : Nat) (h : Closes rest) :
    digits? (Nat.toDigits 10 n ++ rest) = some (Nat.toDigits 10 n, rest) := by
  obtain ⟨none_, all_, -⟩ := h.no_digit
  have digit : ∀ c ∈ Nat.toDigits 10 n, c.isDigit = true := fun c hc => Address.V4.isDigit_toDigits hc
  rw [digits?, List.takeWhile_append_of_pos digit, List.dropWhile_append_of_pos digit, none_, all_,
    List.append_nil]
  split
  case h_1 empty => simp at empty
  case h_2 => rfl

theorem whole?_toDigits (n : Nat) (h : Closes rest) :
    whole? (Nat.toDigits 10 n ++ rest) = some (Nat.toDigits 10 n, rest) := by
  rcases Nat.eq_zero_or_pos n with rfl | positive
  · obtain ⟨-, -, end_⟩ := h.no_digit
    show (if rest.head?.any Char.isDigit = true then none else some (['0'], rest)) = some (['0'], rest)
    rw [if_neg (by simp [end_])]
  · -- A positive number does not begin with the zero that would end it.
    have first := Numeral.head?_toDigits_ne positive
    rw [whole?.eq_2, digits?_toDigits n h]
    intro tail same
    obtain ⟨c, cs, hc⟩ : ∃ c cs, Nat.toDigits 10 n = c :: cs := List.exists_cons_of_ne_nil (by simp)
    rw [hc, List.cons_append] at same
    rw [hc, (List.cons.inj same).1] at first
    exact first rfl

theorem number?_toDigits (negative : Bool) (n : Nat) (h : Closes rest) :
    number? negative (Nat.toDigits 10 n ++ rest) =
      some (.number ⟨negative, Nat.toDigits 10 n, [], none⟩, rest) := by
  simp only [number?, whole?_toDigits n h, h.no_fraction, h.no_power, Option.bind_eq_bind,
    Option.bind_some]

/-- A digit begins a number. -/
theorem token?_digit {c : Char} (digit : c.isDigit = true) (cs : List Char) :
    token? (c :: cs) = number? false (c :: cs) := by
  rw [token?.eq_def]
  split
  case h_12 => rfl
  all_goals
    rename_i same
    rw [(List.cons.inj same).1] at digit
    cases digit

end Number

/-! ### Values and members -/

/-- The token that a value is written as; a floating-point number is none of those that matter here. -/
def tokenOf : Value → Token
  | .bool b => .bool b
  | .int n => .number ⟨decide (n.toInt < 0), Numeral.digits n.toInt, [], none⟩
  | .big n => .text (some n.repr)
  | .text s => .text (some s)
  | .float _ => .null

theorem token?_quote (s : String) (rest : List Char) :
    token? (quote s.toList ++ rest) = some (.text (some s), rest) := by
  show (pieces? (s.toList.flatMap escapeChar ++ ['"'] ++ rest)).map _ = _
  rw [List.append_assoc, List.singleton_append, pieces?_quoted]
  simp only [Option.map_some, joinPieces?_map_pieceOf, String.ofList_toList]

theorem token?_repr (n : Int) {rest : List Char} (h : Closes rest) :
    token? (n.repr.toList ++ rest) =
      some (.number ⟨decide (n < 0), Numeral.digits n, [], none⟩, rest) := by
  rw [Numeral.toList_repr]
  by_cases negative : n < 0
  · rw [if_pos negative, decide_eq_true negative]
    exact number?_toDigits true n.natAbs h
  · rw [if_neg negative, List.nil_append, decide_eq_false negative]
    have number := number?_toDigits false n.natAbs h
    have digits : ∃ c cs, Nat.toDigits 10 n.natAbs = c :: cs := List.exists_cons_of_ne_nil (by simp)
    obtain ⟨c, cs, hc⟩ := digits
    have digit : c.isDigit = true := Address.V4.isDigit_toDigits (hc ▸ List.mem_cons_self)
    rw [Numeral.digits]
    rw [hc, List.cons_append] at number ⊢
    rw [token?_digit digit]
    exact number

theorem token?_document {v : Value} (exact_ : v.isFloat = false) {rest : List Char} (h : Closes rest) :
    token? (v.document ++ rest) = some (tokenOf v, rest) := by
  cases v with
  | bool b => cases b <;> rfl
  | int n => exact token?_repr n.toInt h
  | big n => exact token?_quote n.repr rest
  | text s => exact token?_quote s rest
  | float x => cases exact_

/-- A member of an object as it is written, with the blanks before its key and after its colon. -/
def member (lead gap : List Char) (e : String × Value) : List Char :=
  lead ++ quote e.1.toList ++ [':'] ++ gap ++ e.2.document

def memberTokens (e : String × Value) : List Token := [.text (some e.1), .colon, tokenOf e.2]

section Member
variable {lead gap : List Char}

theorem tokens?_member (blank : ∀ c ∈ lead ++ gap, isSpace c = true) {e : String × Value}
    (exact_ : e.2.isFloat = false) {rest : List Char} (h : Closes rest) :
    tokens? (member lead gap e ++ rest) = (tokens? rest).map (memberTokens e ++ ·) := by
  have before : ∀ c ∈ lead, isSpace c = true := fun c hc => blank c (List.mem_append_left _ hc)
  have between : ∀ c ∈ gap, isSpace c = true := fun c hc => blank c (List.mem_append_right _ hc)
  have colon : ∀ cs, token? (':' :: cs) = some (.colon, cs) := fun _ => rfl
  simp only [member, List.append_assoc, List.cons_append, List.nil_append]
  rw [tokens?_spaces before, tokens?_of_token? (token?_quote e.1 _), tokens?_of_token? (colon _),
    tokens?_spaces between, tokens?_of_token? (token?_document exact_ h), Option.map_map,
    Option.map_map]
  rfl

/-- Members with commas between them, each comma followed by the same blanks. -/
theorem tokens?_members (blank : ∀ c ∈ lead ++ gap, isSpace c = true) {line : List Char}
    (blankLine : ∀ c ∈ line, isSpace c = true) {entries : List (String × Value)}
    (filled : entries ≠ []) (exact_ : ∀ e ∈ entries, e.2.isFloat = false) {rest : List Char}
    (h : Closes rest) :
    tokens? (List.intercalate (',' :: line) (entries.map (member lead gap)) ++ rest) =
      (tokens? rest).map (List.intercalate [.comma] (entries.map memberTokens) ++ ·) := by
  have comma : ∀ cs, token? (',' :: cs) = some (.comma, cs) := fun _ => rfl
  induction entries with
  | nil => exact absurd rfl filled
  | cons e tail ih =>
    have here := exact_ e List.mem_cons_self
    cases tail with
    | nil => simpa using tokens?_member blank here h
    | cons e' tail =>
      have next := ih (by simp) fun d hd => exact_ d (List.mem_cons_of_mem _ hd)
      rw [List.map_cons, List.map_cons, List.intercalate_cons_cons, List.append_assoc,
        List.append_assoc, List.cons_append,
        tokens?_member blank here ⟨',', by simp, _, rfl⟩, tokens?_of_token? (comma _),
        tokens?_spaces blankLine, ← List.map_cons, next, Option.map_map, Option.map_map]
      refine congrFun (congrArg _ (funext fun ts => ?_)) _
      simp [List.intercalate_cons_cons]

end Member
end Json
end ResourcePool
