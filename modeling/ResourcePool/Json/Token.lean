import ResourcePool.Json.Number
import ResourcePool.Json.Quoted

/-! The tokens of a JSON document. -/

namespace ResourcePool.Json

/-- A text is `none` if it holds half a surrogate pair: it may stand where nobody reads it. -/
inductive Token where
  | openArray
  | closeArray
  | openObject
  | closeObject
  | comma
  | colon
  | null
  | bool (b : Bool)
  | number (n : Number)
  | text (s : Option String)
deriving DecidableEq

/-- White space between tokens. -/
def isSpace (c : Char) : Bool := c == ' ' || c == '\n' || c == '\t' || c == '\r'

/-- The digits at the front of a text, of which there must be one, and what follows them. -/
def digits? (cs : List Char) : Option (List Char × List Char) :=
  match cs.takeWhile Char.isDigit with
  | [] => none
  | digits => some (digits, cs.dropWhile Char.isDigit)

theorem digits?_lt {cs digits rest : List Char} (h : digits? cs = some (digits, rest)) :
    rest.length < cs.length := by
  unfold digits? at h
  split at h
  · cases h
  · rename_i nonempty
    cases h
    cases cs with
    | nil => simp at nonempty
    | cons c cs =>
      by_cases digit : c.isDigit
      · simpa [List.dropWhile, digit] using Nat.lt_succ_of_le (List.dropWhile_suffix _).length_le
      · simp [List.takeWhile, digit] at nonempty

/-- The digits of a whole number, without a needless zero in front. -/
def whole? (cs : List Char) : Option (List Char × List Char) :=
  match cs with
  | '0' :: rest => if (rest.head?.any Char.isDigit) then none else some (['0'], rest)
  | _ => digits? cs

theorem whole?_lt {cs digits rest : List Char} (h : whole? cs = some (digits, rest)) :
    rest.length < cs.length := by
  unfold whole? at h
  split at h
  · split at h
    · cases h
    · cases h
      simp
  · exact digits?_lt h

/-- The digits of a fraction, if there is one. -/
def fraction? : List Char → Option (List Char × List Char)
  | '.' :: rest => digits? rest
  | rest => some ([], rest)

theorem fraction?_le {cs digits rest : List Char} (h : fraction? cs = some (digits, rest)) :
    rest.length ≤ cs.length := by
  unfold fraction? at h
  split at h
  · exact Nat.le_succ_of_le (Nat.le_of_lt (digits?_lt h))
  · cases h
    exact Nat.le_refl _

theorem splitSign_le (cs : List Char) : (Numeral.splitSign cs).2.length ≤ cs.length := by
  unfold Numeral.splitSign
  split <;> simp

/-- A power of ten, if there is one. -/
def power? : List Char → Option (Option Int × List Char)
  | c :: rest =>
    if c = 'e' ∨ c = 'E' then do
      let (negative, rest) := Numeral.splitSign rest
      let (digits, rest) ← digits? rest
      some (some (Numeral.signed negative (Nat.ofDigitChars 10 digits 0)), rest)
    else some (none, c :: rest)
  | [] => some (none, [])

theorem power?_le {cs rest : List Char} {power : Option Int} (h : power? cs = some (power, rest)) :
    rest.length ≤ cs.length := by
  unfold power? at h
  split at h
  · split at h
    · simp only [Option.bind_eq_bind, Option.bind_eq_some_iff] at h
      obtain ⟨⟨digits, after⟩, found, he⟩ := h
      cases he
      exact Nat.le_succ_of_le (Nat.le_trans (Nat.le_of_lt (digits?_lt found)) (splitSign_le _))
    · cases h
      exact Nat.le_refl _
  · cases h
    exact Nat.le_refl _

/-- The number at the front of a text, after its minus. -/
def number? (negative : Bool) (cs : List Char) : Option (Token × List Char) := do
  let (whole, rest) ← whole? cs
  let (fraction, rest) ← fraction? rest
  let (power, rest) ← power? rest
  some (.number ⟨negative, whole, fraction, power⟩, rest)

theorem number?_lt {negative : Bool} {cs rest : List Char} {t : Token}
    (h : number? negative cs = some (t, rest)) : rest.length < cs.length := by
  simp only [number?, Option.bind_eq_bind, Option.bind_eq_some_iff] at h
  obtain ⟨⟨whole, afterWhole⟩, hw, ⟨fraction, afterFraction⟩, hf, ⟨power, after⟩, hp, he⟩ := h
  cases he
  exact Nat.lt_of_le_of_lt (Nat.le_trans (power?_le hp) (fraction?_le hf)) (whole?_lt hw)

/-- The token at the front of a text that does not begin with white space. -/
def token? : List Char → Option (Token × List Char)
  | '[' :: rest => some (.openArray, rest)
  | ']' :: rest => some (.closeArray, rest)
  | '\x7b' :: rest => some (.openObject, rest)
  | '\x7d' :: rest => some (.closeObject, rest)
  | ',' :: rest => some (.comma, rest)
  | ':' :: rest => some (.colon, rest)
  | 'n' :: 'u' :: 'l' :: 'l' :: rest => some (.null, rest)
  | 't' :: 'r' :: 'u' :: 'e' :: rest => some (.bool true, rest)
  | 'f' :: 'a' :: 'l' :: 's' :: 'e' :: rest => some (.bool false, rest)
  | '"' :: rest =>
    (pieces? rest).map fun (ps, rest) => (.text ((joinPieces? ps).map String.ofList), rest)
  | '-' :: rest => number? true rest
  | rest => number? false rest

theorem token?_lt {cs rest : List Char} {t : Token} (h : token? cs = some (t, rest)) :
    rest.length < cs.length := by
  unfold token? at h
  split at h
  case h_10 =>
    simp only [Option.map_eq_some_iff] at h
    obtain ⟨⟨ps, after⟩, found, he⟩ := h
    cases he
    exact Nat.lt_succ_of_lt (pieces?_lt found)
  case h_11 => exact Nat.lt_succ_of_lt (number?_lt h)
  case h_12 => exact number?_lt h
  all_goals
    cases h
    simp only [List.length_cons]
    omega

/-- The tokens of a text. -/
def tokens? (cs : List Char) : Option (List Token) :=
  match cs with
  | [] => some []
  | c :: rest =>
    if isSpace c then tokens? rest
    else
      match found : token? (c :: rest) with
      | none => none
      | some (t, after) =>
        have : after.length < (c :: rest).length := token?_lt found
        (tokens? after).map (t :: ·)
termination_by cs.length
decreasing_by
  · exact Nat.lt_succ_self _
  · exact this

end ResourcePool.Json
