import ResourcePool.Text.Basic
import ResourcePool.Yaml.Glyph

/-!
The texts of scalars. Plain and quoted scalars fold the line ends inside them: one becomes a space,
and of several the first is dropped. Block scalars keep their lines, or fold those that are not
indented further.
-/

namespace ResourcePool.Yaml

/-! ### Gaps inside a scalar -/

/-- Blanks, or line ends with the blanks around them dropped. -/
structure Gap where
  blanks : List Char
  broken : Bool
  first : List Char
  more : List Char

def Gap.none : Gap := ⟨[], false, [], []⟩

/-- A gap that begins with a line end which is to vanish. -/
def Gap.escaped : Gap := ⟨[], true, [], []⟩

/-- The text a gap stands for. -/
def Gap.text (gap : Gap) : List Char :=
  if gap.broken then
    if gap.first = ['\n'] then (if gap.more = [] then [' '] else gap.more)
    else gap.first ++ gap.more
  else gap.blanks

/-- Extends a gap as far as it goes. In a new line no tab may stand before the given column. -/
def Gap.read? (indent : Int) (gap : Gap) : List Glyph → Option (Gap × List Glyph)
  | [] => some (gap, [])
  | g :: rest =>
    if isBlank g.char then
      if gap.broken then
        if g.char = '\t' ∧ (g.column : Int) < indent then Option.none else gap.read? indent rest
      else Gap.read? indent { gap with blanks := gap.blanks ++ [g.char] } rest
    else if isBreak g.char then
      if gap.broken then Gap.read? indent { gap with more := gap.more ++ [g.char] } rest
      else Gap.read? indent ⟨[], true, [g.char], []⟩ rest
    else some (gap, g :: rest)

theorem Gap.read?_le {indent : Int} {gap next : Gap} {gs after : List Glyph}
    (h : gap.read? indent gs = some (next, after)) : after.length ≤ gs.length := by
  induction gs generalizing gap with
  | nil => simp_all [Gap.read?]
  | cons g rest ih =>
    rw [Gap.read?] at h
    split at h
    · split at h
      · split at h
        · cases h
        · exact Nat.le_succ_of_le (ih h)
      · exact Nat.le_succ_of_le (ih h)
    · split at h
      · split at h <;> exact Nat.le_succ_of_le (ih h)
      · simp_all

/-- A gap where there is one takes something. -/
theorem Gap.read?_lt {indent : Int} {gap next : Gap} {gs after : List Glyph}
    (here_gap : isBlank (here gs) ∨ isBreak (here gs))
    (h : gap.read? indent gs = some (next, after)) : after.length < gs.length := by
  cases gs with
  | nil => simp [here, ahead, isBlank, isBreak] at here_gap
  | cons g rest =>
    simp only [here, ahead, List.getElem?_cons_zero, Option.map_some, Option.getD_some] at here_gap
    rw [Gap.read?] at h
    refine Nat.lt_succ_of_le ?_
    split at h
    · split at h
      · split at h
        · cases h
        · exact Gap.read?_le h
      · exact Gap.read?_le h
    · rename_i notBlank
      have isBreak := here_gap.resolve_left notBlank
      simp only [isBreak, if_true] at h
      split at h <;> exact Gap.read?_le h

/-! ### Plain scalars -/

/-- A scalar's text and what follows it; the flag says whether the scalar ended in a new line. -/
structure Scanned where
  text : List Char
  broken : Bool
  rest : List Glyph

def isFlowIndicator (c : Char) : Bool :=
  c == ',' || c == '[' || c == ']' || c == '\x7b' || c == '\x7d'

/-- The characters up to a gap or to what ends a plain scalar. -/
def plainRun? (flow : Bool) : List Glyph → Option (List Char × List Glyph)
  | [] => some ([], [])
  | g :: rest =>
    let c := g.char
    if isGap c then some ([], g :: rest)
    else if flow && c == ':' && (isFlowIndicator (here rest) || here rest == '?') then none
    else if (c == ':' && isGap (here rest)) || (flow && isFlowIndicator c) then some ([], g :: rest)
    else (plainRun? flow rest).map fun (run, rest) => (c :: run, rest)

theorem plainRun?_le {flow : Bool} {gs rest : List Glyph} {run : List Char}
    (h : plainRun? flow gs = some (run, rest)) : rest.length ≤ gs.length := by
  induction gs generalizing run with
  | nil => simp_all [plainRun?]
  | cons g more ih =>
    simp only [plainRun?] at h
    split at h
    · simp_all
    · split at h
      · cases h
      · split at h
        · simp_all
        · simp only [Option.map_eq_some_iff] at h
          obtain ⟨p, hp, he⟩ := h
          cases he
          exact Nat.le_succ_of_le (ih hp)

/-- The rest of a plain scalar after a gap. In a block its lines have to be indented. -/
def plainFrom? (flow : Bool) (indent : Int) (gap : Gap) (gs : List Glyph) : Option Scanned :=
  if atDocumentIndicator gs || here gs == '#' then some ⟨[], gap.broken, gs⟩
  else
    match taken : plainRun? flow gs with
    | none => none
    | some (run, rest) =>
      let text := if run = [] then [] else gap.text ++ run
      let gap := if run = [] then gap else Gap.none
      if between : isBlank (here rest) ∨ isBreak (here rest) then
        match found : gap.read? indent rest with
        | none => none
        | some (next, after) =>
          if !flow && (column after : Int) < indent then some ⟨text, next.broken, after⟩
          else
            have : after.length < gs.length :=
              Nat.lt_of_lt_of_le (Gap.read?_lt between found) (plainRun?_le taken)
            (plainFrom? flow indent next after).map fun s => { s with text := text ++ s.text }
      else some ⟨text, gap.broken, rest⟩
termination_by gs.length

def plain? (flow : Bool) (indent : Int) (gs : List Glyph) : Option Scanned :=
  plainFrom? flow indent .none gs

/-! ### Quoted scalars -/

/-- The character of an escape of one letter. -/
def escape? (c : Char) : Option Char :=
  match c with
  | '0' => some '\x00'
  | 'a' => some '\x07'
  | 'b' => some '\x08'
  | 't' => some '\t'
  | '\t' => some '\t'
  | 'n' => some '\n'
  | 'v' => some '\x0b'
  | 'f' => some '\x0c'
  | 'r' => some '\r'
  | 'e' => some '\x1b'
  | ' ' => some ' '
  | '"' => some '"'
  | '/' => some '/'
  | '\\' => some '\\'
  | 'N' => some '\u0085'
  | '_' => some '\u00a0'
  | 'L' => some '\u2028'
  | 'P' => some '\u2029'
  | _ => none

/-- The number of hexadecimal digits after an escape that gives a character's number. -/
def escapeDigits : Char → Nat
  | 'x' => 2
  | 'u' => 4
  | 'U' => 8
  | _ => 0

/-- The character whose number is spelt by so many hexadecimal digits. -/
def numbered? (digits : Nat) (gs : List Glyph) : Option Char := do
  let n ← Numeral.hexadecimal? ((gs.take digits).map Glyph.char)
  if (0xD800 ≤ n ∧ n ≤ 0xDFFF) ∨ 0x10FFFF < n then none else some (Char.ofNat n)

/-- The characters up to a gap or to the closing quote; the flag tells of an escaped line end. -/
def quotedRun? (quote : Char) (gs : List Glyph) : Option (List Char × Bool × List Glyph) :=
  match gs with
  | [] => some ([], false, [])
  | g :: rest =>
    let c := g.char
    if isGap c then some ([], false, g :: rest)
    else if c = quote then
      if quote = '\'' ∧ here rest = quote then
        (quotedRun? quote (rest.drop 1)).map fun (run, rest) => (c :: run, rest)
      else some ([], false, g :: rest)
    else if quote = '"' ∧ c = '\\' then
      let d := here rest
      if isBreak d then some ([], true, rest.drop 1)
      else
        let digits := escapeDigits d
        match (if digits = 0 then escape? d else numbered? digits (rest.drop 1)) with
        | none => none
        | some c => (quotedRun? quote (rest.drop (1 + digits))).map fun (run, rest) => (c :: run, rest)
    else (quotedRun? quote rest).map fun (run, rest) => (c :: run, rest)
termination_by gs.length
decreasing_by all_goals simp only [List.length_cons, List.length_drop]; omega

/-- What a run leaves: after an escaped line end it is shorter; without one it is nothing, or begins with
the quote or a gap. -/
theorem quotedRun?_rest {quote : Char} {gs : List Glyph} {run : List Char} {escaped : Bool}
    {rest : List Glyph} (h : quotedRun? quote gs = some (run, escaped, rest)) :
    rest.length ≤ gs.length ∧ (escaped = true → rest.length < gs.length) ∧
      (escaped = false → rest = [] ∨ here rest = quote ∨ isGap (here rest)) := by
  fun_induction quotedRun? quote gs generalizing run with
  | case1 => simp_all
  | case2 g more c =>
    simp only [Option.some.injEq, Prod.mk.injEq] at h
    obtain ⟨-, rfl, rfl⟩ := h
    simp_all [here, ahead, c]
  | case3 =>
    rename_i ih
    simp only [Option.map_eq_some_iff] at h
    obtain ⟨⟨run', escaped', rest'⟩, hp, he⟩ := h
    simp only [Prod.mk.injEq] at he
    obtain ⟨-, rfl, rfl⟩ := he
    obtain ⟨le, -, ends⟩ := ih hp
    simp only [List.length_drop, List.length_cons] at le ⊢
    exact ⟨by omega, fun _ => by omega, ends⟩
  | case4 g more c =>
    simp only [Option.some.injEq, Prod.mk.injEq] at h
    obtain ⟨-, rfl, rfl⟩ := h
    simp_all [here, ahead, c]
  | case5 g more =>
    simp only [Option.some.injEq, Prod.mk.injEq] at h
    obtain ⟨-, rfl, rfl⟩ := h
    simp only [List.length_drop, List.length_cons]
    exact ⟨by omega, fun _ => by omega, by simp⟩
  | case6 => cases h
  | case7 =>
    rename_i ih
    simp only [Option.map_eq_some_iff] at h
    obtain ⟨⟨run', escaped', rest'⟩, hp, he⟩ := h
    simp only [Prod.mk.injEq] at he
    obtain ⟨-, rfl, rfl⟩ := he
    obtain ⟨le, -, ends⟩ := ih hp
    simp only [List.length_drop, List.length_cons] at le ⊢
    exact ⟨by omega, fun _ => by omega, ends⟩
  | case8 =>
    rename_i ih
    simp only [Option.map_eq_some_iff] at h
    obtain ⟨⟨run', escaped', rest'⟩, hp, he⟩ := h
    simp only [Prod.mk.injEq] at he
    obtain ⟨-, rfl, rfl⟩ := he
    obtain ⟨le, -, ends⟩ := ih hp
    simp only [List.length_cons] at le ⊢
    exact ⟨by omega, fun _ => by omega, ends⟩

/-- Of a run that ends neither at the quote nor with the stream the gap takes something. -/
theorem quotedRun?_gap_lt {quote : Char} {gs : List Glyph} {run : List Char} {escaped : Bool}
    {rest after : List Glyph} {gap next : Gap} {indent : Int}
    (taken : quotedRun? quote gs = some (run, escaped, rest))
    (notQuote : ¬ (!escaped && here rest == quote) = true)
    (notEnd : ¬ (!escaped && isEnd (here rest)) = true)
    (found : gap.read? indent rest = some (next, after)) : after.length < gs.length := by
  obtain ⟨le, lt, ends⟩ := quotedRun?_rest taken
  cases escaped with
  | true => exact Nat.lt_of_le_of_lt (Gap.read?_le found) (lt rfl)
  | false =>
    refine Nat.lt_of_lt_of_le (Gap.read?_lt ?_ found) le
    have notEnd : isEnd (here rest) = false := by simpa using notEnd
    rcases ends rfl with nil | atQuote | atGap
    · rw [nil] at notEnd
      exact absurd notEnd (by decide)
    · simp [atQuote] at notQuote
    · simpa [isGap, isBreakOrEnd, notEnd] using atGap

/-- The rest of a quoted scalar. -/
def quotedFrom? (quote : Char) (gs : List Glyph) : Option Scanned :=
  if atDocumentIndicator gs then none
  else
    match taken : quotedRun? quote gs with
    | none => none
    | some (run, escaped, rest) =>
      if closed : !escaped && here rest == quote then some ⟨run, false, rest.drop 1⟩
      else if unfinished : !escaped && isEnd (here rest) then none
      else
        match found : (if escaped then Gap.escaped else Gap.none).read? 0 rest with
        | none => none
        | some (gap, after) =>
          have : after.length < gs.length := quotedRun?_gap_lt taken closed unfinished found
          (quotedFrom? quote after).map fun s => { s with text := run ++ gap.text ++ s.text }
termination_by gs.length

/-- A quoted scalar after its opening quote. -/
def quoted? (quote : Char) (gs : List Glyph) : Option Scanned := quotedFrom? quote gs

/-! ### Block scalars -/

/-- What becomes of the line ends after the last line. -/
inductive Chomping where
  | strip
  | clip
  | keep
deriving DecidableEq

/-- How a block scalar is to be read: its chomping, and its indentation if that is given. -/
structure BlockHeader where
  chomping : Chomping
  increment : Nat

def chomping? (c : Char) : Option Chomping :=
  if c = '+' then some .keep else if c = '-' then some .strip else none

/-- An indentation, which may not be zero. -/
def increment? (gs : List Glyph) : Option (Nat × List Glyph) :=
  let c := here gs
  if c = '0' then none
  else if c.isDigit then some (c.toNat - '0'.toNat, gs.drop 1)
  else some (0, gs)

def BlockHeader.read? (gs : List Glyph) : Option (BlockHeader × List Glyph) :=
  match chomping? (here gs) with
  | some chomping => (increment? (gs.drop 1)).map fun (n, rest) => (⟨chomping, n⟩, rest)
  | none =>
    (increment? gs).map fun (n, rest) =>
      match (if n = 0 then none else chomping? (here rest)) with
      | some chomping => (⟨chomping, n⟩, rest.drop 1)
      | none => (⟨.clip, n⟩, rest)

/-- The line ends before the next line with content, and the greatest indentation on the way there.
An indentation of zero is not known yet. -/
def leadingBreaks? (indent seen : Nat) (breaks : List Char) :
    List Glyph → Option (List Char × Nat × List Glyph)
  | [] => some (breaks, seen, [])
  | g :: rest =>
    let inside := indent = 0 ∨ g.column < indent
    if g.char = ' ' ∧ inside then leadingBreaks? indent seen breaks rest
    else if g.char = '\t' ∧ inside then none
    else if isBreak g.char then
      leadingBreaks? indent (max seen g.column) (breaks ++ [g.char]) rest
    else some (breaks, max seen g.column, g :: rest)

theorem leadingBreaks?_le {indent seen most : Nat} {breaks more : List Char} {gs after : List Glyph}
    (h : leadingBreaks? indent seen breaks gs = some (more, most, after)) : after.length ≤ gs.length := by
  induction gs generalizing seen breaks with
  | nil => simp_all [leadingBreaks?]
  | cons g rest ih =>
    simp only [leadingBreaks?] at h
    split at h
    · exact Nat.le_succ_of_le (ih h)
    · split at h
      · cases h
      · split at h
        · exact Nat.le_succ_of_le (ih h)
        · simp_all

/-- A line with its end takes something unless the stream ends here. -/
theorem dropBreak_span_lt {gs : List Glyph} (h : ¬ isEnd (here gs)) :
    (dropBreak (span (fun c => !isBreakOrEnd c) gs).2).length < gs.length := by
  cases gs with
  | nil => exact absurd (show isEnd (here []) = true from rfl) h
  | cons g rest =>
    simp only [here, ahead, List.getElem?_cons_zero, Option.map_some, Option.getD_some] at h
    have le : ∀ l : List Glyph, (dropBreak l).length ≤ l.length := fun l => by
      unfold dropBreak
      split
      · simp
      · exact Nat.le_refl _
    by_cases ends : isBreak g.char
    · simp [span, List.dropWhile, isBreakOrEnd, ends, dropBreak, here, ahead]
    · simp only [span, List.dropWhile, isBreakOrEnd, ends, h, Bool.or_self, Bool.not_false]
      refine Nat.lt_succ_of_le (Nat.le_trans (le _) ?_)
      exact (List.dropWhile_suffix _).length_le

/-- The state between two lines of a block scalar: the line end of the last line, the line ends after
it, and whether the last line began with a blank. -/
structure BlockState where
  last : List Char
  more : List Char
  blank : Bool

/-- What separates the last line from the next one. -/
def BlockState.joint (s : BlockState) (literal blank : Bool) : List Char :=
  if !literal && s.last == ['\n'] && !s.blank && !blank then
    (if s.more = [] then [' '] else []) ++ s.more
  else s.last ++ s.more

/-- The line ends that are kept at the end. -/
def BlockState.tail (s : BlockState) : Chomping → List Char
  | .strip => []
  | .clip => s.last
  | .keep => s.last ++ s.more

/-- The lines of a block scalar. -/
def blockLines? (literal : Bool) (chomping : Chomping) (indent : Nat) (s : BlockState)
    (gs : List Glyph) : Option Scanned :=
  if ends : column gs ≠ indent ∨ isEnd (here gs) then some ⟨s.tail chomping, true, gs⟩
  else
    let blank := isBlank (here gs)
    let line := span (fun c => !isBreakOrEnd c) gs
    let last := if isBreak (here line.2) then [here line.2] else []
    match found : leadingBreaks? indent 0 [] (dropBreak line.2) with
    | none => none
    | some (more, _, after) =>
      have : after.length < gs.length :=
        Nat.lt_of_le_of_lt (leadingBreaks?_le found) (dropBreak_span_lt fun h => ends (.inr h))
      (blockLines? literal chomping indent ⟨last, more, blank⟩ after).map fun next =>
        { next with text := s.joint literal blank ++ line.1 ++ next.text }
termination_by gs.length

/-- A block scalar after its indicator, inside a block of the given indentation. -/
def block? (literal : Bool) (parent : Int) (gs : List Glyph) : Option Scanned := do
  let (header, gs) ← BlockHeader.read? gs
  let gs ← endLine? gs
  let given := if header.increment = 0 then 0 else (max parent 0).toNat + header.increment
  let (more, seen, gs) ← leadingBreaks? given 0 [] gs
  let indent := if given = 0 then max seen (max (parent + 1) 1).toNat else given
  blockLines? literal header.chomping indent ⟨[], more, false⟩ gs

end ResourcePool.Yaml
