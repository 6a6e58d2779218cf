import Mathlib.Data.List.Infix
import ResourcePool.Text.Basic

/-! Replacements that leave a stretch of a text alone. A word whose last character does not stand in
the stretch cannot end in it, and a word without the last character of the stretch cannot go past its
end. Any number of such words may be replaced; what stands before and after the stretch comes out the
same whatever the stretch is. -/

namespace ResourcePool.Text

section ReplaceFirst
variable {word before stretch after cs : List Char} {c : Char}

/-- A replacement goes to a place that does not depend on it. -/
theorem exists_replaceFirst_eq (h : occurs word cs = true) :
    ∃ before after, ∀ replacement, replaceFirst word replacement cs = before ++ (replacement ++ after) := by
  induction cs with
  | nil =>
    have empty : word.isEmpty = true := h
    exact ⟨[], [], fun replacement => by simp [replaceFirst, empty]⟩
  | cons c rest ih =>
    by_cases here : word.isPrefixOf (c :: rest) = true
    · exact ⟨[], (c :: rest).drop word.length, fun replacement => by rw [replaceFirst, if_pos here]; rfl⟩
    · rw [occurs, eq_false_of_ne_true here, Bool.false_or] at h
      obtain ⟨before, after, split⟩ := ih h
      exact ⟨c :: before, after, fun replacement => by rw [replaceFirst, if_neg here, split]; rfl⟩

/-- No occurrence of a word can end in a stretch or go past its end. -/
structure PassesBy (word stretch : List Char) : Prop where
  stop : ∃ c, word.getLast? = some c ∧ c ∉ stretch
  last : ∃ c, stretch.getLast? = some c ∧ c ∉ word

namespace PassesBy

theorem word_ne_nil (h : PassesBy word stretch) : word ≠ [] := by
  rintro rfl
  obtain ⟨c, stop, -⟩ := h.stop
  cases stop

theorem tail (h : PassesBy word (c :: stretch)) (filled : stretch ≠ []) : PassesBy word stretch where
  stop := by
    obtain ⟨d, stop, absent⟩ := h.stop
    exact ⟨d, stop, List.not_mem_of_not_mem_cons absent⟩
  last := by
    obtain ⟨d, last, absent⟩ := h.last
    rw [← List.singleton_append, List.getLast?_append_of_ne_nil _ filled] at last
    exact ⟨d, last, absent⟩

/-- An occurrence that begins before the stretch is over before it. -/
theorem isPrefix_append_iff (h : PassesBy word stretch) :
    word <+: before ++ (stretch ++ after) ↔ word <+: before := by
  refine ⟨fun ⟨rest, split⟩ => ?_, fun start => start.trans (List.prefix_append _ _)⟩
  rcases List.append_eq_append_iff.mp split with ⟨left, inside, -⟩ | ⟨tail, word_eq, split⟩
  · exact ⟨left, inside.symm⟩
  rcases List.append_eq_append_iff.mp split with ⟨beyond, tail_eq, -⟩ | ⟨left, stretch_eq, -⟩
  · -- The word would hold the whole stretch, its last character with it.
    obtain ⟨c, last, absent⟩ := h.last
    have mem : c ∈ stretch := List.mem_of_getLast? last
    exact absurd (by simp [word_eq, tail_eq, mem]) absent
  · obtain ⟨c, stop, absent⟩ := h.stop
    cases tail with
    | nil => exact ⟨[], by simp [word_eq]⟩
    | cons d tail =>
      -- The word would end inside the stretch.
      rw [word_eq, List.getLast?_append_of_ne_nil _ (by simp)] at stop
      have mem : c ∈ d :: tail := List.mem_of_getLast? stop
      exact absurd (stretch_eq ▸ List.mem_append_left _ mem) absent

theorem replaceFirst_append (h : PassesBy word stretch) (replacement : List Char) :
    replaceFirst word replacement (stretch ++ after) = stretch ++ replaceFirst word replacement after := by
  induction stretch with
  | nil =>
    obtain ⟨c, last, -⟩ := h.last
    cases last
  | cons c rest ih =>
    have elsewhere : ¬word.isPrefixOf (c :: (rest ++ after)) = true := by
      rw [List.isPrefixOf_iff_prefix]
      intro here
      have none : word <+: [] := h.isPrefix_append_iff.mp here
      exact h.word_ne_nil (List.prefix_nil.mp none)
    rw [List.cons_append, replaceFirst, if_neg elsewhere, List.cons_append]
    cases rest with
    | nil => rfl
    | cons d rest => rw [ih (h.tail (List.cons_ne_nil d rest))]

/-- The occurrence that is replaced lies wholly before the stretch or wholly after it. -/
theorem replaceFirst_around (h : PassesBy word stretch) (replacement : List Char) :
    replaceFirst word replacement (before ++ (stretch ++ after)) =
      if occurs word before = true then replaceFirst word replacement before ++ (stretch ++ after)
      else before ++ (stretch ++ replaceFirst word replacement after) := by
  induction before with
  | nil =>
    have absent : ¬occurs word [] = true := by simpa [occurs] using h.word_ne_nil
    rw [if_neg absent, List.nil_append, List.nil_append, h.replaceFirst_append]
  | cons c rest ih =>
    have same : word.isPrefixOf (c :: (rest ++ (stretch ++ after))) = word.isPrefixOf (c :: rest) := by
      rw [Bool.eq_iff_iff, List.isPrefixOf_iff_prefix, List.isPrefixOf_iff_prefix, ← List.cons_append]
      exact h.isPrefix_append_iff
    rw [List.cons_append, replaceFirst, same, occurs, replaceFirst]
    by_cases here : word.isPrefixOf (c :: rest) = true
    · have length : word.length ≤ (c :: rest).length := (List.isPrefixOf_iff_prefix.mp here).length_le
      rw [if_pos here, here, Bool.true_or, if_pos rfl, if_pos rfl, ← List.cons_append,
        List.drop_append_of_le_length length, List.append_assoc]
    · rw [if_neg here, if_neg here, eq_false_of_ne_true here, Bool.false_or, ih]
      split <;> rfl

end PassesBy
end ReplaceFirst

/-- A chain of replacements keeps every stretch that its words pass by, between texts of its own. -/
theorem exists_foldl_replaceFirst_eq {α : Type} (word replacement : α → List Char) (items : List α)
    (before after : List Char) :
    ∃ before' after', ∀ stretch, (∀ item ∈ items, PassesBy (word item) stretch) →
      items.foldl (fun text item => replaceFirst (word item) (replacement item) text)
        (before ++ (stretch ++ after)) = before' ++ (stretch ++ after') := by
  induction items generalizing before after with
  | nil => exact ⟨before, after, fun stretch _ => rfl⟩
  | cons item rest ih =>
    by_cases early : occurs (word item) before = true
    · obtain ⟨before', after', kept⟩ := ih (replaceFirst (word item) (replacement item) before) after
      refine ⟨before', after', fun stretch passes => ?_⟩
      rw [List.foldl_cons, (passes item List.mem_cons_self).replaceFirst_around, if_pos early]
      exact kept stretch fun item' mem => passes item' (List.mem_cons_of_mem _ mem)
    · obtain ⟨before', after', kept⟩ := ih before (replaceFirst (word item) (replacement item) after)
      refine ⟨before', after', fun stretch passes => ?_⟩
      rw [List.foldl_cons, (passes item List.mem_cons_self).replaceFirst_around, if_neg early]
      exact kept stretch fun item' mem => passes item' (List.mem_cons_of_mem _ mem)

end ResourcePool.Text
