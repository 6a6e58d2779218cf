import Mathlib.Data.List.TakeWhile
import ResourcePool.Text.Basic

/-! Parts of a text: what a separator that occurs once divides, what is joined by separators, and what is
left once the white space around it is taken off. -/

namespace ResourcePool.Text
variable {before after front back : List Char}

theorem splitOn_append_cons {x : Char} (hfront : x ∉ front) (hback : x ∉ back) :
    (front ++ x :: back).splitOn x = [front, back] := by
  have joined : List.intercalate [x] [front, back] = front ++ x :: back := by simp [List.intercalate]
  rw [← joined, List.splitOn_intercalate x (by simp [hfront, hback]) (by simp)]

theorem mem_intercalate {separator : List Char} {parts : List (List Char)} {c : Char}
    (h : c ∈ List.intercalate separator parts) : c ∈ separator ∨ ∃ part ∈ parts, c ∈ part := by
  induction parts with
  | nil => cases h
  | cons part rest ih =>
    cases rest with
    | nil => exact .inr ⟨part, by simp, by simpa using h⟩
    | cons next rest =>
      rw [List.intercalate_cons_cons, List.mem_append, List.mem_append] at h
      rcases h with (h | h) | h
      · exact .inr ⟨part, by simp, h⟩
      · exact .inl h
      · rcases ih h with h | ⟨other, mem, h⟩
        · exact .inl h
        · exact .inr ⟨other, List.mem_cons_of_mem _ mem, h⟩

theorem trim_surrounded (hbefore : ∀ c ∈ before, isBlank c = true) (hafter : ∀ c ∈ after, isBlank c = true)
    (cs : List Char) : trim (before ++ cs ++ after) = trim cs := by
  have none_left : after.dropWhile isBlank = [] := List.dropWhile_eq_nil_iff.mpr hafter
  have reversed : ∀ c ∈ after.reverse, isBlank c = true := fun c hc => hafter c (List.mem_reverse.mp hc)
  rw [trim, trim, List.append_assoc, List.dropWhile_append_of_pos hbefore, List.dropWhile_append]
  split
  case isTrue empty => rw [none_left, List.isEmpty_iff.mp empty]
  case isFalse => rw [List.reverse_append, List.dropWhile_append_of_pos reversed]

theorem trim_eq_self_of_forall {cs : List Char} (h : ∀ c ∈ cs, isBlank c = false) : trim cs = cs :=
  trim_eq_self (fun c hc => h c (List.mem_of_mem_head? hc)) fun c hc => h c (List.mem_of_mem_getLast? hc)

end ResourcePool.Text
