import Mathlib.Data.Nat.Digits.Defs
import ResourcePool.Proofs.Address.Canonical
import ResourcePool.Proofs.Address.ZeroRuns

/-! The canonical text of an IPv6 address. It leaves out the leftmost of the longest runs of zero groups, if
that has two groups or more; a double colon stands at that place and nowhere else, since the colons between
groups stand apart. -/

namespace ResourcePool.Address.V6

/-! ### Groups -/

/-- Eight groups of 16 bits, the most significant first. -/
structure Groups where
  list : List Nat
  length_eq : list.length = 8
  lt : ∀ g ∈ list, g < 65536

namespace Groups

def value (g : Groups) : Nat := Nat.ofDigits 65536 g.list.reverse

theorem value_lt (g : Groups) : g.value < Family.v6.space := by
  have small : ∀ d ∈ g.list.reverse, d < 65536 := fun d hd => g.lt d (List.mem_reverse.mp hd)
  have bound := Nat.ofDigits_lt_base_pow_length (by decide : 1 < 65536) small
  rw [List.length_reverse, g.length_eq] at bound
  exact bound

end Groups

theorem ofGroups_eq_ofDigits (groups : List Nat) : ofGroups groups = Nat.ofDigits 65536 groups.reverse := by
  have order : (fun n g : Nat => 65536 * n + g) = fun n g => g + 65536 * n := by
    funext n g
    exact Nat.add_comm ..
  rw [Nat.ofDigits_eq_foldr, List.foldr_reverse, ofGroups, order]
  rfl

/-- The groups of an address. -/
def groupsOf (a : Address .v6) : Groups :=
  ⟨toGroups a.value, length_toGroups a.value, fun _ => lt_of_mem_toGroups⟩

theorem value_groupsOf (a : Address .v6) : (groupsOf a).value = a.value := by
  rw [Groups.value, ← ofGroups_eq_ofDigits]
  exact ofGroups_toGroups a.lt

theorem toGroups_value (g : Groups) : toGroups g.value = g.list := by
  have same := value_groupsOf ⟨g.value, g.value_lt⟩
  refine List.reverse_injective (Nat.ofDigits_inj_of_len_eq (by decide : 1 < 65536) ?_ ?_ ?_ same)
  · simp [g.length_eq, length_toGroups]
  · exact fun d hd => lt_of_mem_toGroups (List.mem_reverse.mp hd)
  · exact fun d hd => g.lt d (List.mem_reverse.mp hd)

/-! ### Colons -/

/-- Some other character than a colon comes first. -/
def Opens (cs : List Char) : Prop := ∃ c back, cs = c :: back ∧ c ≠ ':'

/-- Some other character than a colon comes last. -/
def Closes (cs : List Char) : Prop := ∃ front c, cs = front ++ [c] ∧ c ≠ ':'

/-- Every colon stands between two other characters. -/
def Parted (cs : List Char) : Prop :=
  ∀ before after, cs = before ++ ':' :: after → Closes before ∧ Opens after

section Word
variable {word cs : List Char} (plain : ':' ∉ word)
include plain

theorem opens_of_plain (filled : word ≠ []) : Opens word := by
  obtain ⟨c, back, rfl⟩ := List.exists_cons_of_ne_nil filled
  exact ⟨c, back, rfl, fun same => plain (same ▸ List.mem_cons_self)⟩

theorem closes_of_plain (filled : word ≠ []) : Closes word :=
  ⟨_, _, (List.dropLast_append_getLast filled).symm, fun same => plain (same ▸ List.getLast_mem filled)⟩

theorem parted_of_plain : Parted word := by
  rintro before after rfl
  exact absurd (by simp) plain

theorem Parted.join (h : Parted cs) (filled : word ≠ []) (first : Opens cs) : Parted (word ++ ':' :: cs) := by
  intro before after split
  have closed := closes_of_plain plain filled
  rcases List.append_eq_append_iff.mp split with ⟨between, rfl, rest⟩ | ⟨between, rfl, rest⟩
  · -- The colon is the one after the word or stands behind it.
    cases between with
    | nil =>
      obtain rfl := (List.cons.inj rest).2
      rw [List.append_nil]
      exact ⟨closed, first⟩
    | cons c between =>
      obtain ⟨rfl, rfl⟩ := List.cons.inj rest
      obtain ⟨⟨front, c, rfl, differ⟩, follows⟩ := h between after rfl
      exact ⟨⟨word ++ ':' :: front, c, by simp, differ⟩, follows⟩
  · cases between with
    | nil =>
      obtain rfl := (List.cons.inj rest).2
      rw [List.append_nil] at closed
      exact ⟨closed, first⟩
    | cons c between =>
      obtain ⟨rfl, -⟩ := List.cons.inj rest
      exact absurd (by simp) plain

end Word

theorem opens_joined (g : Nat) (rest : List Nat) : Opens (joined (g :: rest)) := by
  have digits := opens_of_plain (colon_not_mem g) (by simp)
  cases rest with
  | nil => simpa [joined] using digits
  | cons g' rest =>
    obtain ⟨c, back, spelt, differ⟩ := digits
    exact ⟨c, back ++ ':' :: joined (g' :: rest), by rw [joined_cons_cons, spelt]; rfl, differ⟩

theorem parted_joined (groups : List Nat) : Parted (joined groups) := by
  induction groups with
  | nil => exact parted_of_plain (by simp [joined])
  | cons g rest ih =>
    cases rest with
    | nil => simpa [joined] using parted_of_plain (colon_not_mem g)
    | cons g' rest =>
      rw [joined_cons_cons]
      exact ih.join (colon_not_mem g) (by simp) (opens_joined g' rest)

/-! ### The double colon -/

section Double
variable {cs front back before after : List Char}

theorem Parted.not_double (h : Parted cs) : cs ≠ before ++ ':' :: ':' :: after := by
  intro split
  obtain ⟨-, c, back, follows, differ⟩ := h before _ split
  exact differ (List.cons.inj follows).1.symm

theorem Parted.not_cons (h : Parted cs) : cs ≠ ':' :: after := by
  intro split
  obtain ⟨⟨front, c, empty, -⟩, -⟩ := h [] after split
  simp at empty

theorem Parted.not_concat (h : Parted cs) : cs ≠ before ++ [':'] := by
  intro split
  obtain ⟨-, c, back, empty, -⟩ := h before [] split
  cases empty

/-- A double colon that begins at or after another one. -/
theorem double_append_cases {between : List Char} (h : ':' :: ':' :: back = between ++ ':' :: ':' :: after) :
    between = [] ∧ back = after ∨ between = [':'] ∧ back = ':' :: after ∨
      ∃ rest, between = ':' :: ':' :: rest ∧ back = rest ++ ':' :: ':' :: after := by
  match between with
  | [] => simpa using h
  | [c] =>
    simp only [List.cons_append, List.nil_append, List.cons.injEq] at h
    exact .inr (.inl ⟨by rw [← h.1], h.2.2⟩)
  | c :: d :: rest =>
    simp only [List.cons_append, List.cons.injEq] at h
    exact .inr (.inr ⟨rest, by rw [← h.1, ← h.2.1], h.2.2⟩)

/-- Between two stretches without one, a double colon stands only where they meet. -/
theorem eq_of_double (hfront : Parted front) (hback : Parted back)
    (h : front ++ ':' :: ':' :: back = before ++ ':' :: ':' :: after) : front = before ∧ back = after := by
  rcases List.append_eq_append_iff.mp h with ⟨between, rfl, rest⟩ | ⟨between, rfl, rest⟩
  · rcases double_append_cases rest with ⟨rfl, same⟩ | ⟨-, single⟩ | ⟨cs, -, double⟩
    · exact ⟨by simp, same⟩
    · exact absurd single hback.not_cons
    · exact absurd double hback.not_double
  · rcases double_append_cases rest with ⟨rfl, same⟩ | ⟨rfl, -⟩ | ⟨cs, rfl, -⟩
    · exact ⟨by simp, same.symm⟩
    · exact absurd rfl hfront.not_concat
    · exact absurd rfl hfront.not_double

end Double

/-! ### What is written -/

variable {groups : List Nat} {i r : Nat} {before after : List Char}

/-- The groups before a run and the groups after it, with a double colon between them. -/
def elided (groups : List Nat) (start length : Nat) : List Char :=
  joined (groups.take start) ++ ':' :: ':' :: joined (groups.drop (start + length))

/-- The text that a walk over the groups comes to. -/
def compressed (groups : List Nat) : List Char :=
  match walked groups with
  | some (start, length) => elided groups start length
  | none => joined groups

theorem write_eq_compressed (a : Address .v6) : write a = compressed (toGroups a.value) := by
  rw [compressed, walked_eq]
  unfold write
  dsimp only
  split <;> simp [elided]

theorem compressed_of_short (h : ∀ i, ¬ZeroRun groups i 2) : compressed groups = joined groups := by
  obtain ⟨i, run⟩ := (leads_longestRun groups).longest.1
  have short : (longestRun groups).2 < 2 := by
    by_contra long
    exact h i (run.shorter (Nat.not_lt.mp long))
  rw [compressed, walked_eq, if_pos short]

theorem compressed_of_run (h : ZeroRun groups i 2) :
    ∃ i r, Leads groups i r ∧ 2 ≤ r ∧ compressed groups = elided groups i r := by
  have leads := leads_longestRun groups
  have long : 2 ≤ (longestRun groups).2 := leads.longest.2 ⟨i, h⟩
  refine ⟨_, _, leads, long, ?_⟩
  rw [compressed, walked_eq, if_neg (Nat.not_lt.mpr long)]

/-- A double colon stands for a run of two zero groups or more. -/
theorem exists_run_of_double (h : compressed groups = before ++ ':' :: ':' :: after) :
    ∃ i r, 2 ≤ r ∧ ZeroRun groups i r ∧ before = joined (groups.take i) ∧
      after = joined (groups.drop (i + r)) := by
  by_cases run : ∃ i, ZeroRun groups i 2
  · obtain ⟨i, run⟩ := run
    obtain ⟨i, r, leads, long, spelt⟩ := compressed_of_run run
    rw [spelt] at h
    obtain ⟨rfl, rfl⟩ := eq_of_double (parted_joined _) (parted_joined _) h
    exact ⟨i, r, long, leads.leftmost.1, rfl, rfl⟩
  · rw [compressed_of_short (not_exists.mp run)] at h
    exact absurd h (parted_joined groups).not_double

theorem double_unique {before' after' : List Char} (h : compressed groups = before ++ ':' :: ':' :: after)
    (h' : compressed groups = before' ++ ':' :: ':' :: after') : before = before' ∧ after = after' := by
  obtain ⟨i, r, -, -, rfl, rfl⟩ := exists_run_of_double h
  rw [h] at h'
  exact eq_of_double (parted_joined _) (parted_joined _) h'

theorem textOf_value_groups (g : Groups) :
    textOf .v6 g.value = .ok (String.ofList (compressed g.list)) := by
  have spelt := textOf_value ⟨g.value, g.value_lt⟩
  rw [spelt, text, write_eq_compressed, toGroups_value]

/-- Every number of the space has eight groups, and there is a text for it. Without two zero groups side by
side the text has all groups; else it leaves out the leftmost of the longest runs, and has the groups before
and after it around a double colon. There is at most one double colon, which never stands for a single group,
and no two numbers have the same text. The text is the one that a single walk over the groups comes to. -/
theorem text_leaves_out_longest_run :
    (∀ v : Nat, v < Family.v6.space → ∃ g : Groups, g.value = v) ∧
    (∀ g : Groups, ∃ s, textOf .v6 g.value = .ok s ∧ s.toList = compressed g.list ∧
      ((∀ i, ¬ZeroRun g.list i 2) → s.toList = joined g.list) ∧
      ((∃ i, ZeroRun g.list i 2) → ∃ i r, IsGreatest {n | ∃ j, ZeroRun g.list j n} r ∧
        IsLeast {j | ZeroRun g.list j r} i ∧
        s.toList = joined (g.list.take i) ++ ':' :: ':' :: joined (g.list.drop (i + r))) ∧
      (∀ before after, s.toList = before ++ ':' :: ':' :: after → ∃ i r, 2 ≤ r ∧ ZeroRun g.list i r ∧
        before = joined (g.list.take i) ∧ after = joined (g.list.drop (i + r))) ∧
      ∀ before after before' after', s.toList = before ++ ':' :: ':' :: after →
        s.toList = before' ++ ':' :: ':' :: after' → before = before' ∧ after = after') ∧
    ∀ (v w : Int) (s : String), textOf .v6 v = .ok s → textOf .v6 w = .ok s → v = w := by
  refine ⟨fun v hv => ⟨groupsOf ⟨v, hv⟩, value_groupsOf ⟨v, hv⟩⟩, fun g => ?_, fun v w s hv hw => ?_⟩
  · refine ⟨_, textOf_value_groups g, ?_⟩
    rw [String.toList_ofList]
    refine ⟨rfl, compressed_of_short, ?_, fun before after h => exists_run_of_double h,
      fun before after before' after' h h' => double_unique h h'⟩
    rintro ⟨i, run⟩
    obtain ⟨i, r, leads, -, spelt⟩ := compressed_of_run run
    exact ⟨i, r, leads.longest, leads.leftmost, spelt⟩
  · obtain ⟨a, rfl, reads⟩ := exists_of_textOf hv
    obtain ⟨b, rfl, reads'⟩ := exists_of_textOf hw
    rw [reads] at reads'
    rw [Except.ok.inj reads']

/-- The groups `1:0:0:2:0:0:0:0`: the second run is longer and goes on to the end. -/
def twoRuns : Groups := ⟨[1, 0, 0, 2, 0, 0, 0, 0], rfl, by decide⟩

/-- The groups `0:1:0:2:0:3:0:4`, of which no two zero groups stand side by side. -/
def singleZeros : Groups := ⟨[0, 1, 0, 2, 0, 3, 0, 4], rfl, by decide⟩

theorem text_leaves_out_longest_run_at_the_end :
    (∃ s, textOf .v6 twoRuns.value = .ok s ∧ s = "1:0:0:2::" ∧ (∃ i, ZeroRun twoRuns.list i 2) ∧
      ∃ i r, IsGreatest {n | ∃ j, ZeroRun twoRuns.list j n} r ∧ IsLeast {j | ZeroRun twoRuns.list j r} i ∧
        s.toList = joined (twoRuns.list.take i) ++ ':' :: ':' :: joined (twoRuns.list.drop (i + r))) ∧
    (∃ s, textOf .v6 singleZeros.value = .ok s ∧ s = "0:1:0:2:0:3:0:4" ∧
      ∀ i, ¬ZeroRun singleZeros.list i 2) ∧
    ∃ g : Groups, g.value = Nat.pow 2 128 - 1 := by
  obtain ⟨groups, spelt, -⟩ := text_leaves_out_longest_run
  refine ⟨?_, ?_, groups (Nat.pow 2 128 - 1) (by decide)⟩
  · obtain ⟨s, made, walk, -, runs, -⟩ := spelt twoRuns
    have run : ∃ i, ZeroRun twoRuns.list i 2 := ⟨4, zeroRun_iff.mpr (by decide)⟩
    refine ⟨s, made, ?_, run, runs run⟩
    rw [← String.toList_inj, walk]
    decide +kernel
  · obtain ⟨s, made, -, plain, -⟩ := spelt singleZeros
    have single : ∀ i, ¬ZeroRun singleZeros.list i 2 := by
      intro i run
      have inside : i + 2 ≤ 8 := run.stop_le (by decide)
      have short : ∀ i, i ≤ 6 → zerosFrom singleZeros.list i < 2 := by decide
      exact absurd (zeroRun_iff.mp run) (Nat.not_le.mpr (short i (by omega)))
    refine ⟨s, made, ?_, single⟩
    rw [← String.toList_inj, plain single]
    decide +kernel

end ResourcePool.Address.V6
