import ResourcePool.Address
import ResourcePool.Proofs.Address.Hexadecimal

/-! Reading what was written gives the IPv6 address back. The eight groups of a value determine it, a
group is read back from its digits, and the double colon of a written address stands exactly where
zero groups were left out: no group is empty, so no other two colons meet. -/

namespace ResourcePool.Address.V6

/-! ### Groups of a value -/

theorem length_toGroups (value : Nat) : (toGroups value).length = 8 := rfl

theorem lt_of_mem_toGroups {value g : Nat} (h : g ∈ toGroups value) : g < 65536 := by
  obtain ⟨i, -, rfl⟩ := List.mem_map.mp h
  exact Nat.mod_lt _ (by decide)

theorem ofGroups_toGroups {value : Nat} (h : value < Family.v6.space) :
    ofGroups (toGroups value) = value := by
  have shift : ∀ i, value / Nat.pow 65536 (i + 1) = value / Nat.pow 65536 i / 65536 := by
    intro i
    rw [Nat.div_div_eq_div_mul]
    rfl
  have top : value / Nat.pow 65536 7 < 65536 := Nat.div_lt_of_lt_mul h
  -- What is left of the value from one group on is that group and what is left from the next one on.
  have join : ∀ i, 65536 * (value / Nat.pow 65536 (i + 1)) + value / Nat.pow 65536 i % 65536 =
      value / Nat.pow 65536 i := by
    intro i
    rw [shift]
    exact Nat.div_add_mod _ _
  show 65536 * (65536 * (65536 * (65536 * (65536 * (65536 * (65536 * (65536 * 0 +
    value / Nat.pow 65536 7 % 65536) + value / Nat.pow 65536 6 % 65536) +
    value / Nat.pow 65536 5 % 65536) + value / Nat.pow 65536 4 % 65536) +
    value / Nat.pow 65536 3 % 65536) + value / Nat.pow 65536 2 % 65536) +
    value / Nat.pow 65536 1 % 65536) + value / Nat.pow 65536 0 % 65536 = value
  rw [Nat.mod_eq_of_lt top, Nat.mul_zero, Nat.zero_add, join 6, join 5, join 4, join 3, join 2,
    join 1, join 0]
  exact Nat.div_one value

/-! ### Groups as text -/

theorem colon_not_mem (n : Nat) : ':' ∉ Nat.toDigits 16 n :=
  Numeral.not_mem_toDigits_hex (by decide) n

theorem hexGroup?_toDigits {n : Nat} (h : n < 65536) : hexGroup? (Nat.toDigits 16 n) = some n := by
  have short : (Nat.toDigits 16 n).length ≤ 4 :=
    (Nat.length_toDigits_le_iff (by decide) (by decide)).mpr h
  rw [hexGroup?, if_neg (by simp; omega), Numeral.hexadecimal?_toDigits]

/-- A group is never taken for an IPv4 address, since it holds no point. -/
theorem embedded?_toDigits (spelling : Spelling) (n : Nat) :
    embedded? spelling (Nat.toDigits 16 n) = none := by
  have whole : V4.groups? (Nat.toDigits 16 n) = none := by
    rw [V4.groups?, List.splitOn_eq_singleton (Numeral.not_mem_toDigits_hex (by decide) n)]
  simp [embedded?, whole]

theorem readGroups?_toDigits {ipv4? : List Char → Option (List Nat)}
    (none? : ∀ n, ipv4? (Nat.toDigits 16 n) = none) {groups : List Nat}
    (h : ∀ g ∈ groups, g < 65536) : readGroups? ipv4? (groups.map (Nat.toDigits 16)) = some groups := by
  induction groups with
  | nil => rfl
  | cons g rest ih =>
    have head := hexGroup?_toDigits (h g List.mem_cons_self)
    have tail := ih fun g' hg' => h g' (List.mem_cons_of_mem _ hg')
    cases rest with
    | nil => simp [readGroups?, none?, head]
    | cons g' rest =>
      rw [List.map_cons] at tail
      simp [readGroups?, head, tail]

theorem joined_cons_cons (g g' : Nat) (rest : List Nat) :
    joined (g :: g' :: rest) = Nat.toDigits 16 g ++ ':' :: joined (g' :: rest) := by
  simp [joined, List.intercalate_cons_cons]

theorem pieces_joined (groups : List Nat) : pieces (joined groups) = groups.map (Nat.toDigits 16) := by
  cases groups with
  | nil => rfl
  | cons g rest =>
    have filled : joined (g :: rest) ≠ [] := by
      cases rest with
      | nil => simp [joined]
      | cons g' rest => simp [joined_cons_cons]
    rw [pieces, if_neg filled]
    refine List.splitOn_intercalate ':' ?_ (by simp)
    intro l hl
    obtain ⟨n, -, rfl⟩ := List.mem_map.mp hl
    exact colon_not_mem n

/-! ### The double colon -/

theorem splitElision?_cons {c : Char} {cs : List Char} (h : c = ':' → cs.head? ≠ some ':') :
    splitElision? (c :: cs) = (splitElision? cs).map fun p => (c :: p.1, p.2) := by
  refine splitElision?.eq_2 c cs ?_
  rintro rest rfl rfl
  exact h rfl rfl

theorem splitElision?_append {word : List Char} (h : ':' ∉ word) (rest : List Char) :
    splitElision? (word ++ rest) = (splitElision? rest).map fun p => (word ++ p.1, p.2) := by
  induction word with
  | nil => simp
  | cons c word ih =>
    rw [List.mem_cons, not_or] at h
    rw [List.cons_append, splitElision?_cons fun hc => absurd hc.symm h.1, ih h.2, Option.map_map]
    rfl

/-- Written groups contain no double colon and do not end in a colon. -/
theorem splitElision?_joined_append (groups : List Nat) (rest : List Char) :
    splitElision? (joined groups ++ rest) =
      (splitElision? rest).map fun p => (joined groups ++ p.1, p.2) := by
  induction groups with
  | nil => simp [joined]
  | cons g tail ih =>
    cases tail with
    | nil => simpa [joined] using splitElision?_append (colon_not_mem g) rest
    | cons g' tail =>
      -- A colon between two groups is followed by a digit.
      have single : (joined (g' :: tail) ++ rest).head? ≠ some ':' := by
        have first : ∃ c cs, Nat.toDigits 16 g' = c :: cs := List.exists_cons_of_ne_nil (by simp)
        obtain ⟨c, cs, hc⟩ := first
        have differ : c ≠ ':' := fun same => colon_not_mem g' (by rw [hc, same]; exact List.mem_cons_self)
        cases tail with
        | nil => simpa [joined, hc] using differ
        | cons g'' tail => simpa [joined_cons_cons, hc] using differ
      rw [joined_cons_cons, List.append_assoc, splitElision?_append (colon_not_mem g),
        List.cons_append, splitElision?_cons fun _ => single, ih, Option.map_map, Option.map_map]
      congr 1
      funext p
      simp

/-! ### The elided run -/

/-- The text leaves out nothing but zero groups. -/
def Elides (groups : List Nat) (run : Nat × Nat) : Prop :=
  groups.take run.1 ++ List.replicate run.2 0 ++ groups.drop (run.1 + run.2) = groups

theorem elides_zerosFrom (groups : List Nat) (i : Nat) : Elides groups (i, zerosFrom groups i) := by
  have zeros : (groups.drop i).takeWhile (· == 0) = List.replicate (zerosFrom groups i) 0 := by
    refine List.eq_replicate_iff.mpr ⟨rfl, fun g hg => ?_⟩
    simpa using List.all_eq_true.mp List.all_takeWhile g hg
  have rest : groups.drop (i + zerosFrom groups i) = (groups.drop i).dropWhile (· == 0) := by
    rw [← List.drop_drop]
    conv => lhs; arg 2; rw [← List.takeWhile_append_dropWhile (p := (· == 0)) (l := groups.drop i)]
    exact List.drop_left
  rw [Elides, List.append_assoc, rest, ← zeros, List.takeWhile_append_dropWhile,
    List.take_append_drop]

theorem elides_longestRun (groups : List Nat) : Elides groups (longestRun groups) := by
  refine List.foldlRecOn _ _ (motive := Elides groups) (by simp [Elides]) fun best hbest i _ => ?_
  split
  · exact elides_zerosFrom groups i
  · exact hbest

theorem Elides.length {groups : List Nat} {run : Nat × Nat} (h : Elides groups run) :
    (groups.take run.1).length + run.2 + (groups.drop (run.1 + run.2)).length = groups.length := by
  have total := congrArg List.length h
  rwa [List.length_append, List.length_append, List.length_replicate] at total

/-! ### Reading back -/

theorem groups?_write (spelling : Spelling) (a : Address .v6) :
    groups? spelling (write a) = some (toGroups a.value) := by
  have small : ∀ g ∈ toGroups a.value, g < 65536 := fun _ => lt_of_mem_toGroups
  have kept := elides_longestRun (toGroups a.value)
  have count := kept.length
  unfold write
  generalize hrun : longestRun (toGroups a.value) = run at kept count
  obtain ⟨start, length⟩ := run
  dsimp only
  rw [hrun]
  dsimp only at kept count ⊢
  rw [length_toGroups] at count
  split
  case isTrue =>
    -- Nothing was left out.
    have none? : splitElision? (joined (toGroups a.value)) = none := by
      simpa [splitElision?] using splitElision?_joined_append (toGroups a.value) []
    rw [groups?, none?]
    simp only [pieces_joined, readGroups?_toDigits (embedded?_toDigits _) small, length_toGroups,
      ↓reduceIte]
  case isFalse long =>
    have split := splitElision?_joined_append ((toGroups a.value).take start)
      (':' :: ':' :: joined ((toGroups a.value).drop (start + length)))
    have before : readGroups? (fun _ => none) (((toGroups a.value).take start).map (Nat.toDigits 16)) =
        some ((toGroups a.value).take start) :=
      readGroups?_toDigits (fun _ => rfl) fun g hg => small g (List.mem_of_mem_take hg)
    have after := readGroups?_toDigits (embedded?_toDigits spelling)
      fun g hg => small g (List.mem_of_mem_drop (i := start + length) hg)
    have room : spelling.elides ((toGroups a.value).take start).length
        ((toGroups a.value).drop (start + length)).length = true := by
      simp only [Spelling.elides, Bool.and_eq_true, decide_eq_true_eq]
      split <;> omega
    have zeros : 8 - ((toGroups a.value).take start).length -
        ((toGroups a.value).drop (start + length)).length = length := by omega
    rw [List.append_assoc, List.cons_append, List.cons_append, List.nil_append, groups?, split]
    simp only [splitElision?, Option.map_some, List.append_nil, pieces_joined, before, after, room,
      ↓reduceIte, zeros]
    exact congrArg some kept

theorem read?_write (spelling : Spelling) (a : Address .v6) : read? spelling (write a) = some a := by
  have same := ofGroups_toGroups a.lt
  rw [read?, groups?_write, Option.bind_some, dif_pos (by rw [same]; exact a.lt)]
  simp only [same]

theorem read_write (a : Address .v6) : read (String.ofList (write a)) = .ok a := by
  rw [read, String.toList_ofList, read?_write]

end ResourcePool.Address.V6
