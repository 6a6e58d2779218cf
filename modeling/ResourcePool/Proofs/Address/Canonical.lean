import ResourcePool.Proofs.Pool.Reading

/-! Canonical texts of IPv6 addresses. Every number of the space has one, which is read back as that
number, and no other number has any; hence to read a text and write the address again is to choose one
spelling among all those that are read as the same address. -/

namespace ResourcePool.Address

/-- The text of the address with a given value. -/
def textOf (f : Family) (n : Int) : Except Error String := (ofInt f n).map text

/-- The spelling that a text's address is written with. -/
def respell (f : Family) (s : String) : Except Error String :=
  (read f s).bind fun a => textOf f a.value

theorem ofInt_v6_eq_ok_iff {n : Int} {a : Address .v6} : ofInt .v6 n = .ok a ↔ (a.value : Int) = n := by
  constructor
  · intro h
    rw [ofInt] at h
    split at h
    case isTrue inside =>
      cases h
      exact Int.toNat_of_nonneg inside.1
    case isFalse => cases h
  · rintro rfl
    exact ofInt_value a

theorem textOf_value {f : Family} (a : Address f) : textOf f a.value = .ok a.text := by
  rw [textOf, ofInt_value]
  rfl

/-- A text is written only for a number that is read back from it. -/
theorem exists_of_textOf {n : Int} {t : String} (h : textOf .v6 n = .ok t) :
    ∃ a : Address .v6, (a.value : Int) = n ∧ read .v6 t = .ok a := by
  obtain ⟨a, ha, rfl⟩ := map_eq_ok_iff.mp h
  exact ⟨a, ofInt_v6_eq_ok_iff.mp ha, read_text a⟩

theorem exists_textOf_iff {n : Int} :
    (∃ t, textOf .v6 n = .ok t) ↔ 0 ≤ n ∧ n < Family.v6.space := by
  constructor
  · rintro ⟨t, h⟩
    obtain ⟨a, rfl, -⟩ := exists_of_textOf h
    exact ⟨Int.natCast_nonneg _, Int.ofNat_lt.mpr a.lt⟩
  · rintro ⟨low, high⟩
    obtain ⟨value, rfl⟩ := Int.eq_ofNat_of_zero_le low
    exact ⟨_, textOf_value ⟨value, Int.ofNat_lt.mp high⟩⟩

theorem respell_of_read {f : Family} {s : String} {a : Address f} (h : read f s = .ok a) :
    respell f s = .ok a.text := by
  rw [respell, h]
  exact textOf_value a

/-- A number has a text exactly when it belongs to the space, and the text is read back as the number.
Whatever text an address is read from, the one that it is written with is read as the same address and
is written again as itself. -/
theorem v6_text_round_trip :
    (∀ n : Int, (∃ t, textOf .v6 n = .ok t) ↔ 0 ≤ n ∧ n < Family.v6.space) ∧
    (∀ (n : Int) (t : String), textOf .v6 n = .ok t →
      (read .v6 t).map (fun a => (a.value : Int)) = .ok n) ∧
    ∀ (s : String) (a : Address .v6), read .v6 s = .ok a →
      ∃ t, respell .v6 s = .ok t ∧ read .v6 t = .ok a ∧ respell .v6 t = .ok t := by
  refine ⟨fun n => exists_textOf_iff, fun n t h => ?_, fun s a h => ?_⟩
  · obtain ⟨a, rfl, reads⟩ := exists_of_textOf h
    rw [reads]
    rfl
  · exact ⟨a.text, respell_of_read h, read_text a, respell_of_read (read_text a)⟩

/-- Of two runs of zero groups that are equally long the first is left out, and an embedded IPv4 address
becomes groups: `1:00:0:FFFF:0::10.0.2.0` has one spelling as `1::ffff:0:0:a00:200`. -/
theorem v6_text_round_trip_two_runs :
    (∃ t, textOf .v6 5192296858534827628530496329220096 = .ok t ∧
      (read .v6 t).map (fun a => (a.value : Int)) = .ok 5192296858534827628530496329220096) ∧
    ∃ a t, read .v6 "1:00:0:FFFF:0::10.0.2.0" = .ok a ∧ respell .v6 "1:00:0:FFFF:0::10.0.2.0" = .ok t ∧
      read .v6 t = .ok a ∧ respell .v6 t = .ok t ∧ t = "1::ffff:0:0:a00:200" := by
  obtain ⟨written, reads, respells⟩ := v6_text_round_trip
  refine ⟨?_, ?_⟩
  · obtain ⟨t, ht⟩ := (written 5192296858534827628530496329220096).mpr ⟨by decide, by decide⟩
    exact ⟨t, ht, reads _ t ht⟩
  · obtain ⟨a, ha⟩ : ∃ a, read .v6 "1:00:0:FFFF:0::10.0.2.0" = .ok a := ⟨_, rfl⟩
    obtain ⟨t, ht, same, fixed⟩ := respells _ a ha
    refine ⟨a, t, ha, ht, same, fixed, ?_⟩
    have spelt : respell .v6 "1:00:0:FFFF:0::10.0.2.0" = .ok "1::ffff:0:0:a00:200" := by decide +kernel
    rw [spelt] at ht
    exact (Except.ok.inj ht).symm

end ResourcePool.Address
