import UsageLedger.Proofs.StoredTime

/-!
# The displayed form of an instant

Snapshots hold an instant with the shortest exact fraction of its second and read it in the
lenient layout.  That layout passes over blanks, takes fields of one digit and years with a
sign; what is displayed has no blanks and fields of two digits, so every part of it is taken as
it stands.  So is what is stored, though the store does not read it like this: the stored form
tells all settled instants apart, also those that do not come back from the store.

## Main results

* `Time.takeYear_yearText`, `Time.takeFraction_fractionText` — the parts whose length varies are
  taken whole.
* `Instant.readLenient?_display` — **the displayed form of every instant is read back**, as the
  settled one.
* `Instant.stored_inj` — the stored forms of different settled instants are different.
-/

namespace UsageLedger

open Text

theorem Text.isBlank_of_isDigit {c : Char} (h : c.isDigit = true) : isBlank c = false := by
  have hrange : 48 ≤ c.toNat ∧ c.toNat ≤ 57 := by
    simpa [Char.isDigit, UInt32.le_iff_toNat_le] using h
  simp only [isBlank, Bool.or_eq_false_iff, Bool.and_eq_false_iff, decide_eq_false_iff_not,
    beq_eq_false_iff_ne]
  omega

theorem Text.dropBlanks_row {ds : List Char} (hds : ∀ c ∈ ds, c.isDigit = true) (hne : ds ≠ [])
    (rest : List Char) : dropBlanks (ds ++ rest) = ds ++ rest := by
  obtain ⟨c, cs, rfl⟩ := List.exists_cons_of_ne_nil hne
  have hc : isBlank c = false := isBlank_of_isDigit (hds c List.mem_cons_self)
  rw [List.cons_append, dropBlanks, List.dropWhile_cons_of_neg (by simp [hc])]

namespace Time

variable {rest : List Char}

theorem expectAfterBlanks_self {c : Char} (hc : isBlank c = false) (cs : List Char) :
    expectAfterBlanks c (c :: cs) = some cs := by
  rw [expectAfterBlanks, dropBlanks, List.dropWhile_cons_of_neg (by simp [hc]), expect_self]

theorem takeField_lastDigits (n : Nat) (rest : List Char) :
    takeField (lastDigits 2 n ++ rest) = some (n % 10 ^ 2, rest) := by
  rw [takeField, dropBlanks_row (fun c hc => isDigit_of_mem_lastDigits hc) (by simp),
    takeNumber_lastDigits (by decide)]

theorem takeYear_row {ds : List Char} (hds : ∀ c ∈ ds, c.isDigit = true) (hne : ds ≠ [])
    (rest : List Char) :
    takeYear (ds ++ rest) = (takeNumber 1 4 (ds ++ rest)).map fun (n, cs) => ((n : Int), cs) := by
  rw [takeYear, dropBlanks_row hds hne]
  obtain ⟨c, cs, rfl⟩ := List.exists_cons_of_ne_nil hne
  have hc : c.isDigit = true := hds c List.mem_cons_self
  split
  -- a sign is no digit
  · next heq =>
    obtain rfl : c = '-' := (List.cons.inj heq).1
    cases hc
  · next heq =>
    obtain rfl : c = '+' := (List.cons.inj heq).1
    cases hc
  · rfl

theorem takeYear_minus (cs : List Char) :
    takeYear ('-' :: cs) = (takeNumber 1 cs.length cs).map fun (n, cs) => (-(n : Int), cs) := rfl

theorem takeYear_plus (cs : List Char) :
    takeYear ('+' :: cs) = (takeNumber 1 cs.length cs).map fun (n, cs) => ((n : Int), cs) := rfl

/-- **A year is taken whole**, with its sign if it has one, where no further digit follows. -/
theorem takeYear_yearText (year : Int) (hrest : ∀ c ∈ rest.head?, c.isDigit = false) :
    takeYear (yearText year ++ rest) = some (year, rest) := by
  -- a sign is followed by at least four digits, and they are read as far as they go
  have hsigned : takeNumber 1 (padded 4 year.natAbs ++ rest).length (padded 4 year.natAbs ++ rest) =
      some (year.natAbs, rest) := by
    have hpos : 1 ≤ (padded 4 year.natAbs).length :=
      List.length_pos_iff.mpr (padded_ne_nil (by decide) _)
    rw [takeNumber_row (fun c hc => isDigit_of_mem_padded hc) hpos (by simp) (.inr hrest),
      ofDigits_padded]
  rw [yearText]
  split
  · next hplain =>
    rw [takeYear_row (fun c hc => isDigit_of_mem_lastDigits hc) (by simp),
      takeNumber_lastDigits (by decide)]
    have hyear : ((year.natAbs % 10 ^ 4 : Nat) : Int) = year := by omega
    exact congrArg (fun y => some (y, rest)) hyear
  · split
    · next hneg =>
      have hyear : -((year.natAbs : Nat) : Int) = year := by omega
      rw [List.cons_append, takeYear_minus, hsigned]
      exact congrArg (fun y => some (y, rest)) hyear
    · next hplain hneg =>
      have hyear : ((year.natAbs : Nat) : Int) = year := by omega
      rw [List.cons_append, takeYear_plus, hsigned]
      exact congrArg (fun y => some (y, rest)) hyear

/-- **The shortest fraction of a second is exact.** -/
theorem takeFraction_fractionText {nanos : Nat} (h : nanos < 1000000000) :
    takeFraction (Reading.fractionText nanos ++ ['Z']) = some (nanos, ['Z']) := by
  -- three, six and nine places differ only in the unit that is left over
  have hplaces : ∀ w unit, w ≠ 0 → w ≤ 9 → 10 ^ w * unit = 10 ^ 9 → 10 ^ (9 - w) = unit →
      nanos % unit = 0 →
      takeFraction ('.' :: (lastDigits w (nanos / unit) ++ ['Z'])) = some (nanos, ['Z']) := by
    intro w unit hw hle hwhole hunit hzero
    have hlt : nanos / unit < 10 ^ w := Nat.div_lt_of_lt_mul (by rw [Nat.mul_comm, hwhole]; exact h)
    rw [takeFraction_lastDigits hw hle, Nat.mod_eq_of_lt hlt, hunit,
      Nat.div_mul_cancel (Nat.dvd_of_mod_eq_zero hzero)]
  rw [Reading.fractionText]
  split
  · next hzero =>
    rw [hzero]
    rfl
  · split
    · next hzero => exact hplaces 3 1000000 (by decide) (by decide) rfl rfl hzero
    · split
      · next hzero => exact hplaces 6 1000 (by decide) (by decide) rfl rfl hzero
      · have hall := hplaces 9 1 (by decide) (by decide) rfl rfl (Nat.mod_one _)
        rwa [Nat.div_one] at hall

end Time

namespace Instant

open Time

/-- **An instant is taken whole**, whatever its year, if the fraction of its second is. -/
theorem takeLenient_secondText (t : Instant) {fraction : List Char}
    (hfraction : takeFraction (fraction ++ ['Z']) = some (t.reading.nanos, ['Z'])) :
    takeLenient (t.reading.secondText ++ fraction ++ ['Z']) = some ((t.reading, 0), []) := by
  obtain ⟨hdate, hhour, hminute, hsecond, -⟩ := t.reading_inRange
  have hmonth : t.reading.date.month < 100 ∧ t.reading.date.day < 100 := by
    have hdays := Date.daysInMonth_le t.reading.date.year t.reading.date.month
    simp only [Date.isValid, Bool.and_eq_true, decide_eq_true_eq] at hdate
    omega
  -- each field is a number of fixed width, so the reader can follow the text
  generalize t.reading = r at *
  obtain ⟨⟨year, month, day⟩, hour, minute, second, nanos⟩ := r
  dsimp only at hhour hminute hsecond hmonth hfraction
  have hdash : isBlank '-' = false := by decide
  have hcolon : isBlank ':' = false := by decide
  simp only [Reading.secondText, List.append_assoc, List.cons_append, takeLenient, takeDate,
    takeClock]
  rw [takeYear_yearText year (by simp)]
  simp only [Option.bind_eq_bind, Option.bind_some, expectAfterBlanks_self hdash,
    expectAfterBlanks_self hcolon, takeField_lastDigits, takeSeparator, true_or, if_true, hfraction]
  rw [Nat.mod_eq_of_lt (show month < 10 ^ 2 by omega),
    Nat.mod_eq_of_lt (show day < 10 ^ 2 by omega), Nat.mod_eq_of_lt (show hour < 10 ^ 2 by omega),
    Nat.mod_eq_of_lt (show minute < 10 ^ 2 by omega),
    Nat.mod_eq_of_lt (show second < 10 ^ 2 by omega)]
  rfl

/-- **The displayed form of every instant is read back** as the settled one, whatever its year,
to the nanosecond. -/
theorem readLenient?_display (t : Instant) : readLenient? t.display = some t.settle := by
  have hnanos : t.reading.nanos < 1000000000 := t.reading_inRange.2.2.2.2
  have htaken := t.takeLenient_secondText (takeFraction_fractionText hnanos)
  rw [readLenient?, display, String.toList_ofList, htaken]
  exact t.instant?_reading

theorem readLenient?_stored (t : Instant) : readLenient? t.stored = some t.settle := by
  have hnanos : t.reading.nanos < 1000000000 := t.reading_inRange.2.2.2.2
  have hfraction : takeFraction ('.' :: lastDigits 9 t.reading.nanos ++ ['Z']) =
      some (t.reading.nanos, ['Z']) := by
    rw [List.cons_append, takeFraction_lastDigits (by decide) (Nat.le_refl 9), Nat.sub_self,
      Nat.pow_zero, Nat.mul_one, Nat.mod_eq_of_lt (show t.reading.nanos < 10 ^ 9 from hnanos)]
  rw [readLenient?, stored, String.toList_ofList, storedText, t.takeLenient_secondText hfraction]
  exact t.instant?_reading

theorem settled_of_readLenient? {text : String} {t : Instant} (h : readLenient? text = some t) :
    t.Settled := by
  rw [readLenient?] at h
  split at h
  · exact settled_of_instant? h
  · cases h

@[simp] theorem stored_settle (t : Instant) : t.settle.stored = t.stored := by
  rw [stored, stored, storedText, storedText, reading_settle]

@[simp] theorem display_settle (t : Instant) : t.settle.display = t.display := by
  rw [display, display, reading_settle]

/-- **Stored forms are different unless the settled instants are the same**, whatever their
years. -/
theorem stored_inj {t u : Instant} : t.stored = u.stored ↔ t.settle = u.settle := by
  constructor
  · intro h
    have hread := readLenient?_stored t
    rw [h, readLenient?_stored] at hread
    exact (Option.some.inj hread).symm
  · intro h
    rw [← t.stored_settle, h, u.stored_settle]

end Instant

end UsageLedger
