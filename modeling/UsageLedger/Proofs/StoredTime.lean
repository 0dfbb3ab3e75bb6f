import UsageLedger.Proofs.Calendar
import UsageLedger.Proofs.Numerals

/-!
# The stored form of an instant

The program writes instants in one layout and reads them in two.  What calendar and clock show
is all that is written of an instant, so one that is not settled is written, and read, as the
instant that they show. Settled instants are read back exactly, to the nanosecond and across
leap seconds, while the year has four digits.  All other years are written with a sign, which
neither of the layouts that are read admits.

## Main definitions

* `Instant.settle` — the settled instant that calendar and clock show.
* `Instant.hasPlainYear` — the year of the instant has four digits.

## Main results

* `Instant.reading_settle` — calendar and clock show what they show at the settled instant.
* `Instant.instant?_reading` — the settled instant is found from what calendar and clock show.
* `Instant.readStored?_stored` — **the stored form is read back, as the settled instant, exactly
  when the year has four digits.** -/

namespace UsageLedger

open Text Time

theorem Time.takeFraction_lastDigits {w : Nat} (hw : w ≠ 0) (hle : w ≤ 9) (n : Nat) :
    takeFraction ('.' :: (lastDigits w n ++ ['Z'])) = some (n % 10 ^ w * 10 ^ (9 - w), ['Z']) := by
  have hdigits : (lastDigits w n ++ ['Z']).takeWhile Char.isDigit = lastDigits w n := by
    rw [List.takeWhile_append_of_pos fun c hc => isDigit_of_mem_lastDigits hc]
    simp
  have hlen : (lastDigits w n).length = w := length_lastDigits w n
  have hempty : (lastDigits w n).isEmpty = false := by
    rw [List.isEmpty_eq_false_iff, ← List.length_pos_iff, hlen]
    exact Nat.pos_of_ne_zero hw
  rw [takeFraction, takeNanos, hdigits, List.take_of_length_le (hlen.symm ▸ hle), hempty]
  dsimp only
  rw [hlen, ofDigits_lastDigits, List.drop_left' hlen]
  simp

/-! ### The plain layout

It has no mark between date and time of day that is a letter, so whatever its readers pass over,
a `T` is left behind. -/

namespace Time

variable {cs rest : List Char}

theorem mark_mem_dropWhile {p : Char → Bool} (hp : p 'T' = false) (h : 'T' ∈ cs) :
    'T' ∈ cs.dropWhile p := by
  rw [← List.takeWhile_append_dropWhile (p := p) (l := cs), List.mem_append] at h
  refine h.resolve_left fun hmem => ?_
  have htrue := List.mem_takeWhile_imp hmem
  rw [hp] at htrue
  cases htrue

theorem mark_mem_dropBlanks (h : 'T' ∈ cs) : 'T' ∈ dropBlanks cs :=
  mark_mem_dropWhile (by decide) h

theorem mark_mem_of_expect {c : Char} (hc : c ≠ 'T') (htake : expect c cs = some rest)
    (h : 'T' ∈ cs) : 'T' ∈ rest := by
  cases cs with
  | nil => cases h
  | cons d cs =>
    rw [expect] at htake
    split at htake
    · next hd =>
      obtain rfl : cs = rest := by simpa using htake
      exact (List.mem_cons.mp h).resolve_left fun hT => hc (hd ▸ hT.symm)
    · cases htake

theorem mark_mem_of_takeNumber {least most n : Nat}
    (htake : takeNumber least most cs = some (n, rest)) (h : 'T' ∈ cs) : 'T' ∈ rest := by
  have hprefix : (cs.take most).takeWhile Char.isDigit <+: cs :=
    (List.takeWhile_prefix _).trans (List.take_prefix _ _)
  have hdigits : 'T' ∉ (cs.take most).takeWhile Char.isDigit := fun hmem =>
    absurd (List.mem_takeWhile_imp hmem) (by decide)
  rw [takeNumber] at htake
  generalize (cs.take most).takeWhile Char.isDigit = ds at htake hprefix hdigits
  obtain ⟨tail, rfl⟩ := hprefix
  split at htake
  · cases htake
  · rw [List.drop_left, Option.some.injEq, Prod.mk.injEq] at htake
    rw [← htake.2]
    exact (List.mem_append.mp h).resolve_left hdigits

theorem mark_mem_of_takeYear {year : Int} (htake : takeYear cs = some (year, rest)) (h : 'T' ∈ cs) :
    'T' ∈ rest := by
  have hblanks := mark_mem_dropBlanks h
  have hbehind : ∀ {most : Nat} {cs' : List Char} (f : Nat → Int), 'T' ∈ cs' →
      (takeNumber 1 most cs').map (fun p => (f p.1, p.2)) = some (year, rest) → 'T' ∈ rest := by
    intro most cs' f hmem hmap
    obtain ⟨⟨n, rest'⟩, hnumber, hpair⟩ := Option.map_eq_some_iff.mp hmap
    obtain rfl : rest' = rest := (Prod.mk.inj hpair).2
    exact mark_mem_of_takeNumber hnumber hmem
  -- a sign or none, then the digits; the mark is neither
  rw [takeYear] at htake
  split at htake
  · next cs' hcs =>
    rw [hcs] at hblanks
    exact hbehind (fun n => -n) (by simpa using hblanks) htake
  · next cs' hcs =>
    rw [hcs] at hblanks
    exact hbehind (fun n => n) (by simpa using hblanks) htake
  · exact hbehind (fun n => n) hblanks htake

theorem mark_mem_of_takeField {n : Nat} (htake : takeField cs = some (n, rest)) (h : 'T' ∈ cs) :
    'T' ∈ rest :=
  mark_mem_of_takeNumber htake (mark_mem_dropBlanks h)

/-- The plain layout leaves a `T` behind. -/
theorem mark_mem_of_takePlain {r : Reading} (htake : takePlain cs = some (r, rest)) (h : 'T' ∈ cs) :
    'T' ∈ rest := by
  simp only [takePlain, takeDate, takeClock, Option.bind_eq_bind, Option.bind_eq_some_iff,
    Option.some.injEq, Prod.mk.injEq, Prod.exists] at htake
  obtain ⟨date, cs₁, ⟨year, cs₂, hyear, cs₃, hmark₁, month, cs₄, hmonth, cs₅, hmark₂, day, cs₆,
      hday, -, rfl⟩, hour, minute, second, cs₇,
        ⟨hour', cs₈, hhour, cs₉, hmark₃, minute', cs₁₀, hminute, cs₁₁,
    hmark₄, second', cs₁₂, hsecond, -, rfl⟩, -, rfl⟩ := htake
  have hdate := mark_mem_of_takeField hday <| mark_mem_of_expect (by decide) hmark₂ <|
    mark_mem_of_takeField hmonth <| mark_mem_of_expect (by decide) hmark₁ <|
    mark_mem_of_takeYear hyear h
  exact mark_mem_of_takeField hsecond <| mark_mem_of_expect (by decide) hmark₄ <|
    mark_mem_of_takeField hminute <| mark_mem_of_expect (by decide) hmark₃ <|
    mark_mem_of_takeField hhour <| mark_mem_dropBlanks hdate

end Time

namespace Instant

/-! ### Settled instants -/

/-- The settled instant that calendar and clock show: a second that is prolonged in the middle
of a minute runs into the next one. -/
def settle (t : Instant) : Instant :=
  if h : t.Settled then t
  else
    have hs := t.seconds_inRange
    have hn := t.nanos_inRange
    { seconds := t.seconds + 1
      nanos := t.nanos - 1000000000
      seconds_inRange := by
        simp only [Settled, earliestSecond, latestSecond] at h hs ⊢
        omega
      nanos_inRange := by omega }

theorem settle_of_settled {t : Instant} (h : t.Settled) : t.settle = t :=
  dif_pos h

theorem settled_settle (t : Instant) : t.settle.Settled := by
  have hn := t.nanos_inRange
  rw [settle]
  split
  · assumption
  · exact .inl (by dsimp only; omega)

theorem settle_eq_self_iff {t : Instant} : t.settle = t ↔ t.Settled :=
  ⟨fun h => h ▸ t.settled_settle, settle_of_settled⟩

@[simp] theorem settle_settle (t : Instant) : t.settle.settle = t.settle :=
  settle_of_settled t.settled_settle

/-- **Calendar and clock show what they show at the settled instant.** -/
@[simp] theorem reading_settle (t : Instant) : t.settle.reading = t.reading := by
  by_cases h : t.Settled
  · rw [settle_of_settled h]
  · rw [settle, dif_neg h]
    simp only [Settled, not_or, Nat.not_lt] at h
    have hn := t.nanos_inRange
    -- the next second is one of the same minute, and so of the same day
    have hday : (t.seconds + 1) / 86400 = t.seconds / 86400 := by omega
    have hleap : ¬t.nanos < 1000000000 := by omega
    have hplain : t.nanos - 1000000000 < 1000000000 := by omega
    simp only [reading, hday, hleap, hplain, if_true, if_false, Reading.mk.injEq, true_and]
    omega

theorem ofUnix?_self {t : Instant} (h : t.Settled) : ofUnix? t.seconds t.nanos = some t := by
  rw [ofUnix?, dif_pos t.seconds_inRange, dif_pos t.nanos_inRange]
  exact Option.guard_eq_some_iff.mpr ⟨rfl, decide_eq_true h⟩

theorem settled_of_ofUnix? {seconds : Int} {nanos : Nat} {t : Instant}
    (h : ofUnix? seconds nanos = some t) :
    t.Settled := by
  rw [ofUnix?] at h
  split at h
  · split at h
    · obtain ⟨rfl, hsettled⟩ := Option.guard_eq_some_iff.mp h
      exact of_decide_eq_true hsettled
    · cases h
  · cases h

theorem settled_of_instant? {r : Reading} {offset : Int} {t : Instant}
    (h : r.instant? offset = some t) :
    t.Settled := by
  rw [Reading.instant?] at h
  split at h
  · exact settled_of_ofUnix? h
  · cases h

theorem settled_of_readStored? {text : String} {t : Instant} (h : readStored? text = some t) :
    t.Settled := by
  rw [readStored?, Option.or_eq_some_iff] at h
  rcases h with h | ⟨-, h⟩
  · rw [readStrict?] at h
    split at h
    · exact settled_of_instant? h
    · cases h
  · rw [readPlain?] at h
    split at h
    · exact settled_of_instant? h
    · cases h

/-! ### Calendar and clock -/

/-- The year of the instant has four digits, and is written without a sign. -/
def hasPlainYear (t : Instant) : Bool :=
  0 ≤ t.reading.date.year && t.reading.date.year ≤ 9999

@[simp] theorem hasPlainYear_settle (t : Instant) : t.settle.hasPlainYear = t.hasPlainYear := by
  rw [hasPlainYear, reading_settle, hasPlainYear]

theorem hasPlainYear_iff {t : Instant} :
    t.hasPlainYear = true ↔ 0 ≤ t.reading.date.year ∧ t.reading.date.year ≤ 9999 := by
  simp [hasPlainYear]

theorem reading_inRange (t : Instant) :
    t.reading.date.isValid = true ∧ t.reading.hour < 24 ∧ t.reading.minute < 60 ∧
      t.reading.second ≤ 60 ∧ t.reading.nanos < 1000000000 := by
  refine ⟨Date.isValid_ofDayNumber _, ?_, ?_, ?_, ?_⟩
  · simp only [reading]
    omega
  · simp only [reading]
    omega
  · simp only [reading]
    split <;> omega
  · simp only [reading]
    omega

theorem year_inRange (t : Instant) :
    -262143 ≤ t.reading.date.year ∧ t.reading.date.year ≤ 262142 := by
  have hseconds := t.seconds_inRange
  have hday : t.reading.date.dayNumber = t.seconds / 86400 := Date.dayNumber_ofDayNumber _
  simp only [earliestSecond, latestSecond] at hseconds
  exact Date.year_inRange t.reading_inRange.1 (by omega) (by omega)

/-- A settled instant is found again from what calendar and clock show. -/
theorem instant?_reading_of_settled {t : Instant} (h : t.Settled) :
    t.reading.instant? 0 = some t := by
  obtain ⟨hdate, hhour, hminute, hsecond, hnanos⟩ := t.reading_inRange
  have hyear := t.year_inRange
  have hvalid : t.reading.isValid = true := by
    simp only [Reading.isValid, Bool.and_eq_true, decide_eq_true_eq]
    exact ⟨⟨⟨⟨⟨⟨hdate, by omega⟩, by omega⟩, hhour⟩, hminute⟩, hsecond⟩, hnanos⟩
  have hday : t.reading.date.dayNumber = t.seconds / 86400 := Date.dayNumber_ofDayNumber _
  rw [Reading.instant?, if_pos hvalid, hday]
  -- a leap second is the second before it, prolonged
  have hn := t.nanos_inRange
  rw [Settled] at h
  have hseconds : 86400 * (t.seconds / 86400) + 3600 * (t.reading.hour : Int) +
      60 * (t.reading.minute : Int) + (min t.reading.second 59 : Nat) - 0 = t.seconds := by
    simp only [reading]
    split <;> omega
  have hcount : t.reading.nanos + (if t.reading.second = 60 then 1000000000 else 0) = t.nanos := by
    simp only [reading]
    split <;> split <;> omega
  dsimp only
  rw [hseconds, hcount, ofUnix?_self h]

/-- **The settled instant is found** from what calendar and clock show. -/
theorem instant?_reading (t : Instant) : t.reading.instant? 0 = some t.settle := by
  rw [← t.reading_settle]
  exact instant?_reading_of_settled t.settled_settle

/-- The strict layout takes the whole stored form and gives what calendar and clock show. -/
theorem takeStrict_storedText {t : Instant} (h : t.hasPlainYear = true) :
    takeStrict t.storedText = some ((t.reading, 0), []) := by
  obtain ⟨hdate, hhour, hminute, hsecond, hnanos⟩ := t.reading_inRange
  obtain ⟨hpast, hfuture⟩ := hasPlainYear_iff.mp h
  have hmonth : t.reading.date.month < 100 ∧ t.reading.date.day < 100 := by
    have hdays := Date.daysInMonth_le t.reading.date.year t.reading.date.month
    simp only [Date.isValid, Bool.and_eq_true, decide_eq_true_eq] at hdate
    omega
  have hyear : ((t.reading.date.year.natAbs % 10 ^ 4 : Nat) : Int) = t.reading.date.year := by
    omega
  rw [storedText]
  -- each field is a number of fixed width, so the reader can follow the text
  generalize t.reading = r at *
  obtain ⟨⟨year, month, day⟩, hour, minute, second, nanos⟩ := r
  dsimp only at *
  simp only [Reading.secondText, yearText, hpast, hfuture, and_self, if_true, List.append_assoc,
    List.cons_append, takeStrict, takeNumber_lastDigits (Nat.le_refl _), expect_self,
    Option.bind_eq_bind, Option.bind_some, takeSeparator, true_or,
    takeFraction_lastDigits (by decide : 9 ≠ 0) (Nat.le_refl 9), Nat.sub_self, Nat.pow_zero,
    Nat.mul_one, takeOffset, hyear]
  rw [Nat.mod_eq_of_lt (show month < 10 ^ 2 by omega),
    Nat.mod_eq_of_lt (show day < 10 ^ 2 by omega), Nat.mod_eq_of_lt (show hour < 10 ^ 2 by omega),
    Nat.mod_eq_of_lt (show minute < 10 ^ 2 by omega),
    Nat.mod_eq_of_lt (show second < 10 ^ 2 by omega),
    Nat.mod_eq_of_lt (show nanos < 10 ^ 9 by omega)]

/-- The plain layout does not take the stored form. -/
theorem readPlain?_stored (t : Instant) : readPlain? t.stored = none := by
  have hmark : 'T' ∈ t.storedText := by simp [storedText, Reading.secondText]
  rw [readPlain?, stored, String.toList_ofList]
  split
  · next r hplain => cases mark_mem_of_takePlain hplain hmark
  · rfl

/-- The strict layout does not take a year with a sign. -/
theorem readStrict?_stored_of_not_hasPlainYear {t : Instant} (h : t.hasPlainYear = false) :
    readStrict? t.stored = none := by
  have hyear : ¬(0 ≤ t.reading.date.year ∧ t.reading.date.year ≤ 9999) := by
    rw [← hasPlainYear_iff, h]
    simp
  obtain ⟨rest, htext⟩ : ∃ rest, t.storedText =
      (if t.reading.date.year < 0 then '-' else '+') :: rest := by
    simp only [storedText, Reading.secondText, yearText, if_neg hyear, List.cons_append]
    exact ⟨_, rfl⟩
  have hsign : (if t.reading.date.year < 0 then '-' else '+').isDigit = false := by
    split <;> decide
  rw [readStrict?, stored, String.toList_ofList, htext, takeStrict,
    takeNumber_of_not_digit (by decide) hsign]
  rfl

/-- **The stored form is read back, as the settled instant, exactly when the year has four
digits**, and not at all when it has not. -/
theorem readStored?_stored (t : Instant) :
    readStored? t.stored = if t.hasPlainYear then some t.settle else none := by
  rw [readStored?, readPlain?_stored, Option.or_none]
  cases h : t.hasPlainYear with
  | true =>
    rw [readStrict?, stored, String.toList_ofList, takeStrict_storedText h]
    exact instant?_reading t
  | false => exact readStrict?_stored_of_not_hasPlainYear h

end Instant

end UsageLedger
