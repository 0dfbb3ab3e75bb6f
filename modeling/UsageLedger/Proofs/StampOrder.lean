import UsageLedger.Proofs.Settling
import UsageLedger.Proofs.TextBytes
import Mathlib.Data.Int.Order.Basic
import Mathlib.Data.List.Lex
import Mathlib.Tactic.Tauto

/-!
# The order of stored instants

The store sorts its rows by the text of their timestamps, and means the order of the instants.
The text spells out what calendar and clock show, the part that changes least first and each
part in equally many digits, so the texts of two instants compare part by part; and so do
settled instants themselves, leap seconds included, since a later date has a greater number and
a leap second is the last one of its minute.

An instant that is not settled is neither read back nor put in order as itself: its text is that
of the settled instant, which may come after one that it comes before.

## Main definitions

* `Reading.parts` — what calendar and clock show, by which readings are compared.

## Main results

* `Instant.lt_iff_parts_lt` — one settled instant is before another one exactly when its reading is.
* `Instant.stored_lt_iff` — stored forms with years of four digits are ordered like the settled
  instants.
* `stored_form_settles` — **the stored form changes no instant but by settling it, and keeps the
  order.** -/

namespace UsageLedger

open Text

/-- What calendar and clock show, the part that changes least first. -/
def Reading.parts (r : Reading) : List Int :=
  r.date.parts ++ [(r.hour : Int), r.minute, r.second, r.nanos]

namespace Reading

variable {r r' : Reading}

/-- Readings are compared by their dates, and on one date by their times of day. -/
theorem parts_lt_iff : r.parts < r'.parts ↔ r.date.parts < r'.date.parts ∨ r.date = r'.date ∧
    (r.hour < r'.hour ∨ r.hour = r'.hour ∧ (r.minute < r'.minute ∨ r.minute = r'.minute ∧
      (r.second < r'.second ∨ r.second = r'.second ∧ r.nanos < r'.nanos))) := by
  obtain ⟨⟨year, month, day⟩, hour, minute, second, nanos⟩ := r
  obtain ⟨⟨year', month', day'⟩, hour', minute', second', nanos'⟩ := r'
  simp only [parts, Date.parts, List.cons_append, List.nil_append, List.cons_lt_cons_iff,
    List.lt_irrefl, Date.mk.injEq, Int.ofNat_lt, Int.natCast_inj, and_false, or_false]
  tauto

theorem parts_inj : r.parts = r'.parts ↔ r = r' := by
  obtain ⟨⟨year, month, day⟩, hour, minute, second, nanos⟩ := r
  obtain ⟨⟨year', month', day'⟩, hour', minute', second', nanos'⟩ := r'
  simp only [parts, Date.parts, List.cons_append, List.nil_append, List.cons.injEq,
    Reading.mk.injEq, Date.mk.injEq, Int.natCast_inj]
  tauto

end Reading

namespace Instant

variable {t u : Instant}

theorem lt_iff : t < u ↔ t.seconds < u.seconds ∨ t.seconds = u.seconds ∧ t.nanos < u.nanos := by
  show ¬u.le t = true ↔ _
  rw [le_iff]
  omega

/-- Settled instants that calendar and clock show alike are the same. -/
theorem eq_of_reading_eq (ht : t.Settled) (hu : u.Settled) (h : t.reading = u.reading) : t = u := by
  have hfound := instant?_reading_of_settled ht
  rw [h, instant?_reading_of_settled hu] at hfound
  exact (Option.some.inj hfound).symm

/-- An instant whose reading comes before that of a settled one is the earlier one. -/
theorem lt_of_parts_lt (hu : u.Settled) (h : t.reading.parts < u.reading.parts) : t < u := by
  have htday : t.reading.date.dayNumber = t.seconds / 86400 := Date.dayNumber_ofDayNumber _
  have huday : u.reading.date.dayNumber = u.seconds / 86400 := Date.dayNumber_ofDayNumber _
  have htnanos := t.nanos_inRange
  have hunanos := u.nanos_inRange
  rw [Settled] at hu
  rw [lt_iff]
  rcases Reading.parts_lt_iff.mp h with hdate | ⟨hdate, hclock⟩
  · have hday := Date.dayNumber_lt t.reading_inRange.1 u.reading_inRange.1 hdate
    omega
  · rw [← hdate, htday] at huday
    simp only [reading] at hclock
    -- only the last second of a minute is prolonged, so what is shown tells seconds from
    -- leap seconds
    split at hclock <;> split at hclock <;> omega

/-- **One settled instant is before another one exactly when its reading is.** -/
theorem lt_iff_parts_lt (ht : t.Settled) (hu : u.Settled) :
    t < u ↔ t.reading.parts < u.reading.parts := by
  refine ⟨fun h => ?_, lt_of_parts_lt hu⟩
  rw [lt_iff] at h
  rcases lt_trichotomy t.reading.parts u.reading.parts with hlt | heq | hgt
  · exact hlt
  · obtain rfl := eq_of_reading_eq ht hu (Reading.parts_inj.mp heq)
    omega
  · have hback := lt_iff.mp (lt_of_parts_lt ht hgt)
    omega

/-! ### The text -/

/-- The places of a stored form are wide enough for what calendar and clock show. -/
theorem reading_fits (ht : t.hasPlainYear = true) :
    t.reading.date.year.natAbs < 10 ^ 4 ∧ t.reading.date.month < 10 ^ 2 ∧
    t.reading.date.day < 10 ^ 2 ∧
      t.reading.hour < 10 ^ 2 ∧ t.reading.minute < 10 ^ 2 ∧ t.reading.second < 10 ^ 2 ∧
      t.reading.nanos < 10 ^ 9 := by
  obtain ⟨hdate, hhour, hminute, hsecond, hnanos⟩ := t.reading_inRange
  have hyear := hasPlainYear_iff.mp ht
  have hdays := Date.daysInMonth_le t.reading.date.year t.reading.date.month
  simp only [Date.isValid, Bool.and_eq_true, decide_eq_true_eq] at hdate
  omega

/-- Stored forms with years of four digits are compared part by part. -/
theorem storedText_lt_iff (ht : t.hasPlainYear = true) (hu : u.hasPlainYear = true) :
    t.storedText < u.storedText ↔ t.reading.parts < u.reading.parts := by
  obtain ⟨hy, hmo, hd, hh, hmi, hs, hn⟩ := reading_fits ht
  obtain ⟨hy', hmo', hd', hh', hmi', hs', hn'⟩ := reading_fits hu
  have hyear := hasPlainYear_iff.mp ht
  have hyear' := hasPlainYear_iff.mp hu
  rw [storedText, storedText]
  -- the parts have the same widths in both texts, and the first that differs decides
  simp only [Reading.secondText, yearText, if_pos hyear, if_pos hyear', List.append_assoc,
    List.cons_append, lastDigits_append_lt_iff hy hy', lastDigits_append_lt_iff hmo hmo',
    lastDigits_append_lt_iff hd hd', lastDigits_append_lt_iff hh hh',
    lastDigits_append_lt_iff hmi hmi', lastDigits_append_lt_iff hs hs',
    lastDigits_append_lt_iff hn hn', List.cons_lt_cons_iff, Reading.parts, Date.parts,
    List.nil_append, List.lt_irrefl, Char.lt_irrefl, false_or, true_and, and_false, or_false,
    Int.ofNat_lt, Int.natCast_inj]
  -- a year that is not negative is its own digits
  have hlt : t.reading.date.year.natAbs < u.reading.date.year.natAbs ↔
      t.reading.date.year < u.reading.date.year := by omega
  have heq : t.reading.date.year.natAbs = u.reading.date.year.natAbs ↔
      t.reading.date.year = u.reading.date.year := by omega
  rw [hlt, heq]

/-- **Stored forms with years of four digits are ordered like the settled instants**, byte by
byte. -/
theorem stored_lt_iff (ht : t.hasPlainYear = true) (hu : u.hasPlainYear = true) :
    bytes t.stored < bytes u.stored ↔ t.settle < u.settle := by
  rw [bytes_lt_iff, String.lt_iff, stored, stored, String.toList_ofList, String.toList_ofList,
    storedText_lt_iff ht hu, lt_iff_parts_lt t.settled_settle u.settled_settle, reading_settle,
    reading_settle]

theorem hasPlainYear_of_readStored? (h : readStored? t.stored ≠ none) : t.hasPlainYear = true := by
  rw [readStored?_stored] at h
  exact Decidable.byContradiction fun hnot => h (if_neg hnot)

theorem le_eq_decide_not_lt : t.le u = decide ¬u < t := by
  have hlt : u < t ↔ ¬t.le u = true := Iff.rfl
  cases hle : t.le u <;> simp [hlt, hle]

end Instant

/-- **The stored form changes no instant but by settling it, and keeps the order.**  An instant
is read back as the settled one or not at all, and as the settled one in every year of four
digits.  The settled one is the instant itself, unless a second is prolonged that does not end
its minute: then it is as much of the next second.  What is shown as second sixty is a leap
second.  The texts of instants that are read back compare, byte by byte, as the settled instants
do, and so do the rows that hold them. -/
theorem stored_form_settles (t u : Instant) :
    (Instant.readStored? t.stored = none ∨ Instant.readStored? t.stored = some t.settle) ∧
    (0 ≤ t.reading.date.year ∧ t.reading.date.year ≤ 9999 →
      Instant.readStored? t.stored = some t.settle) ∧
    (t.nanos < 1000000000 ∨ t.seconds % 60 = 59 → t.settle = t) ∧
    (1000000000 ≤ t.nanos → t.seconds % 60 ≠ 59 →
      t.settle.seconds = t.seconds + 1 ∧ t.settle.nanos = t.nanos - 1000000000) ∧
    (t.reading.second = 60 ↔ 1000000000 ≤ t.nanos ∧ t.seconds % 60 = 59) ∧
    (Instant.readStored? t.stored ≠ none → Instant.readStored? u.stored ≠ none →
      (bytes t.stored < bytes u.stored ↔ t.settle < u.settle) ∧
      (t.stored = u.stored ↔ t.settle = u.settle) ∧
      ∀ a b : Row, a.timestamp = .text t.stored → b.timestamp = .text u.stored →
        a.stampLE b = t.settle.le u.settle) := by
  refine ⟨?_, fun hyear => ?_, Instant.settle_of_settled, fun hprolonged hinside => ?_, ?_,
    fun ht hu => ⟨?_, Instant.stored_inj, fun a b ha hb => ?_⟩⟩
  · rw [Instant.readStored?_stored]
    split
    · exact .inr rfl
    · exact .inl rfl
  · rw [Instant.readStored?_stored, if_pos (Instant.hasPlainYear_iff.mpr hyear)]
  · -- within the minute, what is above a second is carried over
    have hnot : ¬t.Settled := by
      rw [Instant.Settled]
      omega
    rw [Instant.settle, dif_neg hnot]
    exact ⟨rfl, rfl⟩
  · have hn := t.nanos_inRange
    simp only [Instant.reading]
    split <;> omega
  · exact Instant.stored_lt_iff (Instant.hasPlainYear_of_readStored? ht)
      (Instant.hasPlainYear_of_readStored? hu)
  · -- not to be after is the order of the sort, read off the strict one
    have hlt := Instant.stored_lt_iff (Instant.hasPlainYear_of_readStored? hu)
      (Instant.hasPlainYear_of_readStored? ht)
    rw [bytes_lt_iff] at hlt
    rw [Row.stampLE, ha, hb, Instant.le_eq_decide_not_lt]
    simp only [hlt, decide_not]

/-- Half a second into the leap second that ended the year 2016. -/
def leapHalf : Instant :=
  .of 1483228799 1500000000 (by decide)

/-- The second after it. -/
def newYear : Instant :=
  .of 1483228800 0 (by decide)

/-- The leap second is written as second sixty, is read back, and comes before the second after
it. -/
theorem stored_leapHalf :
    leapHalf.stored = "2016-12-31T23:59:60.500000000Z" ∧
    Instant.readStored? leapHalf.stored = some leapHalf ∧
    Instant.readStored? newYear.stored = some newYear ∧
    bytes leapHalf.stored < bytes newYear.stored ∧
    ∀ a b : Row, a.timestamp = .text leapHalf.stored → b.timestamp = .text newYear.stored →
      a.stampLE b = true ∧ b.stampLE a = false := by
  have hleap := (stored_form_settles leapHalf newYear).2.1 (by decide)
  have hnext := (stored_form_settles newYear leapHalf).2.1 (by decide)
  have hleap' : Instant.readStored? leapHalf.stored ≠ none := by simp [hleap]
  have hnext' : Instant.readStored? newYear.stored ≠ none := by simp [hnext]
  obtain ⟨hlt, -, hrows⟩ := (stored_form_settles leapHalf newYear).2.2.2.2.2 hleap' hnext'
  obtain ⟨-, -, hrows'⟩ := (stored_form_settles newYear leapHalf).2.2.2.2.2 hnext' hleap'
  refine ⟨by decide, hleap.trans (by decide), hnext.trans (by decide), hlt.mpr (by decide),
    fun a b ha hb => ⟨?_, ?_⟩⟩
  · rw [hrows a b ha hb]
    decide
  · rw [hrows' b a hb ha]
    decide

/-- The second after the thirtieth. -/
def thirtyFirst : Instant :=
  .of 1735689631 0 (by decide)

/-- **The stored form does not tell all instants apart.**  One that is not settled is written
like a later one, is read back as that one, and comes after a second that it comes before. -/
theorem stored_prolongedHalf :
    prolongedHalf.stored = "2025-01-01T00:00:31.500000000Z" ∧
    Instant.readStored? prolongedHalf.stored = some (.of 1735689631 500000000 (by decide)) ∧
    Instant.readStored? prolongedHalf.stored ≠ some prolongedHalf ∧
    prolongedHalf < thirtyFirst ∧ bytes thirtyFirst.stored < bytes prolongedHalf.stored := by
  have hread : Instant.readStored? prolongedHalf.stored = some prolongedHalf.settle := by
    rw [Instant.readStored?_stored, if_pos (by decide)]
  refine ⟨by decide, hread.trans (by decide), ?_, by decide, ?_⟩
  · rw [hread]
    decide
  · exact (Instant.stored_lt_iff (by decide) (by decide)).mpr (by decide)

end UsageLedger
