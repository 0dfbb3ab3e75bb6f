import UsageLedger.Calendar.Date

/-!
# Days and dates

Counting days from a date and finding the date of a count are inverse to each other: a count of
days is split into whole periods of four hundred years, centuries, four years and years, and the
year of the date that is found has just these parts.

## Main definitions

* `Date.firstDay` — the number of the first day of a month.
* `Date.parts` — year, month and day, by which dates are compared.

## Main results

* `Date.dayNumber_ofDayNumber` — the date of a count of days has that count.
* `Date.isValid_ofDayNumber` — it is a date that the calendar has.
* `Date.year_inRange` — the days that instants reach are those of the years that readings may have.
* `Date.dayNumber_lt` — later dates have greater counts.
-/

namespace UsageLedger.Date

theorem daysInMonth_le (year : Int) (month : Nat) : daysInMonth year month ≤ 31 := by
  rw [daysInMonth.eq_def]
  split
  · split <;> decide
  all_goals decide

theorem daysBeforeYear_parts (period : Int) {century four single : Nat} (hc : century ≤ 3)
    (hf : four ≤ 24) (hs : single ≤ 3) :
    daysBeforeYear (400 * period + 100 * century + 4 * four + single) =
      146097 * period + 36524 * century + 1461 * four + 365 * single := by
  rw [daysBeforeYear]
  omega

/-- The parts into which a count of days is split.  A year has a day with the number 365 only if
it is the last one of its four years, and these are not the last ones of their century unless
that is the last one of its period. -/
theorem ofDayNumber_parts (n : Int) :
    ∃ (period : Int) (century four single day : Nat),
      century ≤ 3 ∧ four ≤ 24 ∧ single ≤ 3 ∧ day ≤ 365 ∧
      (day = 365 → single = 3 ∧ (four = 24 → century = 3)) ∧
      n + epochDay = 146097 * period + 36524 * century + 1461 * four + 365 * single + day ∧
      ofDayNumber n = ofMarchYear (400 * period + 100 * century + 4 * four + single) day := by
  have hperiod : 0 ≤ (n + epochDay) % 146097 ∧ (n + epochDay) % 146097 < 146097 := by omega
  refine ⟨(n + epochDay) / 146097, _, _, _, _, ?_, ?_, ?_, ?_, ?_, ?_, rfl⟩ <;> omega

/-- The date on a day of a year from March on has the days of the years before it and those of
the year. -/
theorem dayNumber_ofMarchYear (year : Int) {day : Nat} (hday : day ≤ 365) :
    (ofMarchYear year day).dayNumber = daysBeforeYear year + day - epochDay := by
  have hmonth : daysBeforeMonth ((5 * day + 2) / 153) ≤ day := by
    rw [daysBeforeMonth]
    omega
  rw [ofMarchYear]
  by_cases hm : (5 * day + 2) / 153 < 10
  · simp only [hm, if_true, dayNumber]
    rw [if_neg (by omega), Nat.add_sub_cancel]
    omega
  · simp only [hm, if_false, dayNumber]
    rw [if_pos (by omega), Nat.sub_add_cancel (by omega), Int.add_sub_cancel]
    omega

/-- The date on a day of a year from March on is one that the calendar has, if the last day is
asked for only where the next February has twenty-nine days. -/
theorem isValid_ofMarchYear (year : Int) {day : Nat} (hday : day ≤ 365)
    (hleap : day = 365 → isLeapYear (year + 1) = true) : (ofMarchYear year day).isValid = true := by
  obtain ⟨month, hmonth⟩ : ∃ month, (5 * day + 2) / 153 = month := ⟨_, rfl⟩
  have hle : month ≤ 11 := by omega
  rw [ofMarchYear, hmonth]
  match month, hle with
  | 11, _ =>
    -- February comes last, and is the one month whose length depends on the year
    have hfirst : 337 ≤ day := by omega
    by_cases hlast : day = 365
    · simp [isValid, daysBeforeMonth, daysInMonth, hleap hlast, hlast]
    · have hdays : 28 ≤ daysInMonth (year + 1) 2 := by
        rw [daysInMonth]
        split <;> omega
      simp [isValid, daysBeforeMonth]
      omega
  | 0, _ | 1, _ | 2, _ | 3, _ | 4, _ | 5, _ | 6, _ | 7, _ | 8, _ | 9, _ | 10, _ =>
    simp [isValid, daysBeforeMonth, daysInMonth]
    omega

/-- **The date of a count of days has that count.** -/
theorem dayNumber_ofDayNumber (n : Int) : (ofDayNumber n).dayNumber = n := by
  obtain ⟨period, century, four, single, day, hc, hf, hs, hd, -, hsum, h⟩ := ofDayNumber_parts n
  rw [h, dayNumber_ofMarchYear _ hd, daysBeforeYear_parts period hc hf hs]
  omega

/-- **The date of a count of days is one that the calendar has.** -/
theorem isValid_ofDayNumber (n : Int) : (ofDayNumber n).isValid = true := by
  obtain ⟨period, century, four, single, day, hc, hf, hs, hd, hlast, -, h⟩ := ofDayNumber_parts n
  rw [h]
  refine isValid_ofMarchYear _ hd fun hday => ?_
  obtain ⟨hsingle, hcentury⟩ := hlast hday
  simp only [isLeapYear, Bool.and_eq_true, Bool.or_eq_true, beq_iff_eq, bne_iff_ne, ne_eq]
  omega

theorem daysBeforeYear_step (year : Int) :
    daysBeforeYear year + 365 ≤ daysBeforeYear (year + 1) := by
  simp only [daysBeforeYear]
  omega

theorem daysBeforeYear_mono {year year' : Int} (h : year ≤ year') :
    daysBeforeYear year ≤ daysBeforeYear year' := by
  obtain ⟨n, rfl⟩ := Int.le.dest h
  clear h
  induction n with
  | zero => simp
  | succ n ih =>
    have hstep := daysBeforeYear_step (year + n)
    rw [Int.add_assoc] at hstep
    exact Int.le_trans ih (Int.le_trans (Int.le_add_of_nonneg_right (by decide)) hstep)

/-- The days that instants reach are those of the years -262143 to 262142. -/
theorem year_inRange {d : Date} (h : d.isValid = true) (hfirst : -96465292 ≤ d.dayNumber)
    (hlast : d.dayNumber ≤ 95026236) : -262143 ≤ d.year ∧ d.year ≤ 262142 := by
  have hdays := daysInMonth_le d.year d.month
  simp only [isValid, Bool.and_eq_true, decide_eq_true_eq] at h
  -- the days before the years at both ends, beside which the bounds on days are seen
  have hbefore : daysBeforeYear (-262144) = -95746130 := by decide
  have hafter : daysBeforeYear 262142 = 95745399 := by decide
  have hstep : daysBeforeYear (d.year - 1) + 365 ≤ daysBeforeYear d.year := by
    simpa using daysBeforeYear_step (d.year - 1)
  constructor
  · refine Int.not_lt.mp fun hyear => ?_
    have hmono : daysBeforeYear d.year ≤ daysBeforeYear (-262144) := daysBeforeYear_mono (by omega)
    simp only [dayNumber, daysBeforeMonth, epochDay] at hfirst
    split at hfirst <;> omega
  · refine Int.not_lt.mp fun hyear => ?_
    have hmono : daysBeforeYear 262142 ≤ daysBeforeYear (d.year - 1) :=
      daysBeforeYear_mono (by omega)
    simp only [dayNumber, daysBeforeMonth, epochDay] at hlast
    split at hlast <;> omega

/-! ### The order of dates -/

/-- The number of the first day of a month; the thirteenth month is the first one of the next
year. -/
def firstDay (year : Int) (month : Nat) : Int :=
  dayNumber ⟨year, month, 1⟩

theorem dayNumber_eq (d : Date) : d.dayNumber = firstDay d.year d.month + d.day - 1 := by
  simp only [firstDay, dayNumber]
  split <;> omega

/-- A month has its days. -/
theorem firstDay_succ (year : Int) {month : Nat} (hpos : 1 ≤ month) (hle : month ≤ 12) :
    firstDay year (month + 1) = firstDay year month + daysInMonth year month := by
  match month, hpos, hle with
  | 2, _, _ =>
    -- the days from one first of March to the next one tell whether there is a leap day
    have hdays : (daysInMonth year 2 : Int) =
        daysBeforeYear year - daysBeforeYear (year - 1) - 337 := by
      simp only [daysInMonth, isLeapYear, daysBeforeYear, Bool.and_eq_true, Bool.or_eq_true,
        beq_iff_eq, bne_iff_ne]
      split <;> omega
    rw [hdays]
    simp [firstDay, dayNumber, daysBeforeMonth]
    omega
  | 1, _, _ | 3, _, _ | 4, _, _ | 5, _, _ | 6, _, _ | 7, _, _ | 8, _, _ | 9, _, _ | 10, _, _
    | 11, _, _
  | 12, _, _ =>
    simp only [firstDay, dayNumber, daysInMonth, daysBeforeMonth]
    omega

theorem firstDay_mono (year : Int) {month month' : Nat} (hpos : 1 ≤ month) (hle : month ≤ month')
    (hlast : month' ≤ 13) : firstDay year month ≤ firstDay year month' := by
  obtain ⟨n, rfl⟩ := Nat.exists_eq_add_of_le hle
  induction n with
  | zero => exact Int.le_refl _
  | succ n ih =>
    have hstep := firstDay_succ year (Nat.le_trans hpos (Nat.le_add_right month n)) (by omega)
    have hbefore := ih (by omega) (by omega)
    exact Int.le_trans hbefore (hstep ▸ Int.le_add_of_nonneg_right (Int.natCast_nonneg _))

theorem firstDay_newYear (year : Int) : firstDay year 13 = firstDay (year + 1) 1 := by
  simp [firstDay, dayNumber, daysBeforeMonth]

theorem firstDay_newYear_mono {year year' : Int} (h : year ≤ year') :
    firstDay year 1 ≤ firstDay year' 1 := by
  have hmono : daysBeforeYear (year - 1) ≤ daysBeforeYear (year' - 1) :=
    daysBeforeYear_mono (by omega)
  simp [firstDay, dayNumber]
  omega

/-- The parts of a date, the one that changes least first. -/
def parts (d : Date) : List Int :=
  [d.year, d.month, d.day]

/-- **A later date has a greater number.** -/
theorem dayNumber_lt {d d' : Date} (hd : d.isValid = true) (hd' : d'.isValid = true)
    (h : d.parts < d'.parts) : d.dayNumber < d'.dayNumber := by
  obtain ⟨year, month, day⟩ := d
  obtain ⟨year', month', day'⟩ := d'
  simp only [isValid, Bool.and_eq_true, decide_eq_true_eq] at hd hd'
  obtain ⟨⟨⟨hpos, hlast⟩, -⟩, hday⟩ := hd
  obtain ⟨⟨⟨hpos', hlast'⟩, hday'⟩, -⟩ := hd'
  have hend := firstDay_succ year hpos hlast
  simp only [parts, List.cons_lt_cons_iff, List.lt_irrefl, and_false, or_false] at h
  rw [dayNumber_eq, dayNumber_eq]
  dsimp only
  -- the month of the earlier date ends before the later one: with its year, or in it, or not
  -- before the day
  rcases h with hyear | ⟨rfl, hmonth | ⟨hmonth, hlt⟩⟩
  · have hrest : firstDay year (month + 1) ≤ firstDay year 13 :=
      firstDay_mono year (by omega) (by omega) (by omega)
    have hnext := firstDay_newYear year
    have hyears : firstDay (year + 1) 1 ≤ firstDay year' 1 := firstDay_newYear_mono hyear
    have hbefore : firstDay year' 1 ≤ firstDay year' month' :=
      firstDay_mono year' (by omega) hpos' (by omega)
    omega
  · have hbefore : firstDay year (month + 1) ≤ firstDay year month' :=
      firstDay_mono year (by omega) (by omega) (by omega)
    omega
  · obtain rfl : month = month' := Int.ofNat_inj.mp hmonth
    omega

end UsageLedger.Date
