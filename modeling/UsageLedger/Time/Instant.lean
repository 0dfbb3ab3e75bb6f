import UsageLedger.Calendar.Date

/-!
# Instants

An instant is a second of universal time and the nanoseconds passed since it began.  A leap
second has no number of its own: it prolongs the second before it, whose nanoseconds then run on
to two thousand million.  Nothing keeps a second in the middle of a minute from being prolonged
as well, but there calendar and clock show the second that follows; an instant at which they
show what it counts is settled.  Instants reach from the year -262143 to the year 262142.

## Main definitions

* `Instant`: a second counted from 1970 and the nanoseconds since it began, both in range.
* `Instant.Settled`: only the last second of a minute is prolonged.
* `Instant.of`: the instant with a given count.
* `Instant.ofUnix?`: the settled instant with a given count, if there is one.
* `Reading`: a date and a time of day as a calendar and a clock show them.
* `Instant.reading`, `Reading.instant?`: an instant in universal time, and the instant that a
  reading taken at some distance from universal time stands for.
-/

namespace UsageLedger

/-- The first second of the year -262143. -/
def earliestSecond : Int := -8334601228800

/-- The last second of the year 262142. -/
def latestSecond : Int := 8210266876799

/-- A point of universal time, exact to the nanosecond. -/
structure Instant where
  /-- The second, counted from the start of 1970. -/
  seconds : Int
  /-- The nanoseconds since that second began. -/
  nanos : Nat
  /-- Only the seconds of the years -262143 to 262142 are counted. -/
  seconds_inRange : earliestSecond ≤ seconds ∧ seconds ≤ latestSecond
  /-- A second can be prolonged by as much again. -/
  nanos_inRange : nanos < 2000000000
  deriving DecidableEq

namespace Instant

/-- Only the last second of a minute is prolonged, so that calendar and clock show the instant. -/
def Settled (t : Instant) : Prop :=
  t.nanos < 1000000000 ∨ t.seconds % 60 = 59

instance (t : Instant) : Decidable t.Settled :=
  inferInstanceAs (Decidable (_ ∨ _))

/-- The instant with a given second and nanoseconds, which are in range. -/
def of (seconds : Int) (nanos : Nat)
    (h : (earliestSecond ≤ seconds ∧ seconds ≤ latestSecond) ∧ nanos < 2000000000) : Instant :=
  ⟨seconds, nanos, h.1, h.2⟩

/-- The instant with a given second and nanoseconds, if there is one and it is settled. -/
def ofUnix? (seconds : Int) (nanos : Nat) : Option Instant :=
  if hs : earliestSecond ≤ seconds ∧ seconds ≤ latestSecond then
    if hn : nanos < 2000000000 then Option.guard (·.Settled) ⟨seconds, nanos, hs, hn⟩ else none
  else none

/-- The start of 1970. -/
def epoch : Instant :=
  .of 0 0 (by decide)

instance : Inhabited Instant := ⟨epoch⟩

/-- Whether one instant comes no later than another. -/
def le (a b : Instant) : Bool :=
  a.seconds < b.seconds || (a.seconds == b.seconds && a.nanos ≤ b.nanos)

theorem le_iff {a b : Instant} :
    a.le b = true ↔ a.seconds < b.seconds ∨ a.seconds = b.seconds ∧ a.nanos ≤ b.nanos := by
  simp [le]

theorem le_refl (a : Instant) : a.le a = true :=
  le_iff.mpr (.inr ⟨rfl, Nat.le_refl _⟩)

theorem le_trans (a b c : Instant) (hab : a.le b = true) (hbc : b.le c = true) : a.le c = true := by
  rw [le_iff] at hab hbc ⊢
  omega

theorem le_total (a b : Instant) : (a.le b || b.le a) = true := by
  rw [Bool.or_eq_true, le_iff, le_iff]
  omega

theorem le_antisymm {a b : Instant} (hab : a.le b = true) (hba : b.le a = true) : a = b := by
  rw [le_iff] at hab hba
  have hs : a.seconds = b.seconds := by omega
  have hn : a.nanos = b.nanos := by omega
  cases a
  cases b
  cases hs
  cases hn
  rfl

instance : LE Instant := ⟨fun a b => a.le b = true⟩

instance : LT Instant := ⟨fun a b => ¬ b.le a = true⟩

instance (a b : Instant) : Decidable (a ≤ b) := inferInstanceAs (Decidable (a.le b = true))

instance (a b : Instant) : Decidable (a < b) := inferInstanceAs (Decidable (¬ b.le a = true))

end Instant

/-- A date and a time of day, as a calendar and a clock show them; second 60 is a leap second. -/
structure Reading where
  /-- The date. -/
  date : Date
  /-- The hour, from 0 to 23. -/
  hour : Nat
  /-- The minute, from 0 to 59. -/
  minute : Nat
  /-- The second, from 0 to 60. -/
  second : Nat
  /-- The nanoseconds since that second began, fewer than a thousand million. -/
  nanos : Nat
  deriving DecidableEq

/-- What a calendar and a clock that keep universal time show at an instant. -/
def Instant.reading (t : Instant) : Reading :=
  let second := (t.seconds % 86400).toNat
  let leap := if t.nanos < 1000000000 then 0 else 1
  { date := Date.ofDayNumber (t.seconds / 86400)
    hour := second / 3600
    minute := second / 60 % 60
    second := second % 60 + leap
    nanos := t.nanos % 1000000000 }

namespace Reading

/-- The calendar has the day, in a year that instants reach, and the clock has the time. -/
def isValid (r : Reading) : Bool :=
  r.date.isValid && -262143 ≤ r.date.year && r.date.year ≤ 262142
    && r.hour < 24 && r.minute < 60 && r.second ≤ 60 && r.nanos < 1000000000

/-- The instant at which a clock that runs `offset` seconds ahead of universal time shows a reading.
A leap second counts as the second before it, prolonged. -/
def instant? (r : Reading) (offset : Int) : Option Instant :=
  if r.isValid then
    let second := min r.second 59
    let leap := if r.second = 60 then 1000000000 else 0
    Instant.ofUnix?
      (86400 * r.date.dayNumber + 3600 * r.hour + 60 * r.minute + second - offset) (r.nanos + leap)
  else none

end Reading

end UsageLedger
