import UsageLedger.Text.Basic
import UsageLedger.Time.Instant

/-!
# Writing instants

An instant is written as date, `T`, time of day and `Z`, in universal time.  Stored rows carry nine
digits of the second's fraction, always, so that the order of their texts is the order of the
instants; snapshots carry no more groups of three digits than the instant needs.

## Main definitions

* `Instant.stored`: the text that the timestamp column of a row holds.
* `Instant.display`: the text that a snapshot holds.
-/

namespace UsageLedger

open Text

/-- A year has four digits, or else a sign and at least four digits. -/
def yearText (year : Int) : List Char :=
  if 0 ≤ year ∧ year ≤ 9999 then lastDigits 4 year.natAbs
  else (if year < 0 then '-' else '+') :: padded 4 year.natAbs

namespace Reading

/-- The date and the time of day, down to the second. -/
def secondText (r : Reading) : List Char :=
  yearText r.date.year ++ '-' :: lastDigits 2 r.date.month ++ '-' :: lastDigits 2 r.date.day
    ++ 'T' :: lastDigits 2 r.hour ++ ':' :: lastDigits 2 r.minute ++ ':' :: lastDigits 2 r.second

/-- The fraction of the second in the fewest groups of three digits, and nothing when it is zero. -/
def fractionText (nanos : Nat) : List Char :=
  if nanos = 0 then []
  else if nanos % 1000000 = 0 then '.' :: lastDigits 3 (nanos / 1000000)
  else if nanos % 1000 = 0 then '.' :: lastDigits 6 (nanos / 1000)
  else '.' :: lastDigits 9 nanos

end Reading

namespace Instant

/-- The characters of the stored form. -/
def storedText (t : Instant) : List Char :=
  let r := t.reading
  r.secondText ++ '.' :: lastDigits 9 r.nanos ++ ['Z']

/-- The form in which rows hold an instant: nine digits of the fraction, always. -/
def stored (t : Instant) : String :=
  String.ofList t.storedText

/-- The form in which snapshots hold an instant: the shortest fraction that is exact. -/
def display (t : Instant) : String :=
  let r := t.reading
  String.ofList (r.secondText ++ Reading.fractionText r.nanos ++ ['Z'])

end Instant

end UsageLedger
