import UsageLedger.Text.Basic
import UsageLedger.Time.Instant

/-!
# Reading instants

Three layouts of an instant are read.  The strict one is that of RFC 3339.  The plain one has a date
and a time of day with a space between and counts as universal time.  The lenient one is the strict
one with blanks between its parts, fields of one digit, years with a sign, and `UTC` or a distance
without a colon at its end.

Each reader takes characters from the front and gives back what it read with the characters that
follow, or nothing.

## Main definitions

* `Instant.readStrict?`, `Instant.readPlain?`, `Instant.readLenient?`: the three layouts.
* `Instant.readStored?`: the strict layout, else the plain one, as the store reads its rows.
-/

namespace UsageLedger.Time

open Text

/-- Passes over one given character. -/
def expect (c : Char) : List Char → Option (List Char)
  | [] => none
  | d :: cs => if d = c then some cs else none

/-- Takes a number of at least `least` and at most `most` digits, as many as there are. -/
def takeNumber (least most : Nat) (cs : List Char) : Option (Nat × List Char) :=
  let ds := (cs.take most).takeWhile Char.isDigit
  if ds.length < least then none else some (ofDigits ds, cs.drop ds.length)

/-- Takes the fraction of a second after its point, in nanoseconds; digits after the ninth count for
nothing. -/
def takeNanos (cs : List Char) : Option (Nat × List Char) :=
  let ds := cs.takeWhile Char.isDigit
  if ds.isEmpty then none
  else
    let kept := ds.take 9
    some (ofDigits kept * Nat.pow 10 (9 - kept.length), cs.drop ds.length)

/-- Takes a fraction of a second, if there is a point in front. -/
def takeFraction : List Char → Option (Nat × List Char)
  | '.' :: cs => takeNanos cs
  | cs => some (0, cs)

/-- Takes a distance from universal time, in seconds: `Z` for none, or a sign, two digits of hours,
whatever `between` passes over, and two digits of minutes; it is less than a day. -/
def takeOffset (between : List Char → Option (List Char)) : List Char → Option (Int × List Char)
  | [] => none
  | c :: cs =>
    if c = 'Z' ∨ c = 'z' then some (0, cs)
    else if c = '+' ∨ c = '-' ∨ c = '\u2212' then do
      let (hours, cs) ← takeNumber 2 2 cs
      let cs ← between cs
      let (minutes, cs) ← takeNumber 2 2 cs
      if hours < 24 ∧ minutes < 60 then
        let distance : Int := 3600 * hours + 60 * minutes
        some (if c = '+' then distance else -distance, cs)
      else none
    else none

/-- Passes over the mark between a date and a time of day. -/
def takeSeparator : List Char → Option (List Char)
  | [] => none
  | c :: cs => if c = 'T' ∨ c = 't' ∨ c = ' ' then some cs else none

/-- Takes the strict layout: fields of a fixed width and nothing between. -/
def takeStrict (cs : List Char) : Option ((Reading × Int) × List Char) := do
  let (year, cs) ← takeNumber 4 4 cs
  let cs ← expect '-' cs
  let (month, cs) ← takeNumber 2 2 cs
  let cs ← expect '-' cs
  let (day, cs) ← takeNumber 2 2 cs
  let cs ← takeSeparator cs
  let (hour, cs) ← takeNumber 2 2 cs
  let cs ← expect ':' cs
  let (minute, cs) ← takeNumber 2 2 cs
  let cs ← expect ':' cs
  let (second, cs) ← takeNumber 2 2 cs
  let (nanos, cs) ← takeFraction cs
  let (offset, cs) ← takeOffset (expect ':') cs
  some ((⟨⟨year, month, day⟩, hour, minute, second, nanos⟩, offset), cs)

/-- Takes a year after blanks: up to four digits, or a sign and any number of digits. -/
def takeYear (cs : List Char) : Option (Int × List Char) :=
  match dropBlanks cs with
  | '-' :: cs => (takeNumber 1 cs.length cs).map fun (n, cs) => (-n, cs)
  | '+' :: cs => (takeNumber 1 cs.length cs).map fun (n, cs) => (n, cs)
  | cs => (takeNumber 1 4 cs).map fun (n, cs) => (n, cs)

/-- Takes one or two digits after blanks. -/
def takeField (cs : List Char) : Option (Nat × List Char) :=
  takeNumber 1 2 (dropBlanks cs)

/-- Takes a date whose marks are passed over by `mark`. -/
def takeDate (mark : Char → List Char → Option (List Char)) (cs : List Char) :
    Option (Date × List Char) := do
  let (year, cs) ← takeYear cs
  let cs ← mark '-' cs
  let (month, cs) ← takeField cs
  let cs ← mark '-' cs
  let (day, cs) ← takeField cs
  some (⟨year, month, day⟩, cs)

/-- Takes a time of day, down to the second, whose marks are passed over by `mark`. -/
def takeClock (mark : Char → List Char → Option (List Char)) (cs : List Char) :
    Option ((Nat × Nat × Nat) × List Char) := do
  let (hour, cs) ← takeField cs
  let cs ← mark ':' cs
  let (minute, cs) ← takeField cs
  let cs ← mark ':' cs
  let (second, cs) ← takeField cs
  some ((hour, minute, second), cs)

/-- Takes the plain layout: a date, blanks if any, and a time of day. -/
def takePlain (cs : List Char) : Option (Reading × List Char) := do
  let (date, cs) ← takeDate expect cs
  let ((hour, minute, second), cs) ← takeClock expect (dropBlanks cs)
  some (⟨date, hour, minute, second, 0⟩, cs)

/-- Passes over blanks and one given character. -/
def expectAfterBlanks (c : Char) (cs : List Char) : Option (List Char) :=
  expect c (dropBlanks cs)

/-- Passes over any colons and blanks. -/
def dropColons (cs : List Char) : List Char :=
  cs.dropWhile fun c => c == ':' || isBlank c

/-- Takes a distance from universal time, in the lenient layout: also `UTC` in any case. -/
def takeLenientOffset : List Char → Option (Int × List Char)
  | u :: t :: c :: cs =>
    if (u = 'U' ∨ u = 'u') ∧ (t = 'T' ∨ t = 't') ∧ (c = 'C' ∨ c = 'c') then some (0, cs)
    else takeOffset (fun cs => some (dropColons cs)) (u :: t :: c :: cs)
  | cs => takeOffset (fun cs => some (dropColons cs)) cs

/-- Takes the lenient layout. -/
def takeLenient (cs : List Char) : Option ((Reading × Int) × List Char) := do
  let (date, cs) ← takeDate expectAfterBlanks cs
  let cs ← takeSeparator cs
  let ((hour, minute, second), cs) ← takeClock expectAfterBlanks cs
  let (nanos, cs) ← takeFraction cs
  let (offset, cs) ← takeLenientOffset (dropBlanks cs)
  some ((⟨date, hour, minute, second, nanos⟩, offset), dropBlanks cs)

end UsageLedger.Time

namespace UsageLedger.Instant

open Time

/-- Reads an instant in the strict layout. -/
def readStrict? (text : String) : Option Instant :=
  match takeStrict text.toList with
  | some ((reading, offset), []) => reading.instant? offset
  | _ => none

/-- Reads an instant in the plain layout, as universal time. -/
def readPlain? (text : String) : Option Instant :=
  match takePlain text.toList with
  | some (reading, []) => reading.instant? 0
  | _ => none

/-- Reads an instant in the lenient layout. -/
def readLenient? (text : String) : Option Instant :=
  match takeLenient text.toList with
  | some ((reading, offset), []) => reading.instant? offset
  | _ => none

/-- Reads the timestamp column of a row: in the strict layout, else in the plain one. -/
def readStored? (text : String) : Option Instant :=
  (readStrict? text).or (readPlain? text)

end UsageLedger.Instant
