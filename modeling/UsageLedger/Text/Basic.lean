/-!
# Blanks and numerals

The characters that separate words, and the removal of those at the two ends of a text.  Request
paths are trimmed before they stand in for a missing API key, and the lenient readers of instants
pass over blanks between the parts of a date.

Natural numbers and integers are written in base ten, in the fewest digits or padded with zeros to a
width, and read back.  Dates, counts and reports are all written with these functions.

## Main definitions

* `isBlank c`: the character `c` has Unicode's `White_Space` property.
* `trim s`: the text `s` without the blanks at its ends.
* `digits n`: the decimal digits of `n`, without leading zeros.
* `lastDigits w n`: exactly `w` digits, those of the last `w` places of `n`.
* `padded w n`: the digits of `n`, filled with zeros to at least `w` places.
* `ofDigits cs`: the number that a row of digits names.
-/

namespace UsageLedger.Text

/-! ### Blanks -/

/-- The characters with Unicode's `White_Space` property, twenty-five in all. -/
def isBlank (c : Char) : Bool :=
  let n := c.toNat
  (9 ≤ n && n ≤ 13) || n == 0x20 || n == 0x85 || n == 0xA0 || n == 0x1680
    || (0x2000 ≤ n && n ≤ 0x200A) || n == 0x2028 || n == 0x2029 || n == 0x202F
    || n == 0x205F || n == 0x3000

/-- The characters left when the blanks in front are gone. -/
def dropBlanks (cs : List Char) : List Char :=
  cs.dropWhile isBlank

/-- A text without the blanks at its two ends; blanks inside it stay. -/
def trim (s : String) : String :=
  String.ofList (dropBlanks (dropBlanks s.toList).reverse).reverse

/-! ### Decimal numerals -/

/-- The decimal digits of a number, most significant first. -/
def digits (n : Nat) : List Char :=
  if n < 10 then [n.digitChar] else digits (n / 10) ++ [(n % 10).digitChar]

/-- The last `w` decimal places of a number, zeros included. -/
def lastDigits : Nat → Nat → List Char
  | 0, _ => []
  | w + 1, n => lastDigits w (n / 10) ++ [(n % 10).digitChar]

/-- The digits of a number, filled in front with zeros to at least `w` places. -/
def padded (w n : Nat) : List Char :=
  if n < Nat.pow 10 w then lastDigits w n else digits n

/-- The value of one decimal digit. -/
def digitValue (c : Char) : Nat :=
  c.toNat - 48

/-- The number that a row of decimal digits names; no digits name zero. -/
def ofDigits (cs : List Char) : Nat :=
  cs.foldl (fun n c => 10 * n + digitValue c) 0

/-- An integer with a minus sign in front when it is negative. -/
def signedDigits (n : Int) : List Char :=
  if n < 0 then '-' :: digits n.natAbs else digits n.natAbs

/-- A natural number as text. -/
def ofNat (n : Nat) : String :=
  String.ofList (digits n)

/-- An integer as text. -/
def ofInt (n : Int) : String :=
  String.ofList (signedDigits n)

@[simp] theorem lastDigits_zero (n : Nat) : lastDigits 0 n = [] := rfl

@[simp] theorem lastDigits_succ (w n : Nat) :
    lastDigits (w + 1) n = lastDigits w (n / 10) ++ [(n % 10).digitChar] := rfl

@[simp] theorem length_lastDigits (w n : Nat) : (lastDigits w n).length = w := by
  induction w generalizing n with
  | zero => rfl
  | succ w ih => simp [ih]

end UsageLedger.Text
