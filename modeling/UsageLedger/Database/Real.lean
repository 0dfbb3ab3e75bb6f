import UsageLedger.Text.Basic

/-!
# Binary numbers

Tables hold numbers with a fraction in binary, with fifty-three bits and an exponent.  A decimal is
rounded to the nearest such number, a tie going to the even one; the number is written in decimal
with fifteen digits, of which trailing zeros are left out.

## Main definitions

* `Real`: a binary number.
* `Real.ofDecimal`: the nearest one to a decimal.
* `Real.toInt?`: the whole number that it is, if it is one.
* `Real.text`: its decimal text.
-/

namespace UsageLedger

open Text

/-- The number `mantissa · 2 ^ exponent`. -/
structure Real where
  /-- The mantissa, of at most fifty-three bits. -/
  mantissa : Int
  /-- The exponent. -/
  exponent : Int
  deriving DecidableEq

/-- A quotient rounded to the nearest whole number, a tie going to the even one. -/
def divideToEven (a b : Nat) : Nat :=
  let q := a / b
  let rest := 2 * (a % b)
  if rest < b then q else if b < rest then q + 1 else q + q % 2

/-- A quotient rounded to the nearest whole number, a tie going up. -/
def divideHalfUp (a b : Nat) : Nat :=
  (2 * a + b) / (2 * b)

/-- The quotient of two numbers and a power, as a quotient of two numbers. -/
def scaleDown (base a b : Nat) (power : Int) : Nat × Nat :=
  if 0 ≤ power then (a, b * Nat.pow base power.toNat) else (a * Nat.pow base (-power).toNat, b)

namespace Real

/-- The binary number nearest to a quotient of two numbers: an exponent is chosen so that the
mantissa has fifty-three bits, or the least exponent there is. -/
def ofQuotient (a b : Nat) : Nat × Int :=
  if a = 0 then (0, 0)
  else
    let guess : Int := (Nat.log2 a : Int) - Nat.log2 b - 52
    let (a', b') := scaleDown 2 a b guess
    let exponent := max (if a' / b' < Nat.pow 2 52 then guess - 1 else guess) (-1074)
    let (a', b') := scaleDown 2 a b exponent
    (divideToEven a' b', exponent)

/-- The binary number nearest to `mantissa · 10 ^ exponent`. -/
def ofDecimal (mantissa exponent : Int) : Real :=
  let (a, b) := scaleDown 10 mantissa.natAbs 1 (-exponent)
  let (m, e) := ofQuotient a b
  ⟨if mantissa < 0 then -m else m, e⟩

/-- The whole number that a binary number is, if it is one. -/
def toInt? (r : Real) : Option Int :=
  if 0 ≤ r.exponent then some (r.mantissa * Nat.pow 2 r.exponent.toNat)
  else
    let divisor : Int := Nat.pow 2 (-r.exponent).toNat
    if r.mantissa % divisor = 0 then some (r.mantissa / divisor) else none

/-- The power of ten of the first digit of a quotient, found by counting down from a bound that
is too large by at most `fuel`; binary numbers lie between the powers -324 and 308. -/
def leadingPower (a b : Nat) : Nat → Int → Int
  | 0, power => power
  | fuel + 1, power =>
    let (a', b') := scaleDown 10 a b power
    if a' < b' then leadingPower a b fuel (power - 1) else power

/-- The first fifteen digits of a positive number and the power of ten of the first one. -/
def digits15 (m : Nat) (exponent : Int) : Nat × Int :=
  let (a, b) := scaleDown 2 m 1 (-exponent)
  let power := leadingPower a b 800 400
  let (a', b') := scaleDown 10 a b (power - 14)
  let n := divideHalfUp a' b'
  if n = Nat.pow 10 15 then (Nat.pow 10 14, power + 1) else (n, power)

/-- Digits without the zeros at their end. -/
def trimZeros (ds : List Char) : List Char :=
  (ds.reverse.dropWhile (· == '0')).reverse

/-- Digits behind a point, and one zero where there is none. -/
def fractionOrZero (ds : List Char) : List Char :=
  let ds := trimZeros ds
  '.' :: if ds.isEmpty then ['0'] else ds

/-- The text of a positive number: positional from the fourth place behind the point to the
fifteenth in front of it, else with an exponent of at least two digits. -/
def positiveText (m : Nat) (exponent : Int) : List Char :=
  let (n, power) := digits15 m exponent
  let ds := lastDigits 15 n
  if power < -4 ∨ 14 < power then
    ds.take 1 ++ fractionOrZero (ds.drop 1)
      ++ 'e' :: (if power < 0 then '-' else '+') :: padded 2 power.natAbs
  else if power < 0 then
    '0' :: fractionOrZero (List.replicate (power.natAbs - 1) '0' ++ ds)
  else ds.take (power.toNat + 1) ++ fractionOrZero (ds.drop (power.toNat + 1))

/-- The decimal text of a binary number. -/
def text (r : Real) : String :=
  if r.mantissa = 0 then "0.0"
  else
    let body := positiveText r.mantissa.natAbs r.exponent
    String.ofList (if r.mantissa < 0 then '-' :: body else body)

end Real

end UsageLedger
