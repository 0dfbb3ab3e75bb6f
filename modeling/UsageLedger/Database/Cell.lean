import UsageLedger.Database.Real
import UsageLedger.Text.Utf8

/-!
# Cells of a table

A cell holds a whole number, a binary number, a text or bytes; another tool may have stored as a
text what is none.  A column prefers texts or whole numbers, and a value that is stored in it is
turned into what it prefers where nothing is lost by that: in a column of texts every number is
written out, and in a column of whole numbers a text that spells a number becomes one, as does a
binary number that is whole.

## Main definitions

* `Cell`: what a cell holds.
* `Affinity`, `Affinity.adapt`: what a column prefers, and a value as the column stores it.
-/

namespace UsageLedger

open Text

/-- What a cell of a table holds. -/
inductive Cell where
  /-- A whole number of sixty-four bits. -/
  | integer (n : Int64)
  /-- A binary number. -/
  | real (r : Real)
  /-- A text. -/
  | text (s : String)
  /-- A text whose bytes are not UTF-8. -/
  | garbled (bytes : List UInt8) (h : ¬bytes.toByteArray.IsValidUTF8)
  /-- Bytes. -/
  | blob (bytes : List UInt8)
  deriving DecidableEq

namespace Cell

/-- The cell of a text that is given by its bytes. -/
def ofTextBytes (bytes : List UInt8) : Cell :=
  if h : bytes.toByteArray.IsValidUTF8 then text
    (String.fromUTF8 bytes.toByteArray h) else garbled bytes h

/-- The cell of a whole number: a binary number if it does not fit into sixty-four bits. -/
def ofInt (n : Int) : Cell :=
  if Int64.minValue.toInt ≤ n ∧ n ≤ Int64.maxValue.toInt then integer (Int64.ofInt n)
  else real (Real.ofDecimal n 0)

/-- A binary number, or the whole number that it is, if that lies strictly between the ends of the
range. -/
def ofReal (r : Real) : Cell :=
  match r.toInt? with
  | some n =>
    if Int64.minValue.toInt < n ∧ n < Int64.maxValue.toInt then integer (Int64.ofInt n) else real r
  | none => real r

/-- A blank that may stand around a number in a text. -/
def isSpace (c : Char) : Bool :=
  c == ' ' || (9 ≤ c.toNat && c.toNat ≤ 13)

/-- The number that an unsigned text spells: digits, of which some may follow a point, and an
exponent, if any. -/
def ofUnsigned? (sign : Int) (cs : List Char) : Option Cell :=
  let units := cs.takeWhile Char.isDigit
  let rest := cs.dropWhile Char.isDigit
  let (fraction, rest, pointed) :=
    match rest with
    | '.' :: rest => (rest.takeWhile Char.isDigit, rest.dropWhile Char.isDigit, true)
    | rest => ([], rest, false)
  let mantissa := sign * ofDigits (units ++ fraction)
  if units.isEmpty && fraction.isEmpty then none
  else
    match rest with
    | [] => some (if pointed then ofReal (Real.ofDecimal mantissa (-fraction.length)) else
        match ofInt mantissa with
        | integer n => integer n
        | _ => ofReal (Real.ofDecimal mantissa 0))
    | e :: rest =>
      if e = 'e' ∨ e = 'E' then
        let (negative, ds) :=
          match rest with
          | '-' :: ds => (true, ds)
          | '+' :: ds => (false, ds)
          | ds => (false, ds)
        if ds.isEmpty || !ds.all Char.isDigit then none
        else
          let x : Int := if negative then -(ofDigits ds : Int) else ofDigits ds
          some (ofReal (Real.ofDecimal mantissa (x - fraction.length)))
      else none

/-- The number that a text spells, with blanks around it and a sign in front, if any. -/
def ofNumeral? (s : String) : Option Cell :=
  match ((s.toList.dropWhile isSpace).reverse.dropWhile isSpace).reverse with
  | '-' :: cs => ofUnsigned? (-1) cs
  | '+' :: cs => ofUnsigned? 1 cs
  | cs => ofUnsigned? 1 cs

end Cell

/-- What a column prefers. -/
inductive Affinity where
  /-- Texts. -/
  | texts
  /-- Whole numbers. -/
  | integers
  deriving DecidableEq

namespace Affinity

/-- A value as a column stores it. -/
def adapt : Affinity → Cell → Cell
  | texts, .integer n => .text (Text.ofInt n.toInt)
  | texts, .real r => .text r.text
  | texts, c => c
  | integers, .text s => (Cell.ofNumeral? s).getD (.text s)
  | integers, .real r => Cell.ofReal r
  | integers, c => c

end Affinity

end UsageLedger
