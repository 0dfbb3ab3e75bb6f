import UsageLedger.Calendar.Date
import UsageLedger.Text.Basic
import UsageLedger.Toml.Value

/-!
# Single values of settings files

Texts in their four forms, numbers, truth values, dates and times.  Each reader takes characters
from the front and gives back what it read with the characters that follow, or nothing.

## Main definitions

* `Toml.takeText`: a text in quotation marks or apostrophes, on one line or over several.
* `Toml.takeMoment`, `Toml.takeDecimal`, `Toml.takeWhole`: dates, times and numbers.
* `Toml.takeScalar`: a value that holds no other values.
-/

namespace UsageLedger.Toml

open UsageLedger.Text

/-! ### Texts -/

/-- A character that may stand in a text or a comment: not a control character but the tabulator. -/
def isPlain (c : Char) : Bool :=
  c == '\t' || (0x20 ≤ c.toNat && c.toNat != 0x7F)

/-- A blank within a line. -/
def isSpace (c : Char) : Bool :=
  c == ' ' || c == '\t'

/-- The value of a hexadecimal digit. -/
def hexDigit? (c : Char) : Option Nat :=
  if c.isDigit then some (c.toNat - 48)
  else if 'a' ≤ c && c ≤ 'f' then some (c.toNat - 87)
  else if 'A' ≤ c && c ≤ 'F' then some (c.toNat - 55)
  else none

/-- The character with a number in hexadecimal digits, if it is one. -/
def scalar? (ds : List Char) : Option Char := do
  let values ← ds.mapM hexDigit?
  let n := values.foldl (fun n d => 16 * n + d) 0
  if n.isValidChar then some (Char.ofNat n) else none

/-- The character that a letter behind a backslash stands for. -/
def escaped? : Char → Option Char
  | 'b' => some '\x08'
  | 't' => some '\t'
  | 'n' => some '\n'
  | 'f' => some '\x0c'
  | 'r' => some '\r'
  | '"' => some '"'
  | '\\' => some '\\'
  | _ => none

/-- Takes the inside of a text in quotation marks, and the closing mark. -/
def takeQuoted : List Char → Option (List Char × List Char)
  | [] => none
  | '"' :: cs => some ([], cs)
  | '\\' :: 'u' :: a :: b :: c :: d :: cs => do
    let x ← scalar? [a, b, c, d]
    let (xs, cs) ← takeQuoted cs
    some (x :: xs, cs)
  | '\\' :: 'U' :: a :: b :: c :: d :: e :: f :: g :: h :: cs => do
    let x ← scalar? [a, b, c, d, e, f, g, h]
    let (xs, cs) ← takeQuoted cs
    some (x :: xs, cs)
  | '\\' :: c :: cs => do
    let x ← escaped? c
    let (xs, cs) ← takeQuoted cs
    some (x :: xs, cs)
  | c :: cs => do
    if isPlain c then
      let (xs, cs) ← takeQuoted cs
      some (c :: xs, cs)
    else none

/-- Takes the inside of a text in apostrophes, and the closing one. -/
def takeVerbatim : List Char → Option (List Char × List Char)
  | [] => none
  | c :: cs =>
    if c = '\'' then some ([], cs)
    else if isPlain c then do
      let (xs, cs) ← takeVerbatim cs
      some (c :: xs, cs)
    else none

/-- Where a text over several lines is read: in it, behind a backslash at the end of a line, or
among the blanks and line ends that follow such a line end. -/
inductive Fold where
  /-- In the text. -/
  | inside
  /-- Behind a backslash, before the end of the line. -/
  | before
  /-- Behind a line end that a backslash removes. -/
  | after
  deriving DecidableEq

/-- Takes the inside of a text over several lines in quotation marks, and the closing marks; up
to two marks in front of those belong to the text. -/
def takeQuotedLines : Fold → List Char → Option (List Char × List Char)
  | _, [] => none
  | .before, '\r' :: '\n' :: cs => takeQuotedLines .after cs
  | .before, c :: cs =>
    if c = '\n' then takeQuotedLines .after cs
    else if isSpace c then takeQuotedLines .before cs
    else none
  | .after, '\r' :: '\n' :: cs => takeQuotedLines .after cs
  | .after, ' ' :: cs => takeQuotedLines .after cs
  | .after, '\t' :: cs => takeQuotedLines .after cs
  | .after, '\n' :: cs => takeQuotedLines .after cs
  | _, '"' :: '"' :: '"' :: '"' :: '"' :: cs => some (['"', '"'], cs)
  | _, '"' :: '"' :: '"' :: '"' :: cs => some (['"'], cs)
  | _, '"' :: '"' :: '"' :: cs => some ([], cs)
  | _, '\\' :: 'u' :: a :: b :: c :: d :: cs => do
    let x ← scalar? [a, b, c, d]
    let (xs, cs) ← takeQuotedLines .inside cs
    some (x :: xs, cs)
  | _, '\\' :: 'U' :: a :: b :: c :: d :: e :: f :: g :: h :: cs => do
    let x ← scalar? [a, b, c, d, e, f, g, h]
    let (xs, cs) ← takeQuotedLines .inside cs
    some (x :: xs, cs)
  | _, '\\' :: '\r' :: '\n' :: cs => takeQuotedLines .after cs
  | _, '\\' :: c :: cs =>
    if c = '\n' then takeQuotedLines .after cs
    else if isSpace c then takeQuotedLines .before cs
    else do
      let x ← escaped? c
      let (xs, cs) ← takeQuotedLines .inside cs
      some (x :: xs, cs)
  | _, '\r' :: '\n' :: cs => do
    let (xs, cs) ← takeQuotedLines .inside cs
    some ('\n' :: xs, cs)
  | _, c :: cs =>
    if c = '\n' ∨ isPlain c then do
      let (xs, cs) ← takeQuotedLines .inside cs
      some (c :: xs, cs)
    else none

/-- Takes the inside of a text over several lines in apostrophes, and the closing ones; up to two in
front of those belong to the text. -/
def takeVerbatimLines : List Char → Option (List Char × List Char)
  | [] => none
  | '\'' :: '\'' :: '\'' :: '\'' :: '\'' :: cs => some (['\'', '\''], cs)
  | '\'' :: '\'' :: '\'' :: '\'' :: cs => some (['\''], cs)
  | '\'' :: '\'' :: '\'' :: cs => some ([], cs)
  | '\r' :: '\n' :: cs => do
    let (xs, cs) ← takeVerbatimLines cs
    some ('\n' :: xs, cs)
  | c :: cs =>
    if c = '\n' ∨ isPlain c then do
      let (xs, cs) ← takeVerbatimLines cs
      some (c :: xs, cs)
    else none

/-- The characters behind one line end in front, if there is one. -/
def dropLineEnd : List Char → List Char
  | '\n' :: cs => cs
  | '\r' :: '\n' :: cs => cs
  | cs => cs

/-- Takes a text on one line, in quotation marks or apostrophes. -/
def takeLineText : List Char → Option (String × List Char)
  | '"' :: cs => (takeQuoted cs).map fun (xs, cs) => (String.ofList xs, cs)
  | '\'' :: cs => (takeVerbatim cs).map fun (xs, cs) => (String.ofList xs, cs)
  | _ => none

/-- Takes a text in any of its four forms; a line end right behind three opening marks counts for
nothing. -/
def takeText : List Char → Option (String × List Char)
  | '"' :: '"' :: '"' :: cs =>
    (takeQuotedLines .inside (dropLineEnd cs)).map fun (xs, cs) => (String.ofList xs, cs)
  | '\'' :: '\'' :: '\'' :: cs =>
    (takeVerbatimLines (dropLineEnd cs)).map fun (xs, cs) => (String.ofList xs, cs)
  | cs => takeLineText cs

/-! ### Dates and times -/

/-- Takes a number of exactly `width` digits that is within bounds. -/
def takeWithin (width least most : Nat) (cs : List Char) : Option (Nat × List Char) :=
  let ds := (cs.take width).takeWhile Char.isDigit
  let n := ofDigits ds
  if ds.length = width ∧ least ≤ n ∧ n ≤ most then some (n, cs.drop width) else none

/-- Takes one given character. -/
def takeMark (mark : Char) : List Char → Option (List Char)
  | [] => none
  | c :: cs => if c = mark then some cs else none

/-- Takes a day of the calendar. -/
def takeDay (cs : List Char) : Option (List Char) := do
  let (year, cs) ← takeWithin 4 0 9999 cs
  let cs ← takeMark '-' cs
  let (month, cs) ← takeWithin 2 1 12 cs
  let cs ← takeMark '-' cs
  let (day, cs) ← takeWithin 2 1 31 cs
  if Date.isValid ⟨year, month, day⟩ then some cs else none

/-- Takes a time of day with seconds and, if there is one, a fraction of them. -/
def takeTime (cs : List Char) : Option (List Char) := do
  let (_, cs) ← takeWithin 2 0 23 cs
  let cs ← takeMark ':' cs
  let (_, cs) ← takeWithin 2 0 59 cs
  let cs ← takeMark ':' cs
  let (_, cs) ← takeWithin 2 0 60 cs
  match cs with
  | '.' :: d :: ds => if d.isDigit then some (ds.dropWhile Char.isDigit) else some cs
  | _ => some cs

/-- Takes a distance from universal time, if there is one. -/
def takeZone : List Char → Option (List Char)
  | 'Z' :: cs => some cs
  | 'z' :: cs => some cs
  | c :: cs =>
    if c = '+' ∨ c = '-' then do
      let (_, cs) ← takeWithin 2 0 23 cs
      let cs ← takeMark ':' cs
      let (_, cs) ← takeWithin 2 0 59 cs
      some cs
    else some (c :: cs)
  | [] => some []

/-- Takes a day, a day and a time of day, or a time of day. -/
def takeMoment (cs : List Char) : Option (Toml × List Char) :=
  match takeDay cs with
  | some rest =>
    match rest with
    | mark :: cs =>
      if mark = 'T' ∨ mark = 't' ∨ mark = ' ' then
        match takeTime cs with
        | some cs => (takeZone cs).map fun cs => (.moment, cs)
        | none => some (.moment, rest)
      else some (.moment, rest)
    | [] => some (.moment, [])
  | none => (takeTime cs).map fun cs => (.moment, cs)

/-! ### Numbers -/

/-- Takes digits with single underscores between them, after at least one digit; the underscores are
left out. -/
def takeSpacedDigits (isDigit : Char → Bool) : List Char → Option (List Char × List Char)
  | [] => none
  | d :: cs => if isDigit d then more [d] cs else none
where
  /-- Takes what follows the digits read so far, which are kept last digit first. -/
  more (read : List Char) : List Char → Option (List Char × List Char)
    | [] => some (read.reverse, [])
    | '_' :: d :: cs => if isDigit d then more (d :: read) cs else none
    | c :: cs =>
      if isDigit c then more (c :: read) cs
      else if c = '_' then none
      else some (read.reverse, c :: cs)

/-- Takes a sign, if there is one; true stands for minus. -/
def takeSign : List Char → Bool × List Char
  | '+' :: cs => (false, cs)
  | '-' :: cs => (true, cs)
  | cs => (false, cs)

/-- Takes digits without a zero in front. -/
def takeInteger : List Char → Option (List Char × List Char)
  | '0' :: cs => some (['0'], cs)
  | cs => takeSpacedDigits Char.isDigit cs

/-- The number `mantissa · 10 ^ exponent` lies beyond every number of sixty-four bits. -/
def overflows (mantissa : Nat) (exponent : Int) : Bool :=
  let bound := Nat.pow 2 1024 - Nat.pow 2 970
  if mantissa = 0 then false
  else if exponent > 400 then true
  else if 0 ≤ exponent then bound ≤ mantissa * Nat.pow 10 exponent.toNat
  else bound * Nat.pow 10 (-exponent).toNat ≤ mantissa

/-- Takes an exponent behind its letter. -/
def takeExponent : List Char → Option (Int × List Char)
  | c :: cs =>
    if c = 'e' ∨ c = 'E' then do
      let (negative, cs) := takeSign cs
      let (ds, cs) ← takeSpacedDigits Char.isDigit cs
      let n : Int := ofDigits ds
      some (if negative then -n else n, cs)
    else none
  | [] => none

/-- Takes a fraction behind its point, and an exponent, if there is one: the digits of the
fraction and the exponent. -/
def takeFraction : List Char → Option ((List Char × Int) × List Char)
  | '.' :: cs => do
    let (ds, cs) ← takeSpacedDigits Char.isDigit cs
    match cs with
    | c :: _ =>
      if c = 'e' ∨ c = 'E' then do
        let (x, cs) ← takeExponent cs
        some ((ds, x), cs)
      else some ((ds, 0), cs)
    | [] => some ((ds, 0), cs)
  | cs => (takeExponent cs).map fun (x, cs) => (([], x), cs)

/-- Takes a number with a fraction or an exponent, or one of the words for infinity and no
number. -/
def takeDecimal (cs : List Char) : Option (Toml × List Char) :=
  let (negative, unsigned) := takeSign cs
  match unsigned with
  | 'i' :: 'n' :: 'f' :: cs => some (.decimal, cs)
  | 'n' :: 'a' :: 'n' :: cs => some (.decimal, cs)
  | _ => do
    let (units, cs) ← takeInteger unsigned
    let ((fraction, exponent), cs) ← takeFraction cs
    if !negative && overflows (ofDigits (units ++ fraction)) (exponent - fraction.length) then none
    else some (.decimal, cs)

/-- A whole number of sixty-four bits. -/
def ofWhole? (n : Int) : Option Toml :=
  if Int64.minValue.toInt ≤ n ∧ n ≤ Int64.maxValue.toInt then some (.whole n) else none

/-- The number that digits name in a base. -/
def ofDigitsIn (base : Nat) (ds : List Char) : Nat :=
  ds.foldl (fun n d => base * n + (hexDigit? d).getD 0) 0

/-- Takes a whole number whose base is named in front. -/
def takeBased (base : Nat) (cs : List Char) : Option (Toml × List Char) := do
  let isDigit := fun c => (hexDigit? c).any (· < base)
  let (ds, cs) ← takeSpacedDigits isDigit cs
  let v ← ofWhole? (ofDigitsIn base ds)
  some (v, cs)

/-- Takes a whole number. -/
def takeWhole : List Char → Option (Toml × List Char)
  | '0' :: 'x' :: cs => takeBased 16 cs
  | '0' :: 'o' :: cs => takeBased 8 cs
  | '0' :: 'b' :: cs => takeBased 2 cs
  | cs => do
    let (negative, cs) := takeSign cs
    let (ds, cs) ← takeInteger cs
    let v ← ofWhole? (if negative then -(ofDigits ds : Int) else ofDigits ds)
    some (v, cs)

/-- Takes a value that holds no other values. -/
def takeScalar : List Char → Option (Toml × List Char)
  | 't' :: 'r' :: 'u' :: 'e' :: cs => some (.bool true, cs)
  | 'f' :: 'a' :: 'l' :: 's' :: 'e' :: cs => some (.bool false, cs)
  | c :: cs =>
    if c = '"' ∨ c = '\'' then (takeText (c :: cs)).map fun (s, cs) => (.text s, cs)
    else
      (takeMoment (c :: cs)).or ((takeDecimal (c :: cs)).or (takeWhole (c :: cs)))
  | [] => none

end UsageLedger.Toml
