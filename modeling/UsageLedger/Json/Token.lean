import UsageLedger.Json.Value
import UsageLedger.Text.Basic

/-!
# The words of a JSON text

A JSON text is cut into words: brackets, commas, colons, constants, numbers and strings.  The cut is
made by a machine that looks at one character at a time, so it works through texts of any length and
needs no look-ahead.

## Main definitions

* `Json.Token`: the words.
* `Json.Scan`: what the machine is in the middle of.
* `Json.Scan.step`: the machine's move at one character.
* `Json.tokens?`: the words of a text.
-/

namespace UsageLedger.Json

open UsageLedger.Text

/-- A word of a JSON text. -/
inductive Token where
  /-- An opening square bracket. -/
  | openArray
  /-- A closing square bracket. -/
  | closeArray
  /-- An opening brace. -/
  | openObject
  /-- A closing brace. -/
  | closeObject
  /-- A comma. -/
  | comma
  /-- A colon. -/
  | colon
  /-- The constant `null`. -/
  | null
  /-- The constant `true` or `false`. -/
  | bool (b : Bool)
  /-- A number. -/
  | number (n : Number)
  /-- A string. -/
  | string (s : Json.Text)
  deriving DecidableEq

/-- A piece of a string: a character as it stands, or a unit of sixteen bits given by its number. -/
inductive Piece where
  /-- A character. -/
  | char (c : Char)
  /-- A unit written as `\u` and four digits. -/
  | unit (n : Nat)
  deriving DecidableEq

namespace Piece

/-- The unit opens a surrogate pair. -/
def isHigh (n : Nat) : Bool :=
  0xD800 ≤ n && n < 0xDC00

/-- The unit closes a surrogate pair. -/
def isLow (n : Nat) : Bool :=
  0xDC00 ≤ n && n < 0xE000

/-- The characters that pieces stand for: two units that form a surrogate pair are one
character, and half a pair stands for nothing. -/
def chars? : List Piece → Option (List Char)
  | [] => some []
  | .char c :: ps => (chars? ps).map (c :: ·)
  | .unit n :: ps =>
    if isHigh n then
      match ps with
      | .unit m :: ps =>
        if isLow m then
          (chars? ps).map (Char.ofNat (0x10000 + (n - 0xD800) * 0x400 + (m - 0xDC00)) :: ·)
        else none
      | _ => none
    else if isLow n then none
    else (chars? ps).map (Char.ofNat n :: ·)

/-- The string that pieces form, given last piece first. -/
def joinReversed (ps : List Piece) : Json.Text :=
  (chars? ps.reverse).map String.ofList

end Piece

/-- What the machine is in the middle of; what it has read of a word is kept last character
first. -/
inductive Scan where
  /-- Between two words. -/
  | between
  /-- Inside one of the constants. -/
  | word (read : List Char)
  /-- Inside a number. -/
  | numeral (read : List Char)
  /-- Inside a string. -/
  | string (read : List Piece)
  /-- Inside a string, behind a backslash. -/
  | escape (read : List Piece)
  /-- Inside a string, in front of the last `left + 1` digits of a unit. -/
  | unit (read : List Piece) (left : Nat) (value : Nat)

/-- The blanks that may stand between words. -/
def isSpace (c : Char) : Bool :=
  c == ' ' || c == '\t' || c == '\n' || c == '\r'

/-- The word that a single character forms. -/
def Token.ofMark? : Char → Option Token
  | '[' => some .openArray
  | ']' => some .closeArray
  | '\x7b' => some .openObject
  | '\x7d' => some .closeObject
  | ',' => some .comma
  | ':' => some .colon
  | _ => none

/-- The constant with a given spelling. -/
def Token.ofWord? (cs : List Char) : Option Token :=
  if cs = ['n', 'u', 'l', 'l'] then some .null
  else if cs = ['t', 'r', 'u', 'e'] then some (.bool true)
  else if cs = ['f', 'a', 'l', 's', 'e'] then some (.bool false)
  else none

/-- The exponent with a given spelling: a sign, if any, and at least one digit. -/
def exponent? : List Char → Option Int
  | '-' :: ds => if ds.isEmpty || !ds.all Char.isDigit then none else some (-(ofDigits ds : Int))
  | '+' :: ds => if ds.isEmpty || !ds.all Char.isDigit then none else some (ofDigits ds)
  | ds => if ds.isEmpty || !ds.all Char.isDigit then none else some (ofDigits ds)

/-- The number with a given sign and spelling: digits without a zero in front, then a fraction
and an exponent, if any. -/
def Number.ofUnsigned? (negative : Bool) (cs : List Char) : Option Number :=
  let whole := cs.takeWhile Char.isDigit
  let rest := cs.dropWhile Char.isDigit
  if whole.isEmpty || (whole.head? == some '0' && whole.length != 1) then none
  else
    let sign : Int := if negative then -1 else 1
    match rest with
    | [] =>
      if negative && ofDigits whole == 0 then some (.decimal 0 0)
      else some (.whole (sign * ofDigits whole))
    | '.' :: rest =>
      let fraction := rest.takeWhile Char.isDigit
      let mantissa := sign * ofDigits (whole ++ fraction)
      if fraction.isEmpty then none
      else
        match rest.dropWhile Char.isDigit with
        | [] => some (.decimal mantissa (-fraction.length))
        | e :: es =>
          if e = 'e' ∨ e = 'E' then
            (exponent? es).map fun x => .decimal mantissa (x - fraction.length)
          else none
    | e :: es =>
      if e = 'e' ∨ e = 'E' then (exponent? es).map fun x => .decimal (sign * ofDigits whole) x
      else none

/-- The number with a given spelling. -/
def Number.ofSpelling? : List Char → Option Number
  | '-' :: cs => Number.ofUnsigned? true cs
  | cs => Number.ofUnsigned? false cs

/-- A character that can stand inside a number. -/
def isNumeral (c : Char) : Bool :=
  c.isDigit || c == '-' || c == '+' || c == '.' || c == 'e' || c == 'E'

/-- A character that can stand inside a constant. -/
def isLetter (c : Char) : Bool :=
  'a' ≤ c && c ≤ 'z'

/-- The value of a hexadecimal digit. -/
def hexValue? (c : Char) : Option Nat :=
  if c.isDigit then some (c.toNat - 48)
  else if 'a' ≤ c && c ≤ 'f' then some (c.toNat - 87)
  else if 'A' ≤ c && c ≤ 'F' then some (c.toNat - 55)
  else none

/-- The character that a letter behind a backslash stands for. -/
def escaped? : Char → Option Char
  | '"' => some '"'
  | '\\' => some '\\'
  | '/' => some '/'
  | 'b' => some '\x08'
  | 'f' => some '\x0c'
  | 'n' => some '\n'
  | 'r' => some '\r'
  | 't' => some '\t'
  | _ => none

namespace Scan

/-- The machine's move between two words. -/
def start (c : Char) : Option (List Token × Scan) :=
  if isSpace c then some ([], between)
  else if c = '"' then some ([], string [])
  else if c.isDigit || c = '-' then some ([], numeral [c])
  else if isLetter c then some ([], word [c])
  else (Token.ofMark? c).map fun t => ([t], between)

/-- The machine's move at one character: the words that it completes, and what it is in the
middle of afterwards. -/
def step : Scan → Char → Option (List Token × Scan)
  | between, c => start c
  | word read, c =>
    if isLetter c then some ([], word (c :: read))
    else do
      let t ← Token.ofWord? read.reverse
      let (ts, next) ← start c
      some (t :: ts, next)
  | numeral read, c =>
    if isNumeral c then some ([], numeral (c :: read))
    else do
      let n ← Number.ofSpelling? read.reverse
      let (ts, next) ← start c
      some (.number n :: ts, next)
  | string read, c =>
    if c = '"' then some ([.string (Piece.joinReversed read)], between)
    else if c = '\\' then some ([], escape read)
    else if c.toNat < 0x20 then none
    else some ([], string (.char c :: read))
  | escape read, c =>
    if c = 'u' then some ([], unit read 3 0)
    else (escaped? c).map fun d => ([], string (.char d :: read))
  | unit read left value, c => do
    let d ← hexValue? c
    match left with
    | 0 => some ([], string (.unit (16 * value + d) :: read))
    | left + 1 => some ([], unit read left (16 * value + d))

/-- The words that the end of the text completes. -/
def finish : Scan → Option (List Token)
  | between => some []
  | word read => (Token.ofWord? read.reverse).map fun t => [t]
  | numeral read => (Number.ofSpelling? read.reverse).map fun n => [.number n]
  | _ => none

/-- The machine at work: the words found, last word first, and the state between two characters. -/
def run : List Token → Scan → List Char → Option (List Token)
  | found, state, [] => (state.finish).map fun ts => (ts.reverseAux found).reverse
  | found, state, c :: cs =>
    match state.step c with
    | none => none
    | some (ts, next) => run (ts.reverseAux found) next cs

end Scan

/-- The words of a JSON text, or nothing when it has a word that is none. -/
def tokens? (text : String) : Option (List Token) :=
  Scan.run [] .between text.toList

end UsageLedger.Json
