import UsageLedger.Json.Value
import UsageLedger.Text.Basic

/-!
# Writing JSON

Values are written without blanks, or with every item and field on a line of its own, indented
by two spaces for each array and object around it.  Inside strings the quotation mark, the
backslash and the control characters are escaped and all else stands as it is.

## Main definitions

* `Json.escape`: the inside of a string.
* `Json.compact`: a value on one line, without blanks.
* `Json.pretty`: a value over several lines.
-/

namespace UsageLedger.Json

open UsageLedger.Text

/-- How one character is written inside a string. -/
def escapeChar (c : Char) : List Char :=
  if c = '"' then ['\\', '"']
  else if c = '\\' then ['\\', '\\']
  else if c = '\x08' then ['\\', 'b']
  else if c = '\x0c' then ['\\', 'f']
  else if c = '\n' then ['\\', 'n']
  else if c = '\r' then ['\\', 'r']
  else if c = '\t' then ['\\', 't']
  else if c.toNat < 0x20 then
    ['\\', 'u', '0', '0', (c.toNat / 16).digitChar, (c.toNat % 16).digitChar]
  else [c]

/-- The inside of a string. -/
def escape (cs : List Char) : List Char :=
  cs.flatMap escapeChar

/-- A string in quotation marks. -/
def quoted (s : String) : List Char :=
  '"' :: escape s.toList ++ ['"']

/-- An unreadable string is written as an empty one. -/
def textChars (s : Json.Text) : List Char :=
  quoted (s.getD "")

/-- A decimal is written with its exponent. -/
def Number.chars : Number → List Char
  | .whole n => signedDigits n
  | .decimal mantissa exponent => signedDigits mantissa ++ 'e' :: signedDigits exponent

mutual

/-- The characters of a value without blanks. -/
def compactChars : Json → List Char
  | null => ['n', 'u', 'l', 'l']
  | bool true => ['t', 'r', 'u', 'e']
  | bool false => ['f', 'a', 'l', 's', 'e']
  | number n => n.chars
  | string s => textChars s
  | array [] => ['[', ']']
  | array (v :: vs) => '[' :: compactChars v ++ compactItems vs ++ [']']
  | object [] => ['\x7b', '\x7d']
  | object ((k, v) :: fs) =>
    '\x7b' :: textChars k ++ ':' :: compactChars v ++ compactFields fs ++ ['\x7d']

/-- The items behind the first one, each with a comma in front. -/
def compactItems : List Json → List Char
  | [] => []
  | v :: vs => ',' :: compactChars v ++ compactItems vs

/-- The fields behind the first one, each with a comma in front. -/
def compactFields : List (Json.Text × Json) → List Char
  | [] => []
  | (k, v) :: fs => ',' :: textChars k ++ ':' :: compactChars v ++ compactFields fs

end

/-- A new line, indented by two spaces for each level. -/
def newLine (level : Nat) : List Char :=
  '\n' :: List.replicate (2 * level) ' '

mutual

/-- The characters of a value over several lines, at a level of indentation. -/
def prettyChars (level : Nat) : Json → List Char
  | null => ['n', 'u', 'l', 'l']
  | bool true => ['t', 'r', 'u', 'e']
  | bool false => ['f', 'a', 'l', 's', 'e']
  | number n => n.chars
  | string s => textChars s
  | array [] => ['[', ']']
  | array (v :: vs) =>
    '[' :: newLine (level + 1) ++ prettyChars (level + 1) v ++ prettyItems (level + 1) vs
      ++ newLine level ++ [']']
  | object [] => ['\x7b', '\x7d']
  | object ((k, v) :: fs) =>
    '\x7b' :: newLine (level + 1) ++ textChars k ++ ':' :: ' ' :: prettyChars (level + 1) v
      ++ prettyFields (level + 1) fs ++ newLine level ++ ['\x7d']

/-- The items behind the first one, each on a line of its own. -/
def prettyItems (level : Nat) : List Json → List Char
  | [] => []
  | v :: vs => ',' :: newLine level ++ prettyChars level v ++ prettyItems level vs

/-- The fields behind the first one, each on a line of its own. -/
def prettyFields (level : Nat) : List (Json.Text × Json) → List Char
  | [] => []
  | (k, v) :: fs =>
    ',' :: newLine level ++ textChars k ++ ':' :: ' ' :: prettyChars level v
      ++ prettyFields level fs

end

/-- A value on one line, without blanks. -/
def compact (v : Json) : String :=
  String.ofList (compactChars v)

/-- A value with every item and field on a line of its own. -/
def pretty (v : Json) : String :=
  String.ofList (prettyChars 0 v)

end UsageLedger.Json
