/-!
# JSON values

The values of a JSON text.  An object keeps its fields in the order of the text, repeated names
included, because readers of records and of tables treat repetition differently.  Whole numbers are
kept exactly; a number with a fraction, an exponent, or a sign in front of zero is a decimal.

A JSON text can name half of a surrogate pair, which belongs to no text.  Such a string is kept
as an unreadable one: it does no harm where nobody reads it.

## Main definitions

* `Json.Number`, `Json.Text`: numbers, and strings that may be unreadable.
* `Json`: values.
* `Json.text`, `Json.count`, `Json.record`: shorthands to build values with.
-/

namespace UsageLedger

/-- A number of a JSON text. -/
inductive Json.Number where
  /-- A number without fraction and exponent, other than zero with a minus sign. -/
  | whole (n : Int)
  /-- The number `mantissa · 10 ^ exponent`, written with a fraction, an exponent or as `-0`. -/
  | decimal (mantissa exponent : Int)
  deriving DecidableEq

/-- A string of a JSON text, or `none` for one that is no text. -/
abbrev Json.Text := Option String

/-- A JSON value. -/
inductive Json where
  /-- The value `null`. -/
  | null
  /-- One of the two truth values. -/
  | bool (b : Bool)
  /-- A number. -/
  | number (n : Json.Number)
  /-- A string. -/
  | string (s : Json.Text)
  /-- A row of values. -/
  | array (items : List Json)
  /-- Named values, in the order of the text. -/
  | object (fields : List (Json.Text × Json))

namespace Json

instance : Inhabited Json := ⟨null⟩

/-- The string of a text. -/
def text (s : String) : Json :=
  string (some s)

/-- The number of an integer. -/
def whole (n : Int) : Json :=
  number (.whole n)

/-- The number of a natural number. -/
def count (n : Nat) : Json :=
  whole n

/-- The object of named values. -/
def record (fields : List (String × Json)) : Json :=
  object (fields.map fun (name, value) => (some name, value))

end Json

end UsageLedger
