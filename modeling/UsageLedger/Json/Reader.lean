import UsageLedger.Json.Token

/-!
# Reading JSON

A JSON text is read word by word with a stack of the arrays and objects that are still open, so that
nesting may be of any depth.

## Main definitions

* `Json.Frame`, `Json.Reading`: an open array or object, and what a partly read text amounts to.
* `Json.Reading.step`: how one word carries the reading on.
* `Json.parse?`: the value of a text.
-/

namespace UsageLedger.Json

/-- An array or object that is still open, with what it holds so far, last item first. -/
inductive Frame where
  /-- An open array. -/
  | array (items : List Json)
  /-- An open object, and the name whose value is being read. -/
  | object (fields : List (Json.Text × Json)) (name : Json.Text)

/-- What a partly read text amounts to. -/
inductive Reading where
  /-- A value has to follow. -/
  | value (stack : List Frame)
  /-- A value or the end of an array without items has to follow. -/
  | firstItem (stack : List Frame)
  /-- A name or the end of an object without fields has to follow. -/
  | firstName (stack : List Frame)
  /-- A name has to follow. -/
  | name (fields : List (Json.Text × Json)) (stack : List Frame)
  /-- The colon behind a name has to follow. -/
  | colon (fields : List (Json.Text × Json)) (name : Json.Text) (stack : List Frame)
  /-- A value is complete inside an array or object. -/
  | item (v : Json) (frame : Frame) (stack : List Frame)
  /-- The value of the text is complete. -/
  | complete (v : Json)

namespace Reading

/-- A value is complete: it belongs to the innermost open array or object, if there is one. -/
def ofValue (v : Json) : List Frame → Reading
  | [] => complete v
  | frame :: stack => item v frame stack

/-- A word where a value has to follow. -/
def startValue (stack : List Frame) : Token → Option Reading
  | .openArray => some (firstItem stack)
  | .openObject => some (firstName stack)
  | .null => some (ofValue .null stack)
  | .bool b => some (ofValue (.bool b) stack)
  | .number n => some (ofValue (.number n) stack)
  | .string s => some (ofValue (.string s) stack)
  | _ => none

/-- How one word carries the reading on. -/
def step : Reading → Token → Option Reading
  | value stack, t => startValue stack t
  | firstItem stack, .closeArray => some (ofValue (.array []) stack)
  | firstItem stack, t => startValue (.array [] :: stack) t
  | firstName stack, .closeObject => some (ofValue (.object []) stack)
  | firstName stack, .string s => some (colon [] s stack)
  | name fields stack, .string s => some (colon fields s stack)
  | colon fields s stack, .colon => some (value (.object fields s :: stack))
  | item v (.array items) stack, .comma => some (value (.array (v :: items) :: stack))
  | item v (.array items) stack, .closeArray =>
    some (ofValue (.array (v :: items).reverse) stack)
  | item v (.object fields s) stack, .comma => some (name ((s, v) :: fields) stack)
  | item v (.object fields s) stack, .closeObject =>
    some (ofValue (.object ((s, v) :: fields).reverse) stack)
  | _, _ => none

/-- How a row of words carries the reading on. -/
def run : Reading → List Token → Option Reading
  | r, [] => some r
  | r, t :: ts =>
    match r.step t with
    | none => none
    | some next => run next ts

end Reading

/-- The value that a row of words forms. -/
def ofTokens? (ts : List Token) : Option Json :=
  match Reading.run (.value []) ts with
  | some (.complete v) => some v
  | _ => none

/-- The value of a JSON text; nothing but blanks may stand beside it. -/
def parse? (text : String) : Option Json :=
  (tokens? text).bind ofTokens?

end UsageLedger.Json
