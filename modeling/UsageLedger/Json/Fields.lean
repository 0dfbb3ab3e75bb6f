import UsageLedger.Json.Value

/-!
# Fields of records in JSON

A record is written as an object with its fields by name.  It is read from such an object, where
unknown fields are passed over and a known one may not come twice, or from an array with its
fields in order, of which the last ones may be missing.

## Main definitions

* `Json.fields?`: the values of named fields, each of which may be missing.
* `Json.required`, `Json.optional`: a field read, with or without a value in its place when missing.
* `Json.asText?`, `Json.asBool?`, `Json.asCount?`, `Json.asList?`, `Json.asTable?`: plain values.
-/

namespace UsageLedger.Json

/-- The value of the one field with a name, `some none` if there is no such field, and nothing if
there are two. -/
def field? (name : String) (fields : List (Json.Text × Json)) : Option (Option Json) :=
  match fields.filter fun (k, _) => k = some name with
  | [] => some none
  | [(_, v)] => some (some v)
  | _ => none

/-- The values of named fields of an object or, in order, of an array. -/
def fields? (names : List String) : Json → Option (List (Option Json))
  | object fields =>
    if fields.all fun (k, _) => k.isSome then names.mapM fun name => field? name fields else none
  | array items =>
    if items.length ≤ names.length then
      some (items.map some ++ List.replicate (names.length - items.length) none)
    else none
  | _ => none

/-- A field that has to be there. -/
def required {α : Type} (read : Json → Option α) : Option Json → Option α
  | some v => read v
  | none => none

/-- A field with a value in its place when it is missing. -/
def optional {α : Type} (read : Json → Option α) (missing : α) : Option Json → Option α
  | some v => read v
  | none => some missing

/-- A string. -/
def asText? : Json → Option String
  | string s => s
  | _ => none

/-- A truth value. -/
def asBool? : Json → Option Bool
  | bool b => some b
  | _ => none

/-- A whole number. -/
def asWhole? : Json → Option Int
  | number (.whole n) => some n
  | _ => none

/-- A whole number of sixty-four bits. -/
def asInt64? (v : Json) : Option Int64 :=
  v.asWhole?.bind fun n =>
    if Int64.minValue.toInt ≤ n ∧ n ≤ Int64.maxValue.toInt then some (Int64.ofInt n) else none

/-- An array, each item read. -/
def asList? {α : Type} (read : Json → Option α) : Json → Option (List α)
  | array items => items.mapM read
  | _ => none

/-- An object, each name and value read, in the order of the text. -/
def asTable? {α : Type} (read : Json → Option α) : Json → Option (List (String × α))
  | object fields => fields.mapM fun (k, v) => do
    let name ← k
    let value ← read v
    some (name, value)
  | _ => none

end UsageLedger.Json
