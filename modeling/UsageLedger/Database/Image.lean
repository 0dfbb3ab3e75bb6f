import UsageLedger.Database.Basic
import UsageLedger.Json.Fields
import UsageLedger.Json.Printer
import UsageLedger.Json.Reader

/-!
# The content of a database file

A database is kept in a file as a line that tells what the file is, and a JSON value behind it with
the version, the indexes and the rows.

## Main definitions

* `Database.image`: the content of a database's file.
* `Database.ofImage?`: the database of a file's content.
-/

namespace UsageLedger

open Json

namespace Cell

/-- A cell as a JSON value. -/
def toJson : Cell → Json
  | integer n => whole n.toInt
  | real r => .array [whole r.mantissa, whole r.exponent]
  | text s => Json.text s
  | garbled bytes _ => Json.record [("text", .array (bytes.map fun b => count b.toNat))]
  | blob bytes => Json.record [("bytes", .array (bytes.map fun b => count b.toNat))]

/-- A byte from a JSON value. -/
def byteOfJson? (v : Json) : Option UInt8 :=
  v.asWhole?.bind fun n => if 0 ≤ n ∧ n < 256 then some (UInt8.ofNat n.toNat) else none

/-- A cell from a JSON value. -/
def ofJson? : Json → Option Cell
  | .number (.whole n) => (asInt64? (whole n)).map integer
  | .string s => s.map text
  | .array [m, e] => do some (real ⟨← m.asWhole?, ← e.asWhole?⟩)
  | .object [(some "text", v)] => (asList? byteOfJson? v).map ofTextBytes
  | .object [(some "bytes", v)] => (asList? byteOfJson? v).map blob
  | _ => none

end Cell

namespace Row

/-- A row as a JSON value. -/
def toJson (r : Row) : Json :=
  .array (Column.all.map fun c => (r.get c).toJson)

/-- A row from a JSON value. -/
def ofJson? (v : Json) : Option Row := do
  match ← asList? Cell.ofJson? v with
  | [apiKey, model, timestamp, source, authIndex, failed, input, output, reasoning, cached, total,
      dedupKey] =>
    some ⟨apiKey, model, timestamp, source, authIndex, failed, input, output, reasoning, cached,
      total, dedupKey⟩
  | _ => none

end Row

namespace Relation

/-- What stands under the table's name, as a JSON value. -/
def toJson : Relation → Json
  | absent => .null
  | narrow apiKeys =>
    Json.record [("api_keys", .array (apiKeys.map fun c => c.elim .null Cell.toJson))]
  | view => Json.text "view"
  | ledger l => Json.record [
      ("unique", .bool l.unique), ("lookup", .bool l.lookup),
      ("rejected", l.rejected.elim .null Json.text), ("rows", .array (l.rows.map Row.toJson))]

/-- A text, or `null` for none. -/
def rejectedOfJson? : Json → Option (Option String)
  | .null => some none
  | v => v.asText?.map some

/-- A cell, or `null` for none. -/
def cellOrNull? : Json → Option (Option Cell)
  | .null => some none
  | v => (Cell.ofJson? v).map some

/-- What stands under the table's name, from a JSON value. -/
def ofJson? : Json → Option Relation
  | .null => some absent
  | .object [(some "api_keys", v)] => (asList? cellOrNull? v).map narrow
  | .string (some "view") => some view
  | v => do
    match ← v.fields? ["unique", "lookup", "rejected", "rows"] with
    | [unique, lookup, rejected, rows] =>
      some (ledger {
        unique := ← required asBool? unique
        lookup := ← required asBool? lookup
        rejected := ← required rejectedOfJson? rejected
        rows := ← required (asList? Row.ofJson?) rows })
    | _ => none

end Relation

namespace Database

/-- The line that tells what a file is. -/
def imageHeader : String := "usage ledger, layout 1"

/-- The content of a database's file; the right to write is no part of it. -/
def image (db : Database) : String :=
  imageHeader ++ "\n"
    ++ (Json.record [
      ("version", whole db.version), ("write_ahead", .bool db.writeAhead),
      ("relation", db.relation.toJson)]).compact
    ++ "\n"

/-- The database of a file's content. -/
def ofImage? (content : String) : Option Database :=
  match content.splitOn "\n" with
  | [header, body, ""] =>
    if header = imageHeader then do
      match ← (← Json.parse? body).fields? ["version", "write_ahead", "relation"] with
      | [version, writeAhead, relation] =>
        some {
          version := ← required asWhole? version
          writeAhead := ← required asBool? writeAhead
          relation := ← required Relation.ofJson? relation }
      | _ => none
    else none
  | _ => none

end Database

end UsageLedger
