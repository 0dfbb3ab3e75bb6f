import UsageLedger.Record.Codec
import UsageLedger.Snapshot.Basic

/-!
# Snapshots in JSON

A snapshot is an object of API keys, each an object of models, each a row of details.  A key that
comes twice counts with its last value.

## Main definitions

* `Snapshot.toJson`, `Snapshot.ofJson?`: a snapshot as a JSON value.
-/

namespace UsageLedger

open Json

/-- A table as an object. -/
def Keyed.toJson {β : Type} (write : β → Json) (t : Keyed β) : Json :=
  Json.record (t.entries.map fun (k, v) => (k, write v))

/-- A table from an object. -/
def Keyed.ofJson? {β : Type} (read : Json → Option β) (v : Json) : Option (Keyed β) :=
  (v.asTable? read).map Keyed.ofList

/-- The single field of a record, by its name. -/
def onlyField? (name : String) (v : Json) : Option (Option Json) :=
  match v.fields? [name] with
  | some [field] => some field
  | _ => none

namespace Bucket

/-- A bucket as a record of its details. -/
def toJson (b : Bucket) : Json :=
  Json.record [("details", .array (b.map Detail.toJson))]

/-- A bucket from a record of its details. -/
def ofJson? (v : Json) : Option Bucket := do
  optional (asList? Detail.ofJson?) [] (← onlyField? "details" v)

end Bucket

namespace Snapshot

/-- The models of one API key as a record. -/
def modelsToJson (models : Keyed Bucket) : Json :=
  Json.record [("models", models.toJson Bucket.toJson)]

/-- The models of one API key from a record. -/
def modelsOfJson? (v : Json) : Option (Keyed Bucket) := do
  optional (Keyed.ofJson? Bucket.ofJson?) Keyed.empty (← onlyField? "models" v)

/-- A snapshot as a record. -/
def toJson (s : Snapshot) : Json :=
  Json.record [("apis", s.apis.toJson modelsToJson)]

/-- A snapshot from a record, of which every level may be missing. -/
def ofJson? (v : Json) : Option Snapshot := do
  let apis ← optional (Keyed.ofJson? modelsOfJson?) Keyed.empty (← onlyField? "apis" v)
  some ⟨apis⟩

end Snapshot

end UsageLedger
