import UsageLedger.Record.Basic
import UsageLedger.Snapshot.Keyed

/-!
# Snapshots

A snapshot holds the details of requests in buckets, one for each API key and model.  Keys and
models ascend; inside a bucket the details stand in the order in which they were pushed.  A key
without models and a bucket without details are possible, and count for nothing.

## Main definitions

* `Bucket`, `Snapshot`: details in order, and buckets by API key and model.
* `Snapshot.push`: one more record.
* `Snapshot.records`: all records, by API key, then by model, then in order.
* `Snapshot.recordCount`: how many there are.
-/

namespace UsageLedger

/-- The details recorded under one API key and model. -/
abbrev Bucket := List Detail

/-- Buckets by API key and then by model. -/
structure Snapshot where
  /-- For each API key its models, and for each model its bucket. -/
  apis : Keyed (Keyed Bucket)

namespace Snapshot

/-- The snapshot without API keys. -/
def empty : Snapshot :=
  ⟨Keyed.empty⟩

instance : Inhabited Snapshot := ⟨empty⟩

instance : DecidableEq Snapshot := fun a b =>
  decidable_of_iff (a.apis = b.apis) (by cases a; cases b; simp)

/-- The bucket of an API key and model, if there is one. -/
def bucket? (s : Snapshot) (apiKey model : String) : Option Bucket :=
  (s.apis.get? apiKey).bind (·.get? model)

/-- A snapshot with one bucket changed; the bucket is made if it is missing. -/
def updateBucket (s : Snapshot) (apiKey model : String) (change : Bucket → Bucket) : Snapshot :=
  ⟨s.apis.upsert apiKey fun models =>
    (models.getD Keyed.empty).upsert model fun bucket => change (bucket.getD [])⟩

/-- A snapshot with further details at the end of one bucket. -/
def extend (s : Snapshot) (apiKey model : String) (details : List Detail) : Snapshot :=
  s.updateBucket apiKey model (· ++ details)

/-- A snapshot with one more record, at the end of its bucket. -/
def push (s : Snapshot) (r : Record) : Snapshot :=
  s.extend r.apiKey r.model [r.detail]

/-- The snapshot of a row of records. -/
def ofRecords (rs : List Record) : Snapshot :=
  rs.foldl push empty

/-- The buckets with their API keys and models, in ascending order. -/
def buckets (s : Snapshot) : List (String × String × Bucket) :=
  s.apis.entries.flatMap fun (apiKey, models) =>
    models.entries.map fun (model, bucket) => (apiKey, model, bucket)

/-- All records: by API key, then by model, then in the order of the bucket. -/
def records (s : Snapshot) : List Record :=
  s.buckets.flatMap fun (apiKey, model, bucket) =>
    bucket.map fun detail => ⟨apiKey, model, detail⟩

/-- The number of records. -/
def recordCount (s : Snapshot) : Nat :=
  s.buckets.foldl (fun n (_, _, bucket) => n + bucket.length) 0

/-- There is no record, though there may be keys and buckets. -/
def isEmpty (s : Snapshot) : Bool :=
  s.recordCount == 0

/-- A snapshot with the details of each bucket brought into the order of their instants; those
of the same instant stay as they were. -/
def sortBuckets (s : Snapshot) : Snapshot :=
  ⟨s.apis.map fun models =>
    models.map fun bucket => bucket.mergeSort fun a b => a.timestamp.le b.timestamp⟩

end Snapshot

end UsageLedger
