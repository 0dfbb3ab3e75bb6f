import UsageLedger.Snapshot.Basic

/-!
# Totals

What the records of a snapshot amount to: how many requests there were, how many of them succeeded
and failed, and the sums of their tokens, over the whole snapshot or for each bucket.

## Main definitions

* `Totals`: requests counted and tokens summed.
* `Snapshot.totals`: the totals over all records.
* `Snapshot.modelTotals`: the totals of each bucket.
-/

namespace UsageLedger

/-- Requests counted and tokens summed. -/
structure Totals where
  /-- The number of requests. -/
  requests : Nat := 0
  /-- Those that succeeded. -/
  succeeded : Nat := 0
  /-- Those that failed. -/
  failed : Nat := 0
  /-- The sums of their tokens. -/
  tokens : Tokens := {}
  deriving DecidableEq

namespace Totals

/-- The totals with one more request. -/
def add (t : Totals) (d : Detail) : Totals where
  requests := t.requests + 1
  succeeded := if d.failed then t.succeeded else t.succeeded + 1
  failed := if d.failed then t.failed + 1 else t.failed
  tokens := t.tokens.add d.tokens

/-- The totals of a row of requests. -/
def ofDetails (ds : List Detail) : Totals :=
  ds.foldl add {}

end Totals

namespace Snapshot

/-- The totals over all records. -/
def totals (s : Snapshot) : Totals :=
  Totals.ofDetails (s.records.map (·.detail))

/-- The totals of each bucket, by API key and then by model; an empty bucket has a row too. -/
def modelTotals (s : Snapshot) : List (String × String × Totals) :=
  s.buckets.map fun (apiKey, model, bucket) => (apiKey, model, Totals.ofDetails bucket)

end Snapshot

end UsageLedger
