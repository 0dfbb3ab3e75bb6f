import UsageLedger.Json.Fields
import UsageLedger.Record.Basic
import UsageLedger.Time.Printer
import UsageLedger.Time.Reader

/-!
# Records in JSON

Counts, details and instants as JSON values.

## Main definitions

* `Instant.toJson`, `Instant.ofJson?`: an instant, as a string.
* `Tokens.toJson`, `Tokens.ofJson?`: the counts of a request.
* `Detail.toJson`, `Detail.ofJson?`: the detail of a request.
-/

namespace UsageLedger

open Json

namespace Instant

/-- An instant as a string, with the shortest exact fraction. -/
def toJson (t : Instant) : Json :=
  text t.display

/-- An instant from a string in the lenient layout. -/
def ofJson? (v : Json) : Option Instant :=
  v.asText?.bind readLenient?

end Instant

/-- A count as a number. -/
def Count.toJson (n : Count) : Json :=
  whole n.toInt

namespace Tokens

/-- The names of the counts. -/
def fieldNames : List String :=
  ["input_tokens", "output_tokens", "reasoning_tokens", "cached_tokens", "total_tokens"]

/-- The counts of a request, by name. -/
def toJson (t : Tokens) : Json :=
  record (fieldNames.zip (t.counts.map Count.toJson))

/-- The counts of a request; a missing one is zero. -/
def ofJson? (v : Json) : Option Tokens := do
  match ← v.fields? fieldNames with
  | [input, output, reasoning, cached, total] =>
    some {
      input := ← optional asInt64? 0 input
      output := ← optional asInt64? 0 output
      reasoning := ← optional asInt64? 0 reasoning
      cached := ← optional asInt64? 0 cached
      total := ← optional asInt64? 0 total }
  | _ => none

end Tokens

namespace Detail

/-- The names of the fields. -/
def fieldNames : List String :=
  ["timestamp", "source", "auth_index", "tokens", "failed"]

/-- The detail of a request, by name. -/
def toJson (d : Detail) : Json :=
  record (fieldNames.zip
    [d.timestamp.toJson, text d.source, text d.authIndex, d.tokens.toJson, .bool d.failed])

/-- The detail of a request; all but the timestamp may be missing. -/
def ofJson? (v : Json) : Option Detail := do
  match ← v.fields? fieldNames with
  | [timestamp, source, authIndex, tokens, failed] =>
    some {
      timestamp := ← required Instant.ofJson? timestamp
      source := ← optional asText? "" source
      authIndex := ← optional asText? "" authIndex
      tokens := ← optional Tokens.ofJson? {} tokens
      failed := ← optional asBool? false failed }
  | _ => none

end Detail

end UsageLedger
