import UsageLedger.Record.Codec
import UsageLedger.Text.Basic

/-!
# Usage events

An event reports a request as the proxy saw it, with fields that may be empty.  Before it is counted
or stored it is normalized to a record: every gap is filled, from the context of the request where
that knows more.

## Main definitions

* `Event`: a request as reported.
* `Context`: what is known of the request beside the event.
* `Event.normalize`: the record of an event.
* `Event.toJson`, `Event.ofJson?`: an event as a JSON value.
-/

namespace UsageLedger

/-- A request as the proxy reports it. -/
structure Event where
  /-- When it was made, if that was noted. -/
  requestedAt : Option Instant := none
  /-- The API key, or nothing. -/
  apiKey : String := ""
  /-- The provider that answered. -/
  provider : String := ""
  /-- The name of the model, or nothing. -/
  model : String := ""
  /-- Where the request came from. -/
  source : String := ""
  /-- The credentials that it was made with. -/
  authIndex : String := ""
  /-- It did not succeed. -/
  failed : Bool := false
  /-- The tokens that it used up. -/
  tokens : Tokens := {}
  deriving DecidableEq

/-- What is known of a request beside its event. -/
structure Context where
  /-- The path that was asked for. -/
  requestPath : Option String := none
  /-- The status code of the answer. -/
  status : Option Nat := none
  deriving DecidableEq

namespace Context

/-- An answer with a status of 400 or more is a failure; without a status there is none. -/
def success (c : Context) : Bool :=
  c.status.all (· < 400)

/-- The path without blanks around it, unless nothing is left. -/
def pathName? (c : Context) : Option String :=
  (c.requestPath.map Text.trim).filter (· ≠ "")

end Context

/-- What stands for an API key or a model that nothing is known of. -/
def unknownName : String := "unknown"

namespace Event

/-- What an event is counted under: its API key, else the path of the request, else the provider. -/
def identifier (e : Event) (c : Context) : String :=
  if e.apiKey ≠ "" then e.apiKey
  else c.pathName?.getD (if e.provider ≠ "" then e.provider else unknownName)

/-- The record of an event: every gap is filled, and an event without a time happened now. -/
def normalize (e : Event) (c : Context) (now : Instant) : Record where
  apiKey := e.identifier c
  model := if e.model ≠ "" then e.model else unknownName
  detail :=
    { timestamp := e.requestedAt.getD now
      source := e.source
      authIndex := e.authIndex
      tokens := e.tokens.normalize
      failed := e.failed || !c.success }

/-- An event with the time at which it was published, where none was noted. -/
def stamp (e : Event) (now : Instant) : Event :=
  { e with requestedAt := some (e.requestedAt.getD now) }

/-! ### Events in JSON -/

open Json

/-- The names of the fields. -/
def fieldNames : List String :=
  ["requested_at", "api_key", "provider", "model", "source", "auth_index", "failed", "tokens"]

/-- An event, by name; a missing time is `null`. -/
def toJson (e : Event) : Json :=
  record (fieldNames.zip
    [e.requestedAt.elim .null Instant.toJson, text e.apiKey, text e.provider, text e.model,
      text e.source, text e.authIndex, .bool e.failed, e.tokens.toJson])

/-- A time, or `null` for none. -/
def requestedAtOfJson? : Json → Option (Option Instant)
  | .null => some none
  | v => (Instant.ofJson? v).map some

/-- An event, of which every field may be missing. -/
def ofJson? (v : Json) : Option Event := do
  match ← v.fields? fieldNames with
  | [requestedAt, apiKey, provider, model, source, authIndex, failed, tokens] =>
    some {
      requestedAt := ← optional requestedAtOfJson? none requestedAt
      apiKey := ← optional asText? "" apiKey
      provider := ← optional asText? "" provider
      model := ← optional asText? "" model
      source := ← optional asText? "" source
      authIndex := ← optional asText? "" authIndex
      failed := ← optional asBool? false failed
      tokens := ← optional Tokens.ofJson? {} tokens }
  | _ => none

end Event

end UsageLedger
