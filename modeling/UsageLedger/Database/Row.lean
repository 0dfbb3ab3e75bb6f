import UsageLedger.Database.Cell
import UsageLedger.Record.Basic
import UsageLedger.Snapshot.Basic
import UsageLedger.Time.Reader

/-!
# Rows of the usage table

A row of the usage table holds a record and its key in twelve columns.  The program writes rows
from records; other tools may write rows that hold anything the columns admit, so a row is read
with care: its texts must be texts and its numbers whole numbers, and a timestamp that no layout
fits makes the row one that is passed over.

## Main definitions

* `Column`, `Row`: the columns, and rows.
* `Row.ofRecord`: the row of a record.
* `Row.scan`: the record of a row, if its timestamp can be read, or the first cell of a wrong kind.
* `Row.stampLE`: the order of rows by their timestamp column.
-/

namespace UsageLedger

/-- A column of the usage table. -/
inductive Column where
  /-- The API key. -/
  | apiKey
  /-- The model. -/
  | model
  /-- The stored form of the instant. -/
  | timestamp
  /-- Where the request came from. -/
  | source
  /-- The credentials that it was made with. -/
  | authIndex
  /-- Zero for success. -/
  | failed
  /-- Tokens of the question. -/
  | input
  /-- Tokens of the answer. -/
  | output
  /-- Tokens of the reasoning. -/
  | reasoning
  /-- Tokens known before. -/
  | cached
  /-- All tokens that count. -/
  | total
  /-- The key of the record. -/
  | dedupKey
  deriving DecidableEq

namespace Column

/-- The columns in the order of the table. -/
def all : List Column :=
  [apiKey, model, timestamp, source, authIndex, failed, input, output, reasoning, cached, total,
    dedupKey]

/-- The name of a column. -/
def name : Column → String
  | apiKey => "api_key"
  | model => "model"
  | timestamp => "timestamp"
  | source => "source"
  | authIndex => "auth_index"
  | failed => "failed"
  | input => "input_tokens"
  | output => "output_tokens"
  | reasoning => "reasoning_tokens"
  | cached => "cached_tokens"
  | total => "total_tokens"
  | dedupKey => "dedup_key"

/-- The place of a column when rows are loaded. -/
def index (c : Column) : Nat :=
  all.idxOf c

/-- What a column prefers. -/
def affinity : Column → Affinity
  | failed | input | output | reasoning | cached | total => .integers
  | _ => .texts

/-- What a column holds in a new row that names no value for it, unless it has to be named. -/
def missing? : Column → Option Cell
  | source | authIndex => some (.text "")
  | failed | input | output | reasoning | cached | total => some (.integer 0)
  | _ => none

end Column

/-- A row of the usage table. -/
structure Row where
  /-- The API key. -/
  apiKey : Cell
  /-- The model. -/
  model : Cell
  /-- The stored form of the instant. -/
  timestamp : Cell
  /-- Where the request came from. -/
  source : Cell
  /-- The credentials that it was made with. -/
  authIndex : Cell
  /-- Zero for success. -/
  failed : Cell
  /-- Tokens of the question. -/
  input : Cell
  /-- Tokens of the answer. -/
  output : Cell
  /-- Tokens of the reasoning. -/
  reasoning : Cell
  /-- Tokens known before. -/
  cached : Cell
  /-- All tokens that count. -/
  total : Cell
  /-- The key of the record. -/
  dedupKey : Cell
  deriving DecidableEq

/-- A cell of a kind that its column is not read with. -/
structure ScanFault where
  /-- The column. -/
  column : Column
  /-- What the cell holds. -/
  found : Cell
  deriving DecidableEq

namespace Row

/-- The cell in a column. -/
def get (r : Row) : Column → Cell
  | .apiKey => r.apiKey
  | .model => r.model
  | .timestamp => r.timestamp
  | .source => r.source
  | .authIndex => r.authIndex
  | .failed => r.failed
  | .input => r.input
  | .output => r.output
  | .reasoning => r.reasoning
  | .cached => r.cached
  | .total => r.total
  | .dedupKey => r.dedupKey

/-- The row with given values, as its columns store them, unless a column has none. -/
def build? (value? : Column → Option Cell) : Option Row := do
  let cell? := fun c : Column => (value? c).map c.affinity.adapt
  some {
    apiKey := ← cell? .apiKey
    model := ← cell? .model
    timestamp := ← cell? .timestamp
    source := ← cell? .source
    authIndex := ← cell? .authIndex
    failed := ← cell? .failed
    input := ← cell? .input
    output := ← cell? .output
    reasoning := ← cell? .reasoning
    cached := ← cell? .cached
    total := ← cell? .total
    dedupKey := ← cell? .dedupKey }

/-- The row of a record. -/
def ofRecord (r : Record) : Row where
  apiKey := .text r.apiKey
  model := .text r.model
  timestamp := .text r.detail.timestamp.stored
  source := .text r.detail.source
  authIndex := .text r.detail.authIndex
  failed := .integer (if r.detail.failed then 1 else 0)
  input := .integer r.detail.tokens.input
  output := .integer r.detail.tokens.output
  reasoning := .integer r.detail.tokens.reasoning
  cached := .integer r.detail.tokens.cached
  total := .integer r.detail.tokens.total
  dedupKey := .text r.key

/-- The text in a column. -/
def readText (r : Row) (c : Column) : Except ScanFault String :=
  match r.get c with
  | .text s => .ok s
  | found => .error ⟨c, found⟩

/-- The whole number in a column. -/
def readCount (r : Row) (c : Column) : Except ScanFault Count :=
  match r.get c with
  | .integer n => .ok n
  | found => .error ⟨c, found⟩

/-- The instant in the timestamp column, if it holds a text that can be read. -/
def instant? (r : Row) : Option Instant :=
  match r.timestamp with
  | .text s => Instant.readStored? s
  | _ => none

/-- The record of a row, or nothing if its timestamp cannot be read; a cell of a wrong kind is a
fault either way, the first one from the left. -/
def scan (r : Row) : Except ScanFault (Option Record) := do
  let apiKey ← r.readText .apiKey
  let model ← r.readText .model
  let source ← r.readText .source
  let authIndex ← r.readText .authIndex
  let failed ← r.readCount .failed
  let input ← r.readCount .input
  let output ← r.readCount .output
  let reasoning ← r.readCount .reasoning
  let cached ← r.readCount .cached
  let total ← r.readCount .total
  return r.instant?.map fun timestamp =>
    { apiKey, model
      detail :=
        { timestamp, source, authIndex
          tokens := { input, output, reasoning, cached, total }
          failed := failed != 0 } }

/-- The place of a cell's kind when cells are ordered: numbers come before texts, and texts before
bytes. -/
def kindRank : Cell → Nat
  | .integer _ | .real _ => 0
  | .text _ | .garbled .. => 1
  | .blob _ => 2

/-- Whether a row comes no later than another by its timestamp column: by kind, then texts and
bytes in the order of their bytes. -/
def stampLE (a b : Row) : Bool :=
  match a.timestamp, b.timestamp with
  | .text s, .text t => !(t < s)
  | .blob s, .blob t => !(t < s)
  | .text s, .garbled t _ => !(t < Text.bytes s)
  | .garbled s _, .text t => !(Text.bytes t < s)
  | .garbled s _, .garbled t _ => !(t < s)
  | s, t => kindRank s ≤ kindRank t

end Row

end UsageLedger
