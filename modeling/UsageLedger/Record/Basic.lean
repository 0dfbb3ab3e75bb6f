import UsageLedger.Digest.Sha256
import UsageLedger.Time.Printer

/-!
# Usage records

A record says that a request was made: under which API key, with which model, and its detail, that
is when, from where, with which tokens, and whether it failed.

What one request used up are five counts of tokens, each a whole number of sixty-four bits.
Counts are added up without overflow: a sum past either end of the range is that end.

Two deliveries of one request are recognised by the record's key, the digest of a row of bytes
that spells out every field: texts behind their length, counts in eight bytes each, and a last
byte for failure.  The instant is spelled out as it is stored, so that one whose second is
prolonged cannot be told from the same one in the next second; apart from this the row
determines the record.

## Main definitions

* `Count`: a number of tokens.
* `Count.add`: the sum of two counts, held within the range.
* `Tokens`, `Tokens.add`: the five counts of a request, and sums of them.
* `Detail`: what is known of a request apart from its key and model.
* `Record`: a request.
* `Record.identityBytes`: the row of bytes that spells out a record.
* `Record.key`: its digest as text.
-/

namespace UsageLedger

/-! ### Token counts -/

/-- A number of tokens; requests of faulty sources can report negative ones. -/
abbrev Count := Int64

namespace Count

/-- The sum of two counts, or the end of the range that it passes. -/
def add (a b : Count) : Count :=
  Int64.ofIntClamp (a.toInt + b.toInt)

/-- A count, or zero in place of a negative one. -/
def nonnegative (a : Count) : Count :=
  if a < 0 then 0 else a

end Count

/-- The five counts of a request. -/
structure Tokens where
  /-- Tokens of the question. -/
  input : Count := 0
  /-- Tokens of the answer. -/
  output : Count := 0
  /-- Tokens of the reasoning before the answer. -/
  reasoning : Count := 0
  /-- Tokens of the question that were known from an earlier one. -/
  cached : Count := 0
  /-- All tokens that count. -/
  total : Count := 0
  deriving DecidableEq

namespace Tokens

/-- The five counts, in the order in which they are written. -/
def counts (t : Tokens) : List Count :=
  [t.input, t.output, t.reasoning, t.cached, t.total]

/-- The sums of two requests' counts. -/
def add (s t : Tokens) : Tokens where
  input := Count.add s.input t.input
  output := Count.add s.output t.output
  reasoning := Count.add s.reasoning t.reasoning
  cached := Count.add s.cached t.cached
  total := Count.add s.total t.total

/-- The counts without negative ones, and with a total where none was reported: the sum of question,
answer and reasoning, or else the tokens known before. -/
def normalize (t : Tokens) : Tokens :=
  let input := t.input.nonnegative
  let output := t.output.nonnegative
  let reasoning := t.reasoning.nonnegative
  let cached := t.cached.nonnegative
  let reported := t.total.nonnegative
  let derived := Count.add (Count.add input output) reasoning
  { input, output, reasoning, cached
    total := if reported ≠ 0 then reported else if derived ≠ 0 then derived else cached }

end Tokens

/-! ### Records -/

/-- What is known of a request apart from its API key and model. -/
structure Detail where
  /-- When the request was made. -/
  timestamp : Instant
  /-- Where it came from. -/
  source : String := ""
  /-- The credentials that it was made with. -/
  authIndex : String := ""
  /-- The tokens that it used up. -/
  tokens : Tokens := {}
  /-- It did not succeed. -/
  failed : Bool := false
  deriving DecidableEq

/-- A request that was made under an API key with a model. -/
structure Record where
  /-- The API key, or what stands in for it. -/
  apiKey : String
  /-- The name of the model. -/
  model : String
  /-- All else that is known of the request. -/
  detail : Detail
  deriving DecidableEq

/-! ### The identity of a record -/

/-- The last `n` bytes of a number, lowest first. -/
def littleEndian : Nat → Nat → List UInt8
  | 0, _ => []
  | n + 1, value => value.toUInt8 :: littleEndian n (value / 256)

/-- The bytes of a text behind their number in eight bytes. -/
def framedText (s : String) : List UInt8 :=
  let bytes := s.toUTF8.toList
  littleEndian 8 bytes.length ++ bytes

/-- The eight bytes of a count. -/
def Count.bytes (n : Count) : List UInt8 :=
  littleEndian 8 n.toUInt64.toNat

namespace Record

/-- The row of bytes that spells out every field of a record. -/
def identityBytes (r : Record) : List UInt8 :=
  [r.apiKey, r.model, r.detail.timestamp.stored, r.detail.source, r.detail.authIndex].flatMap
      framedText
    ++ r.detail.tokens.counts.flatMap Count.bytes
    ++ [if r.detail.failed then 1 else 0]

/-- The key by which a record is recognised. -/
def key (r : Record) : String :=
  Sha256.hexDigest r.identityBytes

end Record

end UsageLedger
