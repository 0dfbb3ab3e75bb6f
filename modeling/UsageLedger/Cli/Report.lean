import UsageLedger.Snapshot.Merge
import UsageLedger.Snapshot.Totals
import UsageLedger.Text.Basic

/-!
# Reports

What the commands show: a few lines about an import or a restore, and a table of the totals of each
bucket, with names that are too long cut short.

## Main definitions

* `Report.restored`, `Report.imported`: the reports on a restore and an import.
* `Report.shorten`: a name cut to a width.
* `Report.table`: the table of totals.
-/

namespace UsageLedger.Report

open Text

/-- A text filled with blanks behind it to a width. -/
def padRight (width : Nat) (s : String) : String :=
  s ++ String.ofList (List.replicate (width - s.length) ' ')

/-- A text filled with blanks in front of it to a width. -/
def padLeft (width : Nat) (s : String) : String :=
  String.ofList (List.replicate (width - s.length) ' ') ++ s

/-- A name of at most `width` characters; the last one tells that there were more. -/
def shorten (width : Nat) (s : String) : String :=
  if s.length ≤ width then s
  else String.ofList (s.toList.take (width - 1)) ++ "…"

/-- Lines of text, each ended. -/
def lines (ls : List String) : String :=
  String.join (ls.map (· ++ "\n"))

/-- The report on a restore. -/
def restored (t : Tally) (totals : Totals) : String :=
  lines [
    "Restore complete:",
    "  Records added:   " ++ ofNat t.added,
    "  Records skipped: " ++ ofNat t.skipped,
    "  Requests:        " ++ ofNat totals.requests,
    "  Total tokens:    " ++ ofInt totals.tokens.total.toInt]

/-- The report on an import. -/
def imported (t : Tally) : String :=
  lines [
    "Import complete:",
    "  Records added:   " ++ ofNat t.added,
    "  Records skipped: " ++ ofNat t.skipped]

/-- The report on an export to a file. -/
def exported (count : Nat) (file : String) : String :=
  lines ["Exported " ++ ofNat count ++ " record(s) to " ++ file]

/-- A line of the table, of five texts. -/
def tableLine (apiKey model requests failed tokens : String) : String :=
  padRight 32 apiKey ++ " " ++ padRight 28 model ++ " " ++ padLeft 9 requests ++ " "
    ++ padLeft 8 failed ++ " " ++ padLeft 14 tokens

/-- The line of one bucket. -/
def bucketLine (apiKey model : String) (t : Totals) : String :=
  tableLine (shorten 32 apiKey) (shorten 28 model) (ofNat t.requests) (ofNat t.failed)
    (ofInt t.tokens.total.toInt)

/-- The line of the totals over all buckets. -/
def totalLine (t : Totals) : String :=
  "Total: " ++ ofNat t.requests ++ " request(s), " ++ ofNat t.failed ++ " failed, "
    ++ ofInt t.tokens.total.toInt ++ " token(s)"

/-- The table of totals of a snapshot. -/
def table (s : Snapshot) : String :=
  if s.modelTotals.isEmpty then lines ["No usage recorded."]
  else
    lines (tableLine "API" "MODEL" "REQUESTS" "FAILED" "TOKENS"
      :: s.modelTotals.map (fun (apiKey, model, t) => bucketLine apiKey model t)
      ++ ["", totalLine s.totals])

end UsageLedger.Report
