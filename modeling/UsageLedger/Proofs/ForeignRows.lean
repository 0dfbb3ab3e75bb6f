import UsageLedger.Proofs.ReadBack
import UsageLedger.Proofs.TextBytes

/-!
# Rows that other tools wrote

Another tool may put into a row whatever its columns admit, and the program has to say what it
makes of it. Ten cells of a row are read, and each of them has to be of the kind that its column
is read with; the timestamp may be anything, and tells only whether the row gives a record.
What is read is stated here without going through the cells one after the other as the program
does.

Rows are brought into the order of their timestamp column before they are read.  Cells of every
kind are compared there, so that this order is one of all rows has to be shown for all kinds of
cells.

## Main definitions

* `Row.Unreadable` — a cell that is read is of a wrong kind.
* `Row.Holds` — what a row has to hold to give a record.
* `Cell.content` — the bytes that cells of one kind are compared by.

## Main results

* `Row.scan_eq_ok_iff` — reading a row, cell by cell, as one condition on the row.
* `Row.exists_scan_iff` — a row is read exactly when no cell is of a wrong kind.
* `Row.scan_eq_some_iff` — **a row gives the record that it holds**, and no other.
* `Row.stampLE_trans`, `Row.stampLE_total` — the order of the timestamp column is one of all rows.
-/

namespace UsageLedger

namespace Row

variable {row : Row}

/-- One of the columns that are read as texts holds no text in UTF-8, or one of those that are
read as whole numbers holds no whole number. -/
def Unreadable (row : Row) : Prop :=
  (∃ c ∈ [Column.apiKey, .model, .source, .authIndex], ∀ s, row.get c ≠ .text s) ∨
    ∃ c ∈ [Column.failed, .input, .output, .reasoning, .cached, .total], ∀ n, row.get c ≠ .integer n

/-- The row is one of a record, with a text that stands for its instant in the timestamp column. -/
structure Holds (row : Row) (stamp : String) (r : Record) : Prop where
  /-- The API key. -/
  apiKey : row.apiKey = .text r.apiKey
  /-- The model. -/
  model : row.model = .text r.model
  /-- The timestamp column. -/
  timestamp : row.timestamp = .text stamp
  /-- The text in it stands for the instant. -/
  instant : Instant.readStored? stamp = some r.detail.timestamp
  /-- Where the request came from. -/
  source : row.source = .text r.detail.source
  /-- The credentials that it was made with. -/
  authIndex : row.authIndex = .text r.detail.authIndex
  /-- Every number but zero stands for failure. -/
  failed : ∃ n, row.failed = .integer n ∧ (r.detail.failed = true ↔ n ≠ 0)
  /-- Tokens of the question. -/
  input : row.input = .integer r.detail.tokens.input
  /-- Tokens of the answer. -/
  output : row.output = .integer r.detail.tokens.output
  /-- Tokens of the reasoning. -/
  reasoning : row.reasoning = .integer r.detail.tokens.reasoning
  /-- Tokens known before. -/
  cached : row.cached = .integer r.detail.tokens.cached
  /-- All tokens that count. -/
  total : row.total = .integer r.detail.tokens.total

/-! ### Reading a row -/

theorem readText_eq_ok {c : Column} {s : String} :
    row.readText c = .ok s ↔ row.get c = .text s := by
  refine ⟨readText_ok, fun h => ?_⟩
  rw [readText, h]

theorem readCount_eq_ok {c : Column} {n : Count} :
    row.readCount c = .ok n ↔ row.get c = .integer n := by
  rw [readCount]
  cases row.get c <;> simp

/-- **Reading a row as one condition on it**: ten cells are of the kinds that their columns are
read with, and the timestamp says whether they give a record. -/
theorem scan_eq_ok_iff {found : Option Record} :
    row.scan = .ok found ↔
      ∃ apiKey model source authIndex failed input output reasoning cached total,
        row.apiKey = .text apiKey ∧ row.model = .text model ∧ row.source = .text source ∧
        row.authIndex = .text authIndex ∧ row.failed = .integer failed ∧
        row.input = .integer input ∧ row.output = .integer output ∧
        row.reasoning = .integer reasoning ∧ row.cached = .integer cached ∧
        row.total = .integer total ∧
        found = row.instant?.map fun timestamp =>
          { apiKey, model
            detail :=
              { timestamp, source, authIndex
                tokens := { input, output, reasoning, cached, total }
                failed := failed != 0 } } := by
  simp only [scan, bind_eq_ok, readText_eq_ok, readCount_eq_ok, get, pure, Except.pure,
    Except.ok.injEq]
  -- both sides name the same cells, in the order of the reads and in the order of the fields
  constructor
  · rintro ⟨apiKey, hk, model, hm, source, hs, authIndex, ha, failed, hf, input, hi, output, ho,
      reasoning, hr, cached, hc, total, ht, rfl⟩
    exact ⟨apiKey, model, source, authIndex, failed, input, output, reasoning, cached, total, hk,
      hm, hs, ha, hf, hi, ho, hr, hc, ht, rfl⟩
  · rintro ⟨apiKey, model, source, authIndex, failed, input, output, reasoning, cached, total, hk,
      hm, hs, ha, hf, hi, ho, hr, hc, ht, rfl⟩
    exact ⟨apiKey, hk, model, hm, source, hs, authIndex, ha, failed, hf, input, hi, output, ho,
      reasoning, hr, cached, hc, total, ht, rfl⟩

/-- **A row is read exactly when no cell is of a wrong kind**, whatever its timestamp is. -/
theorem exists_scan_iff : (∃ found, row.scan = .ok found) ↔ ¬row.Unreadable := by
  have hcells : ¬row.Unreadable ↔
      ((∃ s, row.apiKey = .text s) ∧ (∃ s, row.model = .text s) ∧ (∃ s, row.source = .text s) ∧
        ∃ s, row.authIndex = .text s) ∧
      (∃ n, row.failed = .integer n) ∧ (∃ n, row.input = .integer n) ∧
      (∃ n, row.output = .integer n) ∧ (∃ n, row.reasoning = .integer n) ∧
      (∃ n, row.cached = .integer n) ∧ ∃ n, row.total = .integer n := by
    simp [Unreadable, get]
  rw [hcells]
  constructor
  · rintro ⟨found, h⟩
    obtain ⟨apiKey, model, source, authIndex, failed, input, output, reasoning, cached, total, hk,
        hm, hs, ha, hf, hi, ho, hr, hc, ht, -⟩ := scan_eq_ok_iff.mp h
    exact ⟨⟨⟨_, hk⟩, ⟨_, hm⟩, ⟨_, hs⟩, ⟨_, ha⟩⟩, ⟨_, hf⟩, ⟨_, hi⟩, ⟨_, ho⟩, ⟨_, hr⟩, ⟨_, hc⟩,
      ⟨_, ht⟩⟩
  · rintro ⟨⟨⟨apiKey, hk⟩, ⟨model, hm⟩, ⟨source, hs⟩, ⟨authIndex, ha⟩⟩, ⟨failed, hf⟩, ⟨input, hi⟩,
      ⟨output, ho⟩, ⟨reasoning, hr⟩, ⟨cached, hc⟩, ⟨total, ht⟩⟩
    exact ⟨_, scan_eq_ok_iff.mpr ⟨apiKey, model, source, authIndex, failed, input, output,
      reasoning, cached, total, hk, hm, hs, ha, hf, hi, ho, hr, hc, ht, rfl⟩⟩

theorem instant?_eq_some_iff {t : Instant} :
    row.instant? = some t ↔ ∃ stamp, row.timestamp = .text stamp ∧
      Instant.readStored? stamp = some t := by
  rw [instant?]
  cases row.timestamp <;> simp

/-- **A row gives the record that it holds**, and no other. -/
theorem scan_eq_some_iff {r : Record} :
    row.scan = .ok (some r) ↔ ∃ stamp, row.Holds stamp r := by
  rw [scan_eq_ok_iff]
  constructor
  · rintro ⟨apiKey, model, source, authIndex, failed, input, output, reasoning, cached, total, hk,
      hm, hs, ha, hf, hi, ho, hr, hc, ht, hfound⟩
    obtain ⟨t, hinstant, rfl⟩ := Option.map_eq_some_iff.mp hfound.symm
    obtain ⟨stamp, hstamp, hread⟩ := instant?_eq_some_iff.mp hinstant
    exact ⟨stamp, hk, hm, hstamp, hread, hs, ha, ⟨failed, hf, by simp⟩, hi, ho, hr, hc, ht⟩
  · rintro ⟨stamp, h⟩
    obtain ⟨failed, hf, hiff⟩ := h.failed
    refine ⟨_, _, _, _, failed, _, _, _, _, _, h.apiKey, h.model, h.source, h.authIndex, hf,
      h.input, h.output, h.reasoning, h.cached, h.total, ?_⟩
    -- the column holds a number, and any one but zero is read as a failure
    have hfailed : r.detail.failed = (failed != 0) := by
      rw [Bool.eq_iff_iff, hiff, bne_iff_ne]
    rw [instant?_eq_some_iff.mpr ⟨stamp, h.timestamp, h.instant⟩, Option.map_some, ← hfailed]

theorem Holds.unique {stamp stamp' : String} {r r' : Record} (h : row.Holds stamp r)
    (h' : row.Holds stamp' r') : stamp = stamp' ∧ r = r' := by
  have hsame : Cell.text stamp = .text stamp' := h.timestamp.symm.trans h'.timestamp
  have hscan := scan_eq_some_iff.mpr ⟨stamp, h⟩
  have hscan' := scan_eq_some_iff.mpr ⟨stamp', h'⟩
  rw [hscan] at hscan'
  exact ⟨Cell.text.inj hsame, Option.some.inj (Except.ok.inj hscan')⟩

end Row

/-! ### The order of the timestamp column -/

/-- The bytes of a cell: those of a text, in UTF-8 or not, or those that it holds itself. -/
def Cell.content : Cell → List UInt8
  | .text s => Text.bytes s
  | .garbled bytes _ | .blob bytes => bytes
  | .integer _ | .real _ => []

namespace Row

/-- Cells are ordered by their kinds, and cells of one kind by their bytes. -/
theorem stampLE_iff (a b : Row) :
    a.stampLE b = true ↔ kindRank a.timestamp < kindRank b.timestamp ∨
      kindRank a.timestamp = kindRank b.timestamp ∧ a.timestamp.content ≤ b.timestamp.content := by
  rw [stampLE]
  generalize a.timestamp = s
  generalize b.timestamp = t
  cases s <;> cases t <;>
    simp [kindRank, Cell.content, ← List.not_lt, Text.bytes_lt_iff]

theorem stampLE_trans (a b c : Row) (hab : a.stampLE b = true) (hbc : b.stampLE c = true) :
    a.stampLE c = true := by
  rw [stampLE_iff] at hab hbc ⊢
  rcases hab with hab | ⟨hab, hab'⟩
  · rcases hbc with hbc | ⟨hbc, -⟩ <;> omega
  · rcases hbc with hbc | ⟨hbc, hbc'⟩
    · omega
    · exact .inr ⟨hab.trans hbc, List.le_trans hab' hbc'⟩

theorem stampLE_total (a b : Row) : (a.stampLE b || b.stampLE a) = true := by
  rw [Bool.or_eq_true, stampLE_iff, stampLE_iff]
  rcases Nat.lt_trichotomy (kindRank a.timestamp) (kindRank b.timestamp) with h | h | h
  · exact .inl (.inl h)
  · exact (List.le_total a.timestamp.content b.timestamp.content).imp (fun hle => .inr ⟨h, hle⟩)
      fun hle => .inr ⟨h.symm, hle⟩
  · exact .inr (.inl h)

theorem stampLE_of_texts {a b : Row} {s t : String} (ha : a.timestamp = .text s)
    (hb : b.timestamp = .text t) : a.stampLE b = true ↔ ¬Text.bytes t < Text.bytes s := by
  rw [stampLE, ha, hb, Text.bytes_lt_iff]
  simp

end Row

end UsageLedger
