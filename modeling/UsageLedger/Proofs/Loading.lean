import UsageLedger.Proofs.ForeignRows
import UsageLedger.Proofs.Rollback
import UsageLedger.Proofs.StableSorts

/-!
# What a load finds in any table

Whatever is in the usage table, a load answers in one of two ways: it fails when a cell that is
read is of a wrong kind in any row, be its timestamp readable or not, and else it finds every
row with a readable timestamp once, in the bucket of its API key and model.

The buckets are in the order of the instants.  The rows come out of the table in the order of
the texts in their timestamp column, and those with the same text in the order of their numbers;
where several layouts are mixed this is not the order of the instants, and the buckets are
sorted once more.  Both sorts are stable, so an order that the first one made is left between
rows that tie in the second one.

## Main definitions

* `Finding`, `Finding.Before` — a row that gives a record, and the order in which a bucket has
  such rows.
* `Ledger.findings`, `Ledger.bucketFindings` — the rows that give records as they are read, and
  as a bucket has them.
* `Ledger.Lists` — what a bucket has to have.

## Main results

* `Ledger.lists_bucketFindings`, `Ledger.Lists.unique` — what is found at a place is what a
  bucket has to have, and that is known from the table.
* `Store.readRows_eq_ok_iff` — which tables can be loaded.
* `load_of_any_table` — **what a load finds in any table.**
-/

namespace UsageLedger

/-! ### Rows that give records -/

/-- A row that gives a record. -/
structure Finding where
  /-- The number of the row. -/
  number : Nat
  /-- The text in its timestamp column. -/
  stamp : String
  /-- The record. -/
  record : Record

namespace Finding

/-- The text of one is less, byte by byte, or they have the same and the number of the one is
less. -/
def StampBefore (a b : Finding) : Prop :=
  Text.bytes a.stamp < Text.bytes b.stamp ∨ a.stamp = b.stamp ∧ a.number < b.number

/-- One comes before another: by instant, then by the bytes of the text, then by the number. -/
def Before (a b : Finding) : Prop :=
  a.record.detail.timestamp < b.record.detail.timestamp ∨
    a.record.detail.timestamp = b.record.detail.timestamp ∧ a.StampBefore b

theorem Before.asymm {a b : Finding} (h : a.Before b) : ¬b.Before a := by
  rcases h with hlt | ⟨heq, hstamp⟩
  · rintro (hgt | ⟨heq, -⟩)
    · exact hgt (((Bool.or_eq_true _ _).mp (Instant.le_total _ _)).resolve_left hlt)
    · rw [heq] at hlt
      exact hlt (Instant.le_refl _)
  · rintro (hgt | ⟨-, hback⟩)
    · rw [heq] at hgt
      exact hgt (Instant.le_refl _)
    · rcases hstamp with hlt | ⟨hsame, hlt⟩ <;> rcases hback with hgt | ⟨hsame', hgt⟩
      · exact List.lt_asymm hlt hgt
      · rw [hsame'] at hlt
        exact List.lt_irrefl _ hlt
      · rw [hsame] at hgt
        exact List.lt_irrefl _ hgt
      · omega

end Finding

namespace Row

variable {row : Row}

/-- What is found in a row with a number, if it gives a record. -/
def finding? (row : Row) (number : Nat) : Option Finding :=
  match row.timestamp, row.record? with
  | .text stamp, some r => some ⟨number, stamp, r⟩
  | _, _ => none

/-- In a row the record is found that it holds. -/
theorem finding?_eq_some_iff {number : Nat} {e : Finding} :
    row.finding? number = some e ↔ e.number = number ∧ row.Holds e.stamp e.record := by
  obtain ⟨n, stamp, r⟩ := e
  constructor
  · intro h
    rw [finding?] at h
    split at h
    · next stamp' r' hstamp hrecord =>
      cases h
      obtain ⟨stamp'', hholds⟩ := scan_eq_some_iff.mp (record?_eq_some.mp hrecord)
      have hsame : Cell.text stamp'' = .text stamp := hholds.timestamp.symm.trans hstamp
      cases hsame
      exact ⟨rfl, hholds⟩
    · cases h
  · rintro ⟨rfl, hholds⟩
    rw [finding?, hholds.timestamp, record?_eq_some.mpr (scan_eq_some_iff.mpr ⟨stamp, hholds⟩)]

theorem map_record_finding? (row : Row) (number : Nat) :
    (row.finding? number).map (·.record) = row.record? := by
  cases hfinding : row.finding? number with
  | some e =>
    obtain ⟨-, hholds⟩ := finding?_eq_some_iff.mp hfinding
    exact (record?_eq_some.mpr (scan_eq_some_iff.mpr ⟨_, hholds⟩)).symm
  | none =>
    cases hrecord : row.record? with
    | none => rfl
    | some r =>
      obtain ⟨stamp, hholds⟩ := scan_eq_some_iff.mp (record?_eq_some.mp hrecord)
      have hsome : row.finding? number = some ⟨number, stamp, r⟩ :=
        finding?_eq_some_iff.mpr ⟨rfl, hholds⟩
      rw [hfinding] at hsome
      cases hsome

end Row

namespace Ledger

variable {l : Ledger}

/-- What is found in a table, in the order in which the rows are read. -/
def findings (l : Ledger) : List Finding :=
  (l.rows.zipIdx.mergeSort fun a b => a.1.stampLE b.1).filterMap fun (row, number) =>
    row.finding? number

/-- What is found in a table at a place, in the order of the instants. -/
def bucketFindings (l : Ledger) (k m : String) : List Finding :=
  (l.findings.filter fun e => e.record.isAt k m).mergeSort fun a b =>
    a.record.detail.timestamp.le b.record.detail.timestamp

/-- What a bucket has to have: of the rows at its place those that hold a record, each once, in
order. -/
structure Lists (l : Ledger) (k m : String) (found : List Finding) : Prop where
  /-- They are the rows at the place that hold a record. -/
  mem_iff : ∀ e, e ∈ found ↔ (e.record.apiKey = k ∧ e.record.model = m) ∧
    ∃ row, l.rows[e.number]? = some row ∧ row.Holds e.stamp e.record
  /-- No row comes twice. -/
  once : (found.map (·.number)).Nodup
  /-- They are in order. -/
  ordered : found.Pairwise Finding.Before

/-- **What a bucket has to have is known from the table**, in which order too. -/
theorem Lists.unique {k m : String} {found found' : List Finding} (h : l.Lists k m found)
    (h' : l.Lists k m found') : found = found' := by
  have hperm : found.Perm found' := by
    refine (List.perm_ext_iff_of_nodup h.once.of_map h'.once.of_map).mpr fun e => ?_
    rw [h.mem_iff, h'.mem_iff]
  exact hperm.eq_of_pairwise (fun a b _ _ hab hba => absurd hba hab.asymm) h.ordered h'.ordered

/-- The records that are read are those of the findings. -/
theorem filterMap_record?_byTimestamp (l : Ledger) :
    l.byTimestamp.filterMap Row.record? = l.findings.map (·.record) := by
  have hrows : l.byTimestamp = (l.rows.zipIdx.mergeSort fun a b => a.1.stampLE b.1).map
      Prod.fst := by
    rw [byTimestamp, List.map_mergeSort (s := Row.stampLE) fun _ _ _ _ => rfl, List.zipIdx_map_fst]
  rw [hrows, findings, List.filterMap_map, List.map_filterMap]
  refine List.filterMap_congr fun p _ => ?_
  exact (p.1.map_record_finding? p.2).symm

theorem mem_findings_iff {e : Finding} :
    e ∈ l.findings ↔ ∃ row, l.rows[e.number]? = some row ∧ row.Holds e.stamp e.record := by
  rw [findings, List.mem_filterMap]
  constructor
  · rintro ⟨⟨row, number⟩, hmem, hfinding⟩
    obtain ⟨rfl, hholds⟩ := Row.finding?_eq_some_iff.mp hfinding
    exact ⟨row, List.mem_zipIdx_iff_getElem?.mp (List.mem_mergeSort.mp hmem), hholds⟩
  · rintro ⟨row, hrow, hholds⟩
    refine ⟨(row, e.number), List.mem_mergeSort.mpr (List.mem_zipIdx_iff_getElem?.mpr hrow), ?_⟩
    exact Row.finding?_eq_some_iff.mpr ⟨rfl, hholds⟩

theorem nodup_numbers (l : Ledger) : (l.findings.map (·.number)).Nodup := by
  have hperm : (l.rows.zipIdx.mergeSort fun a b => a.1.stampLE b.1).Perm l.rows.zipIdx :=
    List.mergeSort_perm _ _
  refine List.pairwise_map.mpr ((pairwise_places_ne hperm).filterMap _ ?_)
  rintro ⟨row, i⟩ ⟨row', j⟩ hne e he e' he'
  obtain ⟨rfl, -⟩ := Row.finding?_eq_some_iff.mp he
  obtain ⟨rfl, -⟩ := Row.finding?_eq_some_iff.mp he'
  exact hne

/-- **Rows are read in the order of their texts**, and those with the same text in that of their
numbers. -/
theorem findings_pairwise (l : Ledger) : l.findings.Pairwise Finding.StampBefore := by
  -- the rows are numbered as they stand, and the sort keeps that order among equal texts
  have hrows : l.rows.zipIdx.Pairwise fun a b => a.2 < b.2 := by
    refine List.pairwise_map.mp ?_
    rw [List.zipIdx_map_snd]
    exact List.pairwise_lt_range'
  refine (pairwise_mergeSort_of_pairwise (fun a b c => Row.stampLE_trans a.1 b.1 c.1)
    (fun a b => Row.stampLE_total a.1 b.1) hrows).filterMap _ ?_
  rintro ⟨row, i⟩ ⟨row', j⟩ ⟨hle, htie⟩ e he e' he'
  obtain ⟨rfl, hholds⟩ := Row.finding?_eq_some_iff.mp he
  obtain ⟨rfl, hholds'⟩ := Row.finding?_eq_some_iff.mp he'
  dsimp only at hle htie
  rw [Row.stampLE_of_texts hholds.timestamp hholds'.timestamp] at hle
  rw [Row.stampLE_of_texts hholds'.timestamp hholds.timestamp] at htie
  by_cases hlt : Text.bytes e.stamp < Text.bytes e'.stamp
  · exact .inl hlt
  · exact .inr ⟨Text.bytes_inj.mp (List.le_antisymm hle hlt), htie hlt⟩

/-- **What is found at a place is all there, once, and in order.** -/
theorem lists_bucketFindings (l : Ledger) (k m : String) : l.Lists k m (l.bucketFindings k m) := by
  have hperm : (l.bucketFindings k m).Perm (l.findings.filter fun e => e.record.isAt k m) :=
    List.mergeSort_perm _ _
  constructor
  · intro e
    rw [hperm.mem_iff, List.mem_filter, Record.isAt_iff, mem_findings_iff, and_comm]
  · exact (hperm.map (·.number)).nodup_iff.mpr (l.nodup_numbers.sublist (List.filter_sublist.map _))
  · -- what is sorted by instant was sorted by text before, so the text decides among ties
    have hread := l.findings_pairwise.filter fun e => e.record.isAt k m
    have hsorted := pairwise_mergeSort_of_pairwise
      (fun a b c : Finding => Instant.le_trans a.record.detail.timestamp b.record.detail.timestamp
        c.record.detail.timestamp)
      (fun a b => Instant.le_total a.record.detail.timestamp b.record.detail.timestamp) hread
    refine hsorted.imp fun {a b} h => ?_
    by_cases hback : b.record.detail.timestamp.le a.record.detail.timestamp = true
    · exact .inr ⟨Instant.le_antisymm h.1 hback, h.2 hback⟩
    · exact .inl hback

end Ledger

/-! ### The load -/

namespace Store

variable {db : Database} {l : Ledger}

/-- Rows that are not all read have one with a cell of a wrong kind, and that is the fault. -/
theorem scanAll_error {rows : List Row} {step : Nat} {e : Error}
    (h : scanAll .never step rows = .error e) :
    ∃ row ∈ rows, ∃ f, row.scan = .error f ∧ e = .read .scan (.scan f) := by
  induction rows generalizing step with
  | nil => cases h
  | cons row rows ih =>
    rw [scanAll, if_neg (by simp [Interruption.stops])] at h
    cases hscan : row.scan with
    | error f =>
      rw [hscan] at h
      cases h
      exact ⟨row, List.mem_cons_self, f, hscan, rfl⟩
    | ok found =>
      rw [hscan] at h
      cases hrest : scanAll .never (step + 1) rows with
      | error e' =>
        simp only [hrest] at h
        cases h
        -- the row at fault is a later one, read at a later step
        obtain ⟨bad, hbad, hfault⟩ := ih hrest
        exact ⟨bad, List.mem_cons_of_mem _ hbad, hfault⟩
      | ok read =>
        simp only [hrest] at h
        split at h <;> cases h

/-- Every row that is read gives a record or is counted as passed over. -/
theorem scanAll_length {i : Interruption} {rows : List Row} {step skipped : Nat}
    {records : List Record} (h : scanAll i step rows = .ok (records, skipped)) :
    records.length + skipped = rows.length := by
  induction rows generalizing step skipped records with
  | nil =>
    cases h
    rfl
  | cons row rows ih =>
    rw [scanAll] at h
    split at h
    · cases h
    · split at h
      · cases h
      · split at h
        · cases h
        · next hrest =>
          have hlength := ih hrest
          split at h <;> cases h <;> simp only [List.length_cons] <;> omega

/-- **A table can be loaded exactly when no cell that is read is of a wrong kind**, in whatever
row. -/
theorem readRows_eq_ok_iff (hl : db.relation = .ledger l) :
    (∃ found, readRows .never db = .ok found) ↔ ∀ row ∈ l.rows, ¬row.Unreadable := by
  rw [← Database.rows_of_table hl]
  constructor
  · rintro ⟨found, h⟩ row hrow
    exact Row.exists_scan_iff.mp ((readRows_ok h).2.2 row hrow)
  · intro h
    exact exists_readRows (Database.shape_of_table hl) fun row hrow =>
      Row.exists_scan_iff.mpr (h row hrow)

theorem readRows_error (hl : db.relation = .ledger l) {e : Error}
    (h : readRows .never db = .error e) :
    ∃ f, e = .read .scan (.scan f) := by
  rw [readRows, hl] at h
  dsimp only at h
  split at h
  · cases h
  · next e' hscan =>
    cases h
    obtain ⟨-, -, f, -, rfl⟩ := scanAll_error hscan
    exact ⟨f, rfl⟩

/-- **What is found in a table, bucket by bucket.** -/
theorem details_of_readRows (hl : db.relation = .ledger l) {i : Interruption} {found : Loaded}
    (h : readRows i db = .ok found) (k m : String) :
    found.snapshot.details k m = (l.bucketFindings k m).map (·.record.detail) := by
  rw [readRows, hl] at h
  dsimp only at h
  split at h
  · next records skipped hscan =>
    cases h
    rw [Snapshot.details_sortBuckets, Snapshot.details_ofRecords, (scanAll_ok hscan).1,
      Ledger.filterMap_record?_byTimestamp, List.filter_map, List.map_map, Ledger.bucketFindings]
    exact (List.map_mergeSort (f := fun e : Finding => e.record.detail) fun _ _ _ _ => rfl).symm
  · cases h

/-- What is found and what is passed over are all rows. -/
theorem recordCount_of_readRows (hl : db.relation = .ledger l) {i : Interruption} {found : Loaded}
    (h : readRows i db = .ok found) :
    found.snapshot.recordCount + found.skipped = l.rows.length := by
  rw [readRows, hl] at h
  dsimp only at h
  split at h
  · next records skipped hscan =>
    cases h
    have hlength := scanAll_length hscan
    rw [Ledger.byTimestamp, List.length_mergeSort] at hlength
    rw [Snapshot.recordCount_eq, (Snapshot.records_sortBuckets_perm _).length_eq,
      (Snapshot.records_ofRecords_perm _).length_eq]
    exact hlength
  · cases h

end Store

/-- What a store that is ready answers to a load is what reading the rows of the table leads to. -/
theorem Session.Reached.answer_load {s : Session} (hs : s.Reached) {id : Nat} {st : Store}
    {l : Ledger} (hget : s.stores[id]? = some st) (hready : st.phase = .ready)
    (hl : s.database.relation = .ledger l) :
    (s.step (.ask id (.load .never))).1 = (Store.readRows .never s.database).map .loaded := by
  have hcases := hs.ask_cases hget hready (Database.shape_of_table hl) (.load .never) rfl
  simp only [Call.onTable, Interruption.atStart, Bool.false_eq_true, if_false] at hcases
  cases hread : Store.readRows .never s.database with
  | ok found =>
    rw [hread] at hcases
    rcases hcases with ⟨reply, db, hon, hanswer, -⟩ | ⟨e, hon, -⟩
    · cases hon
      exact hanswer
    · cases hon
  | error e =>
    rw [hread] at hcases
    rcases hcases with ⟨reply, db, hon, -⟩ | ⟨e', hon, hanswer, -⟩
    · cases hon
    · cases hon
      exact hanswer

/-- **What a load finds in any table.**  It fails to read exactly when some row has a cell of a
wrong kind in a column that is read, whatever the timestamp of the row is.  Else it finds, in
the bucket of each API key and model, the rows there that hold a record, each once, by instant,
then by the bytes of the timestamp's text, then by the number of the row; no level of it is
empty, and what it does not find it counts. -/
theorem load_of_any_table {s : Session} (hs : s.Reached) {id : Nat} {st : Store} {l : Ledger}
    (hget : s.stores[id]? = some st) (hready : st.phase = .ready)
    (hl : s.database.relation = .ledger l) :
    ((∃ stage fault, (s.step (.ask id (.load .never))).1 = .error (.read stage fault)) ↔
      ∃ row ∈ l.rows, row.Unreadable) ∧
    ((∀ row ∈ l.rows, ¬row.Unreadable) →
      ∃ found, (s.step (.ask id (.load .never))).1 = .ok (.loaded found) ∧ found.snapshot.Filled ∧
        (∀ k m, ∃ findings, l.Lists k m findings ∧
          found.snapshot.details k m = findings.map (·.record.detail)) ∧
        found.snapshot.recordCount + found.skipped = l.rows.length) := by
  have hanswer := hs.answer_load hget hready hl
  have hreadable := Store.readRows_eq_ok_iff hl
  cases hread : Store.readRows .never s.database with
  | ok found =>
    rw [hread] at hanswer
    have hsound := hreadable.mp ⟨found, hread⟩
    refine ⟨⟨?_, ?_⟩, ?_⟩
    · rintro ⟨stage, fault, herror⟩
      rw [hanswer] at herror
      cases herror
    · rintro ⟨row, hrow, hbad⟩
      exact absurd hbad (hsound row hrow)
    · intro _
      refine ⟨found, hanswer, (Store.readRows_ok hread).2.1, ?_,
        Store.recordCount_of_readRows hl hread⟩
      intro k m
      exact ⟨_, l.lists_bucketFindings k m, Store.details_of_readRows hl hread k m⟩
  | error e =>
    -- a load of rows that can all be read would not have failed
    have hnot : ¬∀ row ∈ l.rows, ¬row.Unreadable := by
      intro hsound
      obtain ⟨found, hfound⟩ := hreadable.mpr hsound
      rw [hread] at hfound
      cases hfound
    obtain ⟨f, rfl⟩ := Store.readRows_error hl hread
    rw [hread] at hanswer
    refine ⟨⟨?_, ?_⟩, ?_⟩
    · intro _
      push Not at hnot
      exact hnot
    · intro _
      exact ⟨_, _, hanswer⟩
    · intro hsound
      exact absurd hsound hnot

/-- A row that another tool wrote, of a request that failed. -/
def foreignRow (timestamp : Cell) (cached : Cell) (key : String) : Row where
  apiKey := .text "k"
  model := .text "m"
  timestamp := timestamp
  source := .text ""
  authIndex := .text ""
  failed := .integer 2
  input := .integer 0
  output := .integer 0
  reasoning := .integer 0
  cached := cached
  total := .integer 0
  dedupKey := .text key

/-- Four rows of one instant in three layouts, and two whose timestamps are no texts. -/
def mixedTable : Ledger where
  rows := [foreignRow (.text "2024-01-01 00:00:00") (.integer 0) "a",
    foreignRow (.text "2024-01-01T00:00:00Z") (.integer 1) "b",
    foreignRow (.text "2023-12-31T19:00:00-05:00") (.integer 2) "c",
    foreignRow (.text "2024-01-01T00:00:00Z") (.integer 3) "d",
    foreignRow (.ofTextBytes [0x32, 0xFF]) (.integer 4) "e",
    foreignRow (.blob [0x32]) (.integer 5) "f"]
  unique := true
  lookup := true

/-- Behind them a row whose timestamp cannot be read, with a text where a number should be. -/
def faultyTable : Ledger :=
  { mixedTable with rows := mixedTable.rows ++ [foreignRow (.text "soon") (.text "many") "g"] }

/-- A store that found a table in its file, and made sure of it. -/
def overTable (l : Ledger) : Session :=
  Session.run ⟨{ version := 1, relation := .ledger l }, []⟩
    [.openStore "u.db" 0, .ask 0 (.ensureSchema .never)]

theorem reached_overTable (l : Ledger) : (overTable l).Reached :=
  .step _ (.step _ (.file _))

/-- The one table is loaded, and the other one is not because of a row that would be passed over. -/
theorem load_of_mixedTable :
    (∃ found, ((overTable mixedTable).step (.ask 0 (.load .never))).1 = .ok (.loaded found) ∧
      (∃ findings, mixedTable.Lists "k" "m" findings ∧
        found.snapshot.details "k" "m" = findings.map (·.record.detail)) ∧
      found.snapshot.recordCount + found.skipped = 6) ∧
    ∃ stage fault, ((overTable faultyTable).step (.ask 0 (.load .never))).1 =
      .error (.read stage fault) := by
  obtain ⟨st, hget, hready⟩ : ∃ st, (overTable mixedTable).stores[0]? = some st ∧
      st.phase = .ready :=
    ⟨_, rfl, rfl⟩
  obtain ⟨st', hget', hready'⟩ :
      ∃ st, (overTable faultyTable).stores[0]? = some st ∧ st.phase = .ready :=
    ⟨_, rfl, rfl⟩
  have hmixed := load_of_any_table (reached_overTable mixedTable) hget hready (l := mixedTable) rfl
  have hfaulty := load_of_any_table (reached_overTable faultyTable) hget' hready'
    (l := faultyTable) rfl
  constructor
  · obtain ⟨found, hanswer, -, hbuckets, hcount⟩ := hmixed.2 (by
      simp [mixedTable, foreignRow, Row.Unreadable, Row.get])
    exact ⟨found, hanswer, hbuckets "k" "m", hcount⟩
  · -- the number in the last row is a text, though its timestamp would have been skipped too
    refine hfaulty.1.mpr ⟨foreignRow (.text "soon") (.text "many") "g", ?_, .inr ⟨.cached, ?_, ?_⟩⟩
    · simp [faultyTable]
    · simp
    · simp [foreignRow, Row.get]

end UsageLedger
