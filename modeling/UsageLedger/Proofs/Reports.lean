import UsageLedger.Proofs.Gathering
import UsageLedger.Proofs.Preparing
import UsageLedger.Proofs.TextBytes
import UsageLedger.Proofs.Totaling

/-!
# Reports that agree with each other

Three commands report on the records of a database, each in its own way: a restore counts what
an aggregate takes over, the totals go through the buckets of such an aggregate, and an export
counts what it writes.  The rows may have been put in by other tools, so that several of them
give back the same record under different keys; then an export has all of them, and the other
two count the record once.

## Main definitions

* `readableCount`, `distinctCount` — how many rows give back a record, and how many records they
  are.
* `Tabulates` — the lines of a table and its totals are right for the rows of a database.

## Main results

* `tabulates_merge` — what merging the records of the rows into an empty aggregate amounts to.
* `distinctCount_of_keys` — rows of records under different keys give back different records.
* `reports_reconcile` — **the three reports agree with each other, and change no rows**, but for
  the file that an export writes. -/

namespace UsageLedger

/-- The number of rows with a timestamp that can be read. -/
def readableCount (rows : List Row) : Nat :=
  rows.countP fun row => row.instant?.isSome

/-- The number of different records that rows give back, told apart by place and key. -/
def distinctCount (rows : List Row) : Nat :=
  ((rows.filterMap Row.record?).map Record.identity).dedup.length

/-- The lines of a table, and its totals, are right for the rows of a database. -/
structure Tabulates (rows : List Row) (lines : List (String × String × Totals)) (totals : Totals) :
    Prop where
  /-- There is a line for each key and model with a row that can be read, and for no other. -/
  places : ∀ k m, (∃ t, (k, m, t) ∈ lines) ↔
    ∃ row ∈ rows, row.instant?.isSome = true ∧ row.apiKey = .text k ∧ row.model = .text m
  /-- The lines ascend by the bytes of the key, then by those of the model, so that none comes
  twice. -/
  ascending : lines.Pairwise fun a b => Text.bytes a.1 < Text.bytes b.1 ∨
    a.1 = b.1 ∧ Text.bytes a.2.1 < Text.bytes b.2.1
  /-- No line is without requests. -/
  positive : ∀ line ∈ lines, 1 ≤ line.2.2.requests
  /-- Every record is one request. -/
  requests : totals.requests = distinctCount rows
  /-- The requests add up. -/
  requests_sum : (lines.map (·.2.2.requests)).sum = totals.requests
  /-- So do those that failed. -/
  failed_sum : (lines.map (·.2.2.failed)).sum = totals.failed

/-- The table with lines, as it is shown. -/
def Report.full (lines : List (String × String × Totals)) (totals : Totals) : String :=
  Report.lines (tableLine "API" "MODEL" "REQUESTS" "FAILED" "TOKENS"
    :: lines.map (fun (apiKey, model, t) => bucketLine apiKey model t) ++ ["", totalLine totals])

theorem Report.table_eq (s : Snapshot) :
    Report.table s = if s.modelTotals = [] then Report.lines ["No usage recorded."]
      else Report.full s.modelTotals s.totals := by
  simp only [Report.table, List.isEmpty_iff]
  rfl

/-- A table with lines does not look like one without. -/
theorem Report.full_ne (lines : List (String × String × Totals)) (totals : Totals) :
    Report.full lines totals ≠ Report.lines ["No usage recorded."] := by
  have hfull : (Report.full lines totals).toList.head? = some 'A' := by
    simp [Report.full, Report.lines, Report.tableLine, Report.padRight, String.join_cons]
  intro h
  rw [h] at hfull
  revert hfull
  decide

section

variable {rows : List Row} {snapshot : Snapshot}

/-! ### Counting -/

theorem length_filterMap_record? (hread : ∀ row ∈ rows, ∃ found, row.scan = .ok found) :
    (rows.filterMap Row.record?).length = readableCount rows := by
  rw [List.length_filterMap_eq_countP, readableCount]
  refine List.countP_congr fun row hrow => ?_
  obtain ⟨found, hscan⟩ := hread row hrow
  rw [Row.isSome_record? hscan]

/-- A key and model have a row that can be read just when a record is given back there. -/
theorem exists_row_iff (hread : ∀ row ∈ rows, ∃ found, row.scan = .ok found) (k m : String) :
    (∃ r ∈ rows.filterMap Row.record?, r.isAt k m = true) ↔
      ∃ row ∈ rows, row.instant?.isSome = true ∧ row.apiKey = .text k ∧ row.model = .text m := by
  -- a row that scans has a record exactly if its timestamp is read
  have hrow : ∀ row ∈ rows, (∃ r, row.record? = some r ∧ r.isAt k m = true) ↔
      row.instant?.isSome = true ∧ row.apiKey = .text k ∧ row.model = .text m := by
    intro row hrow
    obtain ⟨found, hscan⟩ := hread row hrow
    obtain ⟨k', m', detail, hk, hm, -, hfound⟩ := Row.scan_ok hscan
    have hrecord : row.record? = row.instant?.map fun t => ⟨k', m', detail t⟩ := by
      rw [Row.record?, hscan, hfound]
    rw [hrecord, hk, hm]
    cases row.instant? with
    | none => simp
    | some t => simp
  simp only [List.mem_filterMap]
  constructor
  · rintro ⟨r, ⟨row, hmem, hrecord⟩, hat⟩
    exact ⟨row, hmem, (hrow row hmem).mp ⟨r, hrecord, hat⟩⟩
  · rintro ⟨row, hmem, hplace⟩
    obtain ⟨r, hrecord, hat⟩ := (hrow row hmem).mpr hplace
    exact ⟨r, ⟨row, hmem, hrecord⟩, hat⟩

/-- What merging a snapshot into an empty one takes over: one record of each place and key. -/
theorem merge_empty_records (snapshot : Snapshot) :
    (Snapshot.empty.merge snapshot).1.records.Perm (fresh Record.identity [] snapshot.records) ∧
      (Snapshot.empty.merge snapshot).2 = ⟨(fresh Record.identity [] snapshot.records).length,
        snapshot.records.length - (fresh Record.identity [] snapshot.records).length⟩ :=
  Snapshot.merge_records Snapshot.empty snapshot

theorem length_fresh_records (hperm : snapshot.records.Perm (rows.filterMap Row.record?)) :
    (fresh Record.identity [] snapshot.records).length = distinctCount rows := by
  rw [length_fresh_nil, distinctCount]
  exact ((hperm.map Record.identity).dedup).length_eq

theorem tally_merge_empty (hperm : snapshot.records.Perm (rows.filterMap Row.record?))
    (hread : ∀ row ∈ rows, ∃ found, row.scan = .ok found) :
    (Snapshot.empty.merge snapshot).2 =
      ⟨distinctCount rows, readableCount rows - distinctCount rows⟩ := by
  rw [(merge_empty_records snapshot).2, length_fresh_records hperm, hperm.length_eq,
    length_filterMap_record? hread]

/-- Merging into an empty snapshot keeps the places. -/
theorem mem_places_merge_empty (snapshot : Snapshot) (k m : String) :
    (k, m) ∈ (Snapshot.empty.merge snapshot).1.places ↔
      ∃ r ∈ snapshot.records, r.isAt k m = true := by
  have hmem : ∀ s : Snapshot, s.details k m ≠ [] ↔ ∃ r ∈ s.records, r.isAt k m = true := by
    intro s
    rw [Snapshot.details_eq_filter, ne_eq, List.map_eq_nil_iff, List.filter_eq_nil_iff]
    simp
  rw [(Snapshot.filled_empty.merge snapshot).mem_places_iff, hmem]
  obtain ⟨hrecords, -⟩ := merge_empty_records snapshot
  constructor
  · rintro ⟨r, hr, hat⟩
    have hkept : r ∈ fresh Record.identity [] snapshot.records := hrecords.mem_iff.mp hr
    exact ⟨r, (fresh_sublist _ _).subset hkept, hat⟩
  · rintro ⟨r, hr, hat⟩
    -- a record of the same place and key was taken over, if not this one
    have hkept : r.identity ∈ (fresh Record.identity [] snapshot.records).map Record.identity :=
      mem_map_fresh.mpr ⟨List.not_mem_nil, List.mem_map_of_mem hr⟩
    obtain ⟨r', hr', hsame⟩ := List.mem_map.mp hkept
    refine ⟨r', hrecords.mem_iff.mpr hr', ?_⟩
    simp only [Record.identity, Prod.mk.injEq] at hsame
    rw [Record.isAt_iff] at hat ⊢
    exact ⟨hsame.1.trans hat.1, hsame.2.1.trans hat.2⟩

/-! ### The table -/

/-- **What merging the records of the rows into an empty aggregate amounts to.** -/
theorem tabulates_merge (hperm : snapshot.records.Perm (rows.filterMap Row.record?))
    (hread : ∀ row ∈ rows, ∃ found, row.scan = .ok found) :
    Tabulates rows (Snapshot.empty.merge snapshot).1.modelTotals
      (Snapshot.empty.merge snapshot).1.totals := by
  obtain ⟨hrecords, -⟩ := merge_empty_records snapshot
  have hfilled := Snapshot.filled_empty.merge snapshot
  have hplaces := mem_places_merge_empty snapshot
  generalize (Snapshot.empty.merge snapshot).1 = merged at *
  -- a fresh aggregate takes each distinct record of the rows once
  constructor
  · intro k m
    rw [← exists_row_iff hread]
    simp only [Snapshot.mem_modelTotals_iff, exists_and_left, exists_eq, and_true, hplaces,
      hperm.mem_iff]
  · exact merged.ascending_modelTotals
  · rintro ⟨k, m, t⟩ hline
    obtain ⟨hplace, rfl⟩ := (merged.mem_modelTotals_iff k m t).mp hline
    rw [hfilled.mem_places_iff] at hplace
    rw [Totals.requests_ofDetails]
    exact List.length_pos_iff.mpr hplace
  · rw [Snapshot.requests_totals, hrecords.length_eq, length_fresh_records hperm]
  · exact merged.sum_requests
  · exact merged.sum_failed

theorem Tabulates.lines_eq_nil_iff {lines : List (String × String × Totals)} {totals : Totals}
    (ht : Tabulates rows lines totals) (hread : ∀ row ∈ rows, ∃ found, row.scan = .ok found) :
    lines = [] ↔ readableCount rows = 0 := by
  rw [readableCount, List.countP_eq_zero]
  constructor
  · rintro rfl row hrow hsome
    obtain ⟨found, hscan⟩ := hread row hrow
    obtain ⟨k, m, -, hk, hm, -⟩ := Row.scan_ok hscan
    obtain ⟨t, hmem⟩ := (ht.places k m).mpr ⟨row, hrow, hsome, hk, hm⟩
    cases hmem
  · intro hnone
    refine List.eq_nil_iff_forall_not_mem.mpr ?_
    rintro ⟨k, m, t⟩ hmem
    obtain ⟨row, hrow, hsome, -⟩ := (ht.places k m).mp ⟨t, hmem⟩
    exact hnone row hrow hsome

/-- Rows of records under different keys give back different records. -/
theorem distinctCount_of_keys {rs : List Record} (hrows : rows = rs.map Row.ofRecord)
    (hkeys : (rows.map (·.dedupKey)).Nodup) : distinctCount rows = readableCount rows := by
  have hread : ∀ row ∈ rows, ∃ found, row.scan = .ok found := by
    intro row hrow
    rw [hrows] at hrow
    obtain ⟨r, -, rfl⟩ := List.mem_map.mp hrow
    exact ⟨_, Row.scan_ofRecord r⟩
  -- records that were read from rows of different keys are different
  have hidentities : ((rows.filterMap Row.record?).map Record.identity).Nodup := by
    have hcells : (rs.map Record.cellKey).Nodup := by
      rw [hrows, List.map_map] at hkeys
      exact hkeys
    have hkept := hcells.sublist ((List.filter_sublist (p := Record.hasPlainYear)).map _)
    rw [← Record.map_cellKey_settle, List.Nodup, List.pairwise_map] at hkept
    rw [hrows, Row.filterMap_record?_ofRecord, List.Nodup, List.pairwise_map]
    refine hkept.imp fun hne hsame => hne ?_
    exact Record.cellKey_inj.mpr (congrArg (fun i => i.2.2) hsame)
  rw [← length_filterMap_record? hread, distinctCount, hidentities.dedup, List.length_map]

end

/-- **The three reports agree with each other.**  Whoever put in the rows, if they can all be
loaded, a restore adds as many records as are different and skips the other rows that can be
read, the totals have a line for each key and model with such a row, and an export to a file
that can be written reports as many records as there are such rows.  A restore and the totals
change no rows, and an export none but those of the file that it writes, which are gone.  Rows
that the program put in itself are all different, as a unique index lets no key stand twice. -/
theorem reports_reconcile {e : Environment} {d : Disk} {database : Option String} {h : Host}
    {l : Location} {snapshot : Snapshot} (hready : Cli.prepare? e d database = some (h, l))
    (hload : (h.load 0 .never).1 = .ok snapshot) :
    let rows := d.rowsAt l
    let run := fun command => Cli.execute e d ⟨database, command⟩
    (∃ lines totals, Tabulates rows lines totals ∧
      (run .restore).1 =
        { output :=
            Report.restored ⟨distinctCount rows, readableCount rows - distinctCount rows⟩ totals } ∧
      (run .stats).1 =
        { output := if readableCount rows = 0 then Report.lines ["No usage recorded."]
            else Report.full lines totals }) ∧
    ((run .stats).1.output = Report.lines ["No usage recorded."] ↔ readableCount rows = 0) ∧
    (∀ file, (h.disk.writeText file "").isOk = true →
      (run (.exportTo (some file))).1 = { notice := Report.exported (readableCount rows) file } ∧
      ∀ l', h.disk.locate file = .ok l' → (run (.exportTo (some file))).2.rowsAt l' = []) ∧
    (∀ l', (run .restore).2.rowsAt l' = d.rowsAt l' ∧ (run .stats).2.rowsAt l' = d.rowsAt l') ∧
    (∀ file l', (∀ f, file = some f → (run (.exportTo file)).1.code = 0 →
      h.disk.locate f ≠ .ok l') →
      (run (.exportTo file)).2.rowsAt l' = d.rowsAt l') ∧
    ∀ rs : List Record, rows = rs.map Row.ofRecord → (d.relationAt l).Indexed →
      distinctCount rows = readableCount rows := by
  intro rows run
  have hprepared := Cli.prepared_of_prepare? hready
  have hrun : ∀ command, run command =
      ((Cli.perform h 0 command).1, (Cli.perform h 0 command).2.disk) :=
    Cli.execute_of_prepare? hready
  -- what was read are the records that the rows give back
  have hperm : snapshot.records.Perm (rows.filterMap Row.record?) := hprepared.records_of_load hload
  have hread : ∀ row ∈ rows, ∃ found, row.scan = .ok found :=
    hprepared.exists_load_iff.mp ⟨snapshot, hload⟩
  have htabulates := tabulates_merge hperm hread
  have htable := Report.table_eq (Snapshot.empty.merge snapshot).1
  simp only [htabulates.lines_eq_nil_iff hread] at htable
  have hcount : snapshot.recordCount = readableCount rows := by
    rw [Snapshot.recordCount_eq, hperm.length_eq, length_filterMap_record? hread]
  obtain ⟨hrestore, hrestored⟩ := Cli.restore_ok hload
  obtain ⟨hstats, hshown⟩ := Cli.stats_ok hload
  refine ⟨⟨_, _, htabulates, ?_, ?_⟩, ?_, fun file hwrite => ?_, fun l' => ⟨?_, ?_⟩,
    fun file l' hother => ?_, fun rs hrows hindexed => ?_⟩
  · rw [hrun, ← tally_merge_empty hperm hread]
    exact hrestore
  · rw [hrun, ← htable]
    exact hstats
  · rw [hrun, Cli.perform, hstats, htable]
    split
    · next hnone => simp [hnone]
    · next hsome => simp [hsome, Report.full_ne]
  · rw [hrun, ← hcount]
    exact Cli.exportTo_ok hload hwrite
  · rw [hrun, ← hprepared.rows l']
    exact hrestored l'
  · rw [hrun, ← hprepared.rows l']
    exact hshown l'
  · rw [hrun, ← hprepared.rows l']
    rw [hrun] at hother
    exact Cli.rowsAt_exportTo h 0 file hother
  · have hkeys := hprepared.keys hindexed
    rw [Database.keys, hprepared.database_rows] at hkeys
    exact distinctCount_of_keys hrows hkeys

/-- A row that the program put in itself, one with the same record that another tool put in
under a key of its own, and one with a timestamp that cannot be read. -/
def sharedRows : List Row :=
  let row : Row := .ofRecord ⟨"key", "model", { timestamp := .epoch, tokens := { total := 3 } }⟩
  [row, { row with dedupKey := .text "foreign" },
    { row with timestamp := .text "yesterday", dedupKey := .text "late" }]

/-- A disk with a database of these rows in the working directory. -/
def sharedDisk : Disk :=
  let db : Database :=
    { version := 1, relation := .ledger { rows := sharedRows, unique := true, lookup := true },
      writeAhead := true }
  { entries := [(["work"], .directory .shared), (["work", "u.db"], .database db)] }

/-- The steps in front of a command lead to the shared database, all of its rows are read, and a
file can be written beside it as well as in its place. -/
theorem exists_prepare?_sharedDisk :
    ∃ h snapshot, Cli.prepare? { home := "home" } sharedDisk (some "u.db") =
      some (h, ["work", "u.db"]) ∧
      (h.load 0 .never).1 = .ok snapshot ∧
      (∀ file ∈ ["s.json", "u.db"],
        (h.disk.writeText file "").isOk = true ∧ h.disk.locate file = .ok ["work", file]) := by
  have hfacts : ((Cli.prepare? { home := "home" } sharedDisk (some "u.db")).map fun p =>
      decide (p.2 = ["work", "u.db"] ∧ ∀ file ∈ ["s.json", "u.db"],
        (p.1.disk.writeText file "").isOk = true ∧ p.1.disk.locate file = .ok ["work", file])) =
          some true := by
    decide +kernel
  have hscan : ∀ row ∈ sharedRows, row.scan.isOk = true := by decide +kernel
  obtain ⟨⟨h, l⟩, hready, hfacts⟩ := Option.map_eq_some_iff.mp hfacts
  obtain ⟨rfl, hfiles⟩ := of_decide_eq_true hfacts
  obtain ⟨snapshot, hload⟩ := (Cli.prepared_of_prepare? hready).exists_load_iff.mpr
    fun row hrow => by
    have hok := hscan row hrow
    cases hread : row.scan with
    | error f => simp [hread, Except.isOk, Except.toBool] at hok
    | ok found => exact ⟨found, rfl⟩
  exact ⟨h, snapshot, hready, hload, hfiles⟩

/-- Of the shared rows two can be read and give back one record, so a restore skips one of them
and an export has both. -/
theorem reports_of_sharedRows :
    sharedDisk.rowsAt ["work", "u.db"] = sharedRows ∧
      let run := fun command => Cli.execute { home := "home" } sharedDisk ⟨some "u.db", command⟩
      (∃ lines totals, Tabulates sharedRows lines totals ∧
        (run .restore).1 = { output := Report.restored ⟨1, 1⟩ totals } ∧
        (run .stats).1 = { output := Report.full lines totals }) ∧
      (run (.exportTo (some "s.json"))).1 = { notice := Report.exported 2 "s.json" } ∧
      (run (.exportTo (some "s.json"))).2.rowsAt ["work", "u.db"] = sharedRows := by
  obtain ⟨h, snapshot, hready, hload, hfiles⟩ := exists_prepare?_sharedDisk
  obtain ⟨⟨hwrite, hfile⟩, -⟩ := List.forall_mem_cons.mp hfiles
  have hrows : sharedDisk.rowsAt ["work", "u.db"] = sharedRows := rfl
  have hreadable : readableCount sharedRows = 2 := by decide +kernel
  -- the two readable rows hold one and the same record
  have hdistinct : distinctCount sharedRows = 1 := by decide +kernel
  obtain ⟨⟨lines, totals, htabulates, hrestore, hstats⟩, -, hexport, -, hkept, -⟩ :=
    reports_reconcile hready hload
  rw [hrows, hreadable, hdistinct] at hrestore
  rw [hrows, hreadable, if_neg (by decide)] at hstats
  have hspared := hkept (some "s.json") ["work", "u.db"] fun f hf _ => by
    obtain rfl := Option.some.inj hf
    rw [hfile]
    decide
  refine ⟨hrows, ⟨lines, totals, hrows ▸ htabulates, hrestore, hstats⟩, ?_, hspared.trans hrows⟩
  rw [← hreadable, ← hrows]
  exact (hexport "s.json" hwrite).1

/-- **An export to the file of the database** succeeds, and the rows are gone after it. -/
theorem export_onto_sharedDisk :
    sharedDisk.rowsAt ["work", "u.db"] = sharedRows ∧ sharedRows ≠ [] ∧
      let exported := Cli.execute { home := "home" } sharedDisk
        ⟨some "u.db", .exportTo (some "u.db")⟩
      exported.1.code = 0 ∧ exported.2.rowsAt ["work", "u.db"] = [] := by
  obtain ⟨h, snapshot, hready, hload, hfiles⟩ := exists_prepare?_sharedDisk
  obtain ⟨hwrite, hfile⟩ := hfiles "u.db" (by decide)
  obtain ⟨hexit, hgone⟩ := Cli.exportTo_ok hload hwrite
  refine ⟨rfl, List.cons_ne_nil _ _, ?_⟩
  rw [Cli.execute_of_prepare? hready]
  refine ⟨?_, hgone _ hfile⟩
  rw [Cli.perform, hexit]

end UsageLedger
