import UsageLedger.Proofs.Places
import UsageLedger.Proofs.Settling
import UsageLedger.Proofs.Table

/-!
# Rows read back

What a load finds: the records that the rows of the table give back, in some order, and a count
of the rows that give none.  A row that was made from a record gives it back, with its instant
settled, if its timestamp can be read.

## Main definitions

* `Record.hasPlainYear` — the year of the record has four digits.
* `Row.record?` — the record that a row gives back.
* `Store.Loaded.ofRecords` — what a load finds among the rows of records.

## Main results

* `Row.scan_ofRecord` — a row gives its record back, settled, exactly when the year has four digits.
* `Store.readRows_ok` — **a load finds the records that the rows give back.**
* `Store.readRows_ofRecords`, `Store.readRows_of_rows` — **what a load finds among the rows of
  records.** -/

namespace UsageLedger

/-- The year of the record has four digits. -/
def Record.hasPlainYear (r : Record) : Bool :=
  r.detail.timestamp.hasPlainYear

@[simp] theorem Record.hasPlainYear_settle (r : Record) : r.settle.hasPlainYear = r.hasPlainYear :=
  r.detail.timestamp.hasPlainYear_settle

@[simp] theorem Record.cellKey_settle (r : Record) : r.settle.cellKey = r.cellKey := by
  rw [cellKey, r.key_settle, cellKey]

theorem Record.map_cellKey_settle (rs : List Record) :
    (rs.map settle).map cellKey = rs.map cellKey := by
  rw [List.map_map]
  exact List.map_congr_left fun r _ => r.cellKey_settle

/-- **A row gives its record back, settled, exactly when the year has four digits.** -/
theorem Row.scan_ofRecord (r : Record) :
    (ofRecord r).scan = .ok (if r.hasPlainYear then some r.settle else none) := by
  have hinstant : (ofRecord r).instant? =
      if r.hasPlainYear then some r.detail.timestamp.settle else none :=
    Instant.readStored?_stored r.detail.timestamp
  obtain ⟨apiKey, model, timestamp, source, authIndex, tokens, failed⟩ := r
  -- a flag is stored as one or zero, and read as being other than zero
  have hfailed : ((if failed then 1 else 0 : Int64) != 0) = failed := by
    cases failed <;> rfl
  simp only [scan, hinstant]
  simp only [readText, readCount, get, ofRecord, bind, Except.bind, pure, Except.pure, hfailed]
  split <;> rfl

/-- The record that a row gives back, if its cells and its timestamp can be read. -/
def Row.record? (row : Row) : Option Record :=
  match row.scan with
  | .ok found => found
  | .error _ => none

theorem Row.record?_eq_some {row : Row} {r : Record} :
    row.record? = some r ↔ row.scan = .ok (some r) := by
  rw [record?]
  cases row.scan <;> simp

theorem Row.readText_ok {row : Row} {c : Column} {s : String} (h : row.readText c = .ok s) :
    row.get c = .text s := by
  rw [readText] at h
  split at h
  · next hc => rw [hc, Except.ok.inj h]
  · cases h

/-- A row whose cells can be read gives back a record just when its timestamp can be read, with
the key and the model in its cells. -/
theorem Row.scan_ok {row : Row} {found : Option Record} (h : row.scan = .ok found) :
    ∃ k m, ∃ detail : Instant → Detail, row.apiKey = .text k ∧ row.model = .text m ∧
      (∀ t, (detail t).timestamp = t) ∧ found = row.instant?.map fun t => ⟨k, m, detail t⟩ := by
  rw [scan] at h
  cases hk : row.readText .apiKey with
  | error f =>
    rw [hk] at h
    cases h
  | ok k =>
    cases hm : row.readText .model with
    | error f =>
      rw [hk, hm] at h
      cases h
    | ok m =>
      rw [hk, hm] at h
      simp only [bind, Except.bind, pure, Except.pure] at h
      -- a fault in one of the other cells would be the answer
      repeat' split at h
      all_goals first
        | exact ⟨k, m, _, readText_ok hk, readText_ok hm, fun _ => rfl, (Except.ok.inj h).symm⟩
        | cases h

/-- Of rows whose cells can be read those give back records whose timestamps can be read. -/
theorem Row.isSome_record? {row : Row} {found : Option Record} (h : row.scan = .ok found) :
    row.record?.isSome = row.instant?.isSome := by
  obtain ⟨k, m, detail, -, -, -, hfound⟩ := scan_ok h
  rw [record?, h, hfound, Option.isSome_map]

theorem Row.settled_of_scan {row : Row} {r : Record} (h : row.scan = .ok (some r)) : r.Settled := by
  obtain ⟨k, m, detail, -, -, htime, hfound⟩ := scan_ok h
  obtain ⟨t, ht, rfl⟩ := Option.map_eq_some_iff.mp hfound.symm
  have hsettled : t.Settled := by
    rw [instant?] at ht
    split at ht
    · exact Instant.settled_of_readStored? ht
    · cases ht
  show (detail t).timestamp.Settled
  rwa [htime t]

theorem Row.eq_of_scan_ofRecord {r r' : Record} (h : (ofRecord r).scan = .ok (some r')) :
    r' = r.settle := by
  rw [scan_ofRecord] at h
  split at h <;> simp_all

/-- Of rows of records those give their records back, settled, whose years have four digits. -/
theorem Row.filterMap_record?_ofRecord (rs : List Record) :
    (rs.map ofRecord).filterMap record? = (rs.filter Record.hasPlainYear).map Record.settle := by
  induction rs with
  | nil => rfl
  | cons r rs ih =>
    have hr : (ofRecord r).record? = if r.hasPlainYear then some r.settle else none := by
      rw [record?, scan_ofRecord]
    rw [List.map_cons, List.filterMap_cons, hr, ih]
    cases h : r.hasPlainYear <;> simp [h]

namespace Store

/-- **The records that are read are those that the rows give back**, and every row was read. -/
theorem scanAll_ok {i : Interruption} {rows : List Row} {step skipped : Nat} {records : List Record}
    (h : scanAll i step rows = .ok (records, skipped)) :
    records = rows.filterMap Row.record? ∧ ∀ row ∈ rows, ∃ found, row.scan = .ok found := by
  induction rows generalizing step skipped records with
  | nil =>
    simp only [scanAll, Except.ok.injEq, Prod.mk.injEq] at h
    exact ⟨h.1.symm, by simp⟩
  | cons row rows ih =>
    rw [scanAll] at h
    split at h
    · cases h
    · split at h
      · cases h
      · next found hscan =>
        split at h
        · cases h
        · next records' skipped' hrest =>
          obtain ⟨hrecords, hread⟩ := ih hrest
          -- the row is read to what its scan found, whether that is a record or nothing
          have hfound : row.record? = found := by rw [Row.record?, hscan]
          refine ⟨?_, List.forall_mem_cons.mpr ⟨⟨found, hscan⟩, hread⟩⟩
          rw [List.filterMap_cons, hfound, ← hrecords]
          cases found with
          | none =>
            simp only [Except.ok.injEq, Prod.mk.injEq] at h
            exact h.1.symm
          | some record =>
            simp only [Except.ok.injEq, Prod.mk.injEq] at h
            exact h.1.symm

theorem exists_scanAll {rows : List Row} (hread : ∀ row ∈ rows, ∃ found, row.scan = .ok found)
    (step : Nat) :
    ∃ read, scanAll .never step rows = .ok read := by
  induction rows generalizing step with
  | nil => exact ⟨_, rfl⟩
  | cons row rows ih =>
    obtain ⟨found, hscan⟩ := hread row List.mem_cons_self
    obtain ⟨⟨records, skipped⟩, hrest⟩ :=
      ih (fun r hr => hread r (List.mem_cons_of_mem _ hr)) (step + 1)
    rw [scanAll, if_neg (by simp [Interruption.stops]), hscan, hrest]
    cases found <;> exact ⟨_, rfl⟩

theorem exists_readRows {db : Database} (hs : db.shape = .ledger)
    (hread : ∀ row ∈ db.rows, ∃ found, row.scan = .ok found) :
    ∃ found, readRows .never db = .ok found := by
  obtain ⟨l, hl⟩ := Database.shape_eq_ledger_iff.mp hs
  rw [Database.rows_of_table hl] at hread
  obtain ⟨⟨records, skipped⟩, hscan⟩ : ∃ read, scanAll .never 0 l.byTimestamp = .ok read :=
    exists_scanAll (fun row hrow => hread row (List.mem_mergeSort.mp hrow)) 0
  rw [readRows, hl]
  dsimp only
  rw [hscan]
  exact ⟨_, rfl⟩

/-- **What a load finds**: the records that the rows give back, each as often as there are rows,
and no level without records; and it found every row to have cells of the right kinds. -/
theorem readRows_ok {i : Interruption} {db : Database} {found : Loaded}
    (h : readRows i db = .ok found) :
    found.snapshot.records.Perm (db.rows.filterMap Row.record?) ∧ found.snapshot.Filled ∧
      ∀ row ∈ db.rows, ∃ r, row.scan = .ok r := by
  rw [readRows] at h
  cases hr : db.relation with
  | ledger l =>
    rw [hr] at h
    dsimp only at h
    split at h
    · next records skipped hscan =>
      obtain rfl : _ = found := by simpa using h
      obtain ⟨hrecords, hread⟩ := scanAll_ok hscan
      -- the rows are only sorted before they are read
      have hperm : l.byTimestamp.Perm db.rows := by
        rw [Database.rows_of_table hr]
        exact List.mergeSort_perm _ _
      refine ⟨?_, (Snapshot.filled_ofRecords _).sortBuckets,
        fun row hrow => hread row (hperm.mem_iff.mpr hrow)⟩
      refine (Snapshot.records_sortBuckets_perm _).trans
        ((Snapshot.records_ofRecords_perm _).trans ?_)
      rw [hrecords]
      exact hperm.filterMap _
    · cases h
  | _ => simp [hr, Relation.shape, Shape.checkLoad] at h

/-- **A load finds the records that the rows give back**, and no other. -/
theorem mem_records_of_readRows {i : Interruption} {db : Database} {found : Loaded}
    (h : readRows i db = .ok found) (r : Record) :
    r ∈ found.snapshot.records ↔ ∃ row ∈ db.rows, row.scan = .ok (some r) := by
  rw [(readRows_ok h).1.mem_iff, List.mem_filterMap]
  simp only [Row.record?_eq_some]

theorem settled_of_readRows {i : Interruption} {db : Database} {found : Loaded}
    (h : readRows i db = .ok found) : ∀ r ∈ found.snapshot.records, r.Settled := by
  intro r hr
  obtain ⟨row, -, hscan⟩ := (mem_records_of_readRows h r).mp hr
  exact Row.settled_of_scan hscan

theorem scanAll_ofRecords (rs : List Record) (step : Nat) :
    scanAll .never step (rs.map Row.ofRecord) =
      .ok ((rs.filter Record.hasPlainYear).map Record.settle,
        (rs.filter fun r => !r.hasPlainYear).length) := by
  induction rs generalizing step with
  | nil => rfl
  | cons r rs ih =>
    rw [List.map_cons, scanAll, if_neg (by simp [Interruption.stops]), Row.scan_ofRecord]
    cases h : r.hasPlainYear <;> simp [ih, h]

/-- Records in the order of the timestamp column of their rows. -/
def byStamp (rs : List Record) : List Record :=
  rs.mergeSort fun a b => Row.stampLE (.ofRecord a) (.ofRecord b)

/-- What a load finds among the rows of records. -/
def Loaded.ofRecords (rs : List Record) : Loaded where
  snapshot :=
    (Snapshot.ofRecords (((byStamp rs).filter Record.hasPlainYear).map Record.settle)).sortBuckets
  skipped := ((byStamp rs).filter fun r => !r.hasPlainYear).length

theorem byStamp_perm (rs : List Record) : (byStamp rs).Perm rs :=
  List.mergeSort_perm _ _

theorem byTimestamp_ofRecords {l : Ledger} {rs : List Record} (h : l.rows = rs.map Row.ofRecord) :
    l.byTimestamp = (byStamp rs).map Row.ofRecord := by
  rw [Ledger.byTimestamp, h, byStamp]
  exact (List.map_mergeSort (f := Row.ofRecord) fun _ _ _ _ => rfl).symm

/-- **What a load finds among the rows of records**, bucket by bucket and in which order. -/
theorem readRows_ofRecords {db : Database} {rs : List Record} (hs : db.shape = .ledger)
    (h : db.rows = rs.map Row.ofRecord) : readRows .never db = .ok (Loaded.ofRecords rs) := by
  obtain ⟨l, hl⟩ := Database.shape_eq_ledger_iff.mp hs
  rw [Database.rows_of_table hl] at h
  rw [readRows, hl]
  dsimp only
  rw [byTimestamp_ofRecords h, scanAll_ofRecords]
  rfl

/-- What is found are the records whose years have four digits, settled. -/
theorem Loaded.records_ofRecords (rs : List Record) :
    (Loaded.ofRecords rs).snapshot.records.Perm
      ((rs.filter Record.hasPlainYear).map Record.settle) :=
  (Snapshot.records_sortBuckets_perm _).trans
    ((Snapshot.records_ofRecords_perm _).trans (((byStamp_perm rs).filter _).map _))

theorem Loaded.settled_ofRecords (rs : List Record) :
    ∀ r ∈ (Loaded.ofRecords rs).snapshot.records, r.Settled := by
  intro r hr
  obtain ⟨r', -, rfl⟩ := List.mem_map.mp ((records_ofRecords rs).mem_iff.mp hr)
  exact r'.settled_settle

theorem Loaded.hasPlainYear_ofRecords (rs : List Record) :
    ∀ r ∈ (Loaded.ofRecords rs).snapshot.records, r.hasPlainYear = true := by
  intro r hr
  obtain ⟨r', hr', rfl⟩ := List.mem_map.mp ((records_ofRecords rs).mem_iff.mp hr)
  rw [r'.hasPlainYear_settle]
  exact (List.mem_filter.mp hr').2

theorem Loaded.filled_ofRecords (rs : List Record) : (Loaded.ofRecords rs).snapshot.Filled :=
  (Snapshot.filled_ofRecords _).sortBuckets

theorem Loaded.details_ofRecords (rs : List Record) (k m : String) :
    (Loaded.ofRecords rs).snapshot.details k m =
      (((((byStamp rs).filter Record.hasPlainYear).map Record.settle).filter (Record.isAt k m)).map
        (·.detail)).mergeSort fun a b => a.timestamp.le b.timestamp := by
  rw [Loaded.ofRecords, Snapshot.details_sortBuckets, Snapshot.details_ofRecords]

theorem Loaded.ascending_ofRecords (rs : List Record) (k m : String) :
    ((Loaded.ofRecords rs).snapshot.details k m).Pairwise fun a b => a.timestamp ≤ b.timestamp := by
  rw [Loaded.details_ofRecords]
  exact List.pairwise_mergeSort
    (fun a b c => Instant.le_trans a.timestamp b.timestamp c.timestamp)
    (fun a b => Instant.le_total a.timestamp b.timestamp) _

/-- **What a load finds among the rows of records**: the records whose years have four digits,
settled, and a count of the others. -/
theorem readRows_of_rows {db : Database} {rs : List Record} (hs : db.shape = .ledger)
    (h : db.rows = rs.map Row.ofRecord) :
    ∃ found, readRows .never db = .ok found ∧
      found.snapshot.records.Perm ((rs.filter Record.hasPlainYear).map Record.settle) ∧
      found.skipped = (rs.filter fun r => !r.hasPlainYear).length :=
  ⟨_, readRows_ofRecords hs h, Loaded.records_ofRecords rs, ((byStamp_perm rs).filter _).length_eq⟩

end Store

end UsageLedger
