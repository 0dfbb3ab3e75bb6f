import UsageLedger.Proofs.Accounting
import UsageLedger.Proofs.ReadBack

/-!
# What becomes of the records that were added

A record that was reported as added is in the table, counts as a row and keeps its key occupied.
A load gives it back, once and unchanged, exactly when its year has four digits: all other years
are stored in a form that no layout reads, so that a load passes the row over.  The records are
taken to be settled, as all are that come from texts: others would come back as the settled
ones.

## Main definitions

* `Recall` — what a load finds when records were added.

## Main results

* `recall_of_run` — **a load gives back just the added records whose years have four digits.**
-/

namespace UsageLedger

/-- What a load finds when records were added. -/
structure Recall (added : List Record) (found : Store.Loaded) : Prop where
  /-- No record is found twice. -/
  distinct : found.snapshot.records.Nodup
  /-- The records whose years have four digits are found as they were, and nothing else. -/
  records_perm : found.snapshot.records.Perm (added.filter Record.hasPlainYear)
  /-- The others are passed over. -/
  skipped_eq : found.skipped = (added.filter fun r => !r.hasPlainYear).length
  /-- Everything that was added is found exactly when all years have four digits. -/
  complete_iff : found.snapshot.records.Perm added ↔ ∀ r ∈ added, r.hasPlainYear = true
  /-- As many records are found as there are rows exactly when all years have four digits. -/
  recordCount_iff : found.snapshot.recordCount = added.length ↔ ∀ r ∈ added, r.hasPlainYear = true

theorem Recall.of_perm {added : List Record} {found : Store.Loaded} (hdistinct : added.Nodup)
    (hperm : found.snapshot.records.Perm (added.filter Record.hasPlainYear))
    (hskipped : found.skipped = (added.filter fun r => !r.hasPlainYear).length) :
    Recall added found := by
  have hcount : found.snapshot.recordCount = added.length ↔ ∀ r ∈ added, r.hasPlainYear = true := by
    rw [Snapshot.recordCount_eq, hperm.length_eq, List.length_filter_eq_length_iff]
  refine ⟨?_, hperm, hskipped, ⟨fun h => ?_, fun h => ?_⟩, hcount⟩
  · exact hperm.nodup_iff.mpr (hdistinct.filter _)
  · rw [← hcount, Snapshot.recordCount_eq, h.length_eq]
  · rwa [List.filter_eq_self.mpr h] at hperm

/-- **A load gives back just the added records whose years have four digits**, each of them once and
unchanged, whichever ready store of the file is asked, and counting finds a row for every record. -/
theorem recall_of_run (ms : List Move) (hms : ∀ m ∈ ms, m.sparesTable = true)
    (hsettled : ∀ r ∈ (Session.blank.log ms).flatMap Exchange.added, r.Settled) {id : Nat}
    {st : Store} (hget : (Session.blank.run ms).stores[id]? = some st)
    (hready : st.phase = .ready) :
    ∃ found, ((Session.blank.run ms).step (.ask id (.load .never))).1 = .ok (.loaded found) ∧
      Recall ((Session.blank.log ms).flatMap Exchange.added) found ∧
      ((Session.blank.run ms).step (.ask id .count)).1 =
        .ok (.counted ((Session.blank.log ms).flatMap Exchange.added).length) := by
  have hend := Session.orderly_blank.run hms
  have hrows : (Session.blank.run ms).database.rows =
      ((Session.blank.log ms).flatMap Exchange.added).map Row.ofRecord := by
    simpa [Session.blank, Database.blank, Database.rows] using
      Session.rows_run Session.orderly_blank hms
  have hmem := List.mem_of_getElem? hget
  have hshape := (hend.guarded st hmem hready).shape_eq
  have hquiet := hend.quiet st hmem
  obtain ⟨c, hc⟩ := (hend.linked st hmem).ready? hready
  obtain ⟨found, hread, hperm, hskipped⟩ := Store.readRows_of_rows hshape hrows
  rw [Record.map_settle_of_settled fun r hr => hsettled r (List.mem_of_mem_filter hr)] at hperm
  have hdistinct : ((Session.blank.log ms).flatMap Exchange.added).Nodup := by
    -- records with different keys are different
    have hkeys := hend.distinct
    rw [Database.keys, hrows, List.map_map] at hkeys
    exact hkeys.of_map
  have hload := Store.serve_of_onTable hquiet hc rfl hshape (Call.onTable_load hread)
  have hcounted : Call.count.onTable (Session.blank.run ms).database =
      .ok (.counted (Session.blank.run ms).database.rowCount, (Session.blank.run ms).database) :=
        rfl
  have hcount := Store.serve_of_onTable hquiet hc rfl hshape hcounted
  refine ⟨found, ?_, .of_perm hdistinct hperm hskipped, ?_⟩
  · simp only [Session.step, hget, hload.1]
  · simp only [Session.step, hget, hcount.1, Database.rowCount_of_table hshape, hrows,
      List.length_map]

/-- A record of the first second of the year 10000. -/
def lateRecord : Record :=
  ⟨"key", "model", { timestamp := .of 253402300800 0 (by decide) }⟩

/-- A store that is given a record of the year 10000. -/
def lateMoves : List Move :=
  [.openStore "u.db" 0, .ask 0 (.ensureSchema .never), .ask 0 (.insert lateRecord)]

/-- A record of the year 10000 is added, counts as a row, and is not found. -/
theorem lateRecord_lost :
    (∀ m ∈ lateMoves, m.sparesTable = true) ∧
      (Session.blank.log lateMoves).flatMap Exchange.added = [lateRecord] ∧
      ∃ st, (Session.blank.run lateMoves).stores[0]? = some st ∧ st.phase = .ready ∧
        ∃ found, ((Session.blank.run lateMoves).step (.ask 0 (.load .never))).1 =
          .ok (.loaded found) ∧
          found.snapshot.records = [] ∧ found.skipped = 1 ∧
          ((Session.blank.run lateMoves).step (.ask 0 .count)).1 = .ok (.counted 1) := by
  have hspares : ∀ m ∈ lateMoves, m.sparesTable = true := by decide
  have hadded : (Session.blank.log lateMoves).flatMap Exchange.added = [lateRecord] := by rfl
  have hlate : lateRecord.hasPlainYear = false := by decide
  have hsettled : ∀ r ∈ (Session.blank.log lateMoves).flatMap Exchange.added, r.Settled := by
    rw [hadded]
    decide
  obtain ⟨st, hget, hready⟩ :
      ∃ st, (Session.blank.run lateMoves).stores[0]? = some st ∧ st.phase = .ready := ⟨_, rfl, rfl⟩
  obtain ⟨found, hload, hrecall, hcount⟩ := recall_of_run lateMoves hspares hsettled hget hready
  rw [hadded] at hrecall hcount
  refine ⟨hspares, hadded, st, hget, hready, found, hload, ?_, ?_, hcount⟩
  · simpa [hlate] using hrecall.records_perm
  · simpa [hlate] using hrecall.skipped_eq

end UsageLedger
