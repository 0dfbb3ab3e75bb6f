import UsageLedger.Proofs.Asking
import UsageLedger.Proofs.Gathering
import UsageLedger.Proofs.SnapshotText
import UsageLedger.Proofs.StableSorts

/-!
# From one store to another by a file

An export writes what a load finds as the text of a snapshot file, and an import persists the
snapshot that such a text holds.  The two are inverse to each other on what a store holds
itself: into an empty table all of it is taken in, a load finds the same snapshot there and its
export is the same text, while the table that it came from takes nothing in.

The records come back with their keys because the text gives back every field.  That they come
back in the same order is due to two sorts being stable.  An export has the details of a bucket
in the order of their instants; an import makes their rows in this order; and as the timestamp
column does not tell rows of one instant apart, neither the order of the rows nor the sort of
the buckets disturbs those of one instant.

## Main definitions

* `Session.importText` — a store takes over the records of a snapshot file.

## Main results

* `Store.Loaded.snapshot_ofRecords_records` — **a snapshot that a load could find is found again.**
* `export_import_inverse` — **export and import are inverse to each other.**
-/

namespace UsageLedger

namespace Store

/-- Records of one instant keep their order when they are brought into that of their timestamp
column. -/
theorem filter_byStamp (rs : List Record) {p : Record → Bool}
    (hp : ∀ a b, p a = true → p b = true → a.detail.timestamp = b.detail.timestamp) :
    (byStamp rs).filter p = rs.filter p := by
  refine filter_mergeSort_of_le (fun a b c hab hbc => ?_) (fun a b => ?_) (fun a b ha hb => ?_) rs
  · simp only [Row.stampLE, Row.ofRecord, Bool.not_eq_true', decide_eq_false_iff_not, String.not_lt]
      at hab hbc ⊢
    exact String.le_trans hab hbc
  · simp only [Row.stampLE, Row.ofRecord, Bool.or_eq_true, Bool.not_eq_true',
      decide_eq_false_iff_not, String.not_lt]
    exact String.le_total _ _
  · simp only [Row.stampLE, Row.ofRecord, Bool.not_eq_true', decide_eq_false_iff_not, String.not_lt,
      hp a b ha hb]
    exact String.le_refl _

/-- **A snapshot that a load could find is found again** among the rows of its records. -/
theorem Loaded.snapshot_ofRecords_records {s : Snapshot} (hs : s.Filled)
    (hplain : ∀ r ∈ s.records, r.hasPlainYear = true) (hsettled : ∀ r ∈ s.records, r.Settled)
    (hasc : ∀ k m, (s.details k m).Pairwise fun a b => a.timestamp ≤ b.timestamp) :
    (Loaded.ofRecords s.records).snapshot = s := by
  refine Snapshot.ext_of_details (Loaded.filled_ofRecords _) hs fun k m => ?_
  refine eq_of_ties Instant.le_refl (fun _ _ => Instant.le_antisymm)
    (Loaded.ascending_ofRecords _ k m) (hasc k m) fun t => ?_
  have hbucket : ∀ ds : List Detail,
      (ds.mergeSort fun a b => a.timestamp.le b.timestamp).filter (fun d => d.timestamp = t) =
        ds.filter fun d => d.timestamp = t := by
    apply filter_mergeSort_of_le
      (fun a b c => Instant.le_trans a.timestamp b.timestamp c.timestamp)
      (fun a b => Instant.le_total a.timestamp b.timestamp)
    intro a b ha hb
    have hsame : a.timestamp = b.timestamp :=
      (of_decide_eq_true ha).trans (of_decide_eq_true hb).symm
    rw [hsame]
    exact Instant.le_refl b.timestamp
  -- the records at the place that are of the instant
  have hrecords : ∀ rs : List Record, (∀ r ∈ rs, r.hasPlainYear = true) →
      (((rs.filter Record.hasPlainYear).filter (Record.isAt k m)).map (·.detail)).filter
          (fun d => d.timestamp = t) =
        (rs.filter fun r => r.isAt k m && r.detail.timestamp = t).map (·.detail) := by
    intro rs hrs
    rw [List.filter_eq_self.mpr hrs, List.filter_map, List.filter_filter]
    refine congrArg (List.map _) (List.filter_congr fun r _ => ?_)
    simp [Bool.and_comm]
  have hstable : (byStamp s.records).filter (fun r => r.isAt k m && r.detail.timestamp = t) =
      s.records.filter fun r => r.isAt k m && r.detail.timestamp = t := by
    apply filter_byStamp
    intro a b ha hb
    simp only [Bool.and_eq_true, decide_eq_true_eq] at ha hb
    exact ha.2.trans hb.2.symm
  have hsorted : ∀ r ∈ byStamp s.records, r.hasPlainYear = true := fun r hr =>
    hplain r ((byStamp_perm _).mem_iff.mp hr)
  have hself : ((byStamp s.records).filter Record.hasPlainYear).map Record.settle =
      (byStamp s.records).filter Record.hasPlainYear :=
    Record.map_settle_of_settled fun r hr =>
      hsettled r ((byStamp_perm _).mem_iff.mp (List.mem_of_mem_filter hr))
  rw [Loaded.details_ofRecords, hself, hbucket, hrecords _ hsorted, hstable,
    Snapshot.details_eq_filter, ← hrecords _ hplain, List.filter_eq_self.mpr hplain]

variable (rs : List Record)

theorem Loaded.snapshot_ofRecords_ofRecords :
    (Loaded.ofRecords (Loaded.ofRecords rs).snapshot.records).snapshot =
      (Loaded.ofRecords rs).snapshot :=
  snapshot_ofRecords_records (filled_ofRecords rs) (hasPlainYear_ofRecords rs)
    (settled_ofRecords rs) (ascending_ofRecords rs)

theorem Loaded.cellKey_mem_ofRecords {r : Record}
    (hr : r ∈ (Loaded.ofRecords rs).snapshot.records) :
    r.cellKey ∈ rs.map Record.cellKey := by
  obtain ⟨r', hr', rfl⟩ := List.mem_map.mp ((records_ofRecords rs).mem_iff.mp hr)
  rw [r'.cellKey_settle]
  exact List.mem_map_of_mem (List.mem_of_mem_filter hr')

theorem Loaded.nodup_cellKey_ofRecords (h : (rs.map Record.cellKey).Nodup) :
    ((Loaded.ofRecords rs).snapshot.records.map Record.cellKey).Nodup := by
  rw [((records_ofRecords rs).map _).nodup_iff, Record.map_cellKey_settle]
  exact h.sublist (List.filter_sublist.map _)

end Store

namespace Session

/-- A store takes over the records of a snapshot file, if its text holds a snapshot. -/
def importText (s : Session) (id : Nat) (content : String) :
    Option (Except Error Reply × Session) :=
  (Snapshot.ofFileText? content).map fun n => s.step (.ask id (.persist n .never))

variable {s : Session} {id : Nat}

theorem Serves.importText_of_empty (hs : s.Serves id) (hempty : s.database.rows = []) {n : Snapshot}
    (hkeys : (n.records.map Record.cellKey).Nodup) (hsettled : ∀ r ∈ n.records, r.Settled) :
    ∃ s', s.importText id n.fileText = some (.ok (.persisted ⟨n.recordCount, 0⟩), s') ∧
      s'.Serves id ∧
      s'.database.rows = n.records.map Row.ofRecord := by
  obtain ⟨hanswer, hrows, hserves⟩ := hs.persist n
  have hfresh : fresh Record.cellKey s.database.keys n.records = n.records := by
    rw [Database.keys, hempty]
    exact fresh_eq_self hkeys
  rw [hfresh, Nat.sub_self, ← Snapshot.recordCount_eq] at hanswer
  rw [hfresh, hempty, List.nil_append] at hrows
  refine ⟨_, ?_, hserves, hrows⟩
  rw [importText, Snapshot.ofFileText?_fileText, Snapshot.settle_of_settled hsettled,
    Option.map_some, ← hanswer]

theorem Serves.importText_of_known (hs : s.Serves id) {n : Snapshot}
    (hknown : ∀ r ∈ n.records, r.cellKey ∈ s.database.keys)
    (hsettled : ∀ r ∈ n.records, r.Settled) :
    ∃ s', s.importText id n.fileText = some (.ok (.persisted ⟨0, n.recordCount⟩), s') ∧
      s'.database.rows = s.database.rows := by
  obtain ⟨hanswer, hrows, -⟩ := hs.persist n
  have hfresh : fresh Record.cellKey s.database.keys n.records = [] := fresh_eq_nil_iff.mpr hknown
  rw [hfresh, List.length_nil, Nat.sub_zero, ← Snapshot.recordCount_eq] at hanswer
  rw [hfresh, List.map_nil, List.append_nil] at hrows
  refine ⟨_, ?_, hrows⟩
  rw [importText, Snapshot.ofFileText?_fileText, Snapshot.settle_of_settled hsettled,
    Option.map_some, ← hanswer]

end Session

/-- **Export and import are inverse to each other.**  Whatever stores did to a file, a load
finds a snapshot in it, and the text of this snapshot, imported into any empty table, adds all
its records; then a load finds the very snapshot, and exports the same text.  Imported into the
file that it came from, whatever stores did there since, the text adds nothing. -/
theorem export_import_inverse {ms : List Move} (hms : ∀ m ∈ ms, m.sparesTable = true) {id : Nat}
    {st : Store} (hget : (Session.blank.run ms).stores[id]? = some st)
    (hready : st.phase = .ready) :
    ∃ found, ((Session.blank.run ms).step (.ask id (.load .never))).1 = .ok (.loaded found) ∧
      (∀ (t : Session) (j : Nat), t.Serves j → t.database.rows = [] →
        ∃ t' found', t.importText j found.snapshot.fileText =
            some (.ok (.persisted ⟨found.snapshot.recordCount, 0⟩), t') ∧
          (t'.step (.ask j (.load .never))).1 = .ok (.loaded found') ∧
          found'.snapshot = found.snapshot ∧
          found'.snapshot.fileText = found.snapshot.fileText) ∧
      ∀ (more : List Move) (j : Nat), (∀ m ∈ more, m.sparesTable = true) →
        ((Session.blank.run ms).run more).Serves j →
        ∃ t', ((Session.blank.run ms).run more).importText j found.snapshot.fileText =
            some (.ok (.persisted ⟨0, found.snapshot.recordCount⟩), t') ∧
          t'.database.rows = ((Session.blank.run ms).run more).database.rows := by
  have horderly := Session.orderly_blank.run hms
  obtain ⟨rs, hrows⟩ : ∃ rs : List Record, (Session.blank.run ms).database.rows =
      rs.map Row.ofRecord :=
    ⟨_, (Session.rows_run Session.orderly_blank hms).trans (List.nil_append _)⟩
  have hkeys : (Session.blank.run ms).database.keys = rs.map Record.cellKey :=
    Database.keys_ofRecords hrows
  have hsettled := Store.Loaded.settled_ofRecords rs
  refine ⟨_, Session.load_of_rows horderly hget hready hrows, ?_, ?_⟩
  · intro t j hserves hempty
    -- no two records that were loaded share a key, so an empty table takes them all
    have hdistinct := Store.Loaded.nodup_cellKey_ofRecords rs (hkeys ▸ horderly.distinct)
    obtain ⟨t', himport, hserves', hrows'⟩ :=
      hserves.importText_of_empty hempty hdistinct hsettled
    have hsame := Store.Loaded.snapshot_ofRecords_ofRecords rs
    exact ⟨t', _, himport, hserves'.load hrows', hsame, congrArg Snapshot.fileText hsame⟩
  · intro more j hmore hserves
    -- the rows only grow, so every key that was exported is still held
    have hgrown := Database.keys_append (Session.rows_run horderly hmore)
    refine hserves.importText_of_known (fun r hr => ?_) hsettled
    rw [hgrown, ← Database.keys, hkeys]
    exact List.mem_append_left _ (Store.Loaded.cellKey_mem_ofRecords rs hr)

/-- A store that takes in the two samples, which are of one instant. -/
def sampleMoves : List Move :=
  [.openStore "u.db" 0, .ask 0 (.ensureSchema .never),
    .ask 0 (.persist (.ofRecords sampleRecords) .never)]

/-- The samples come through a file into another store, and are known in the one that they came
from. -/
theorem export_import_samples :
    (∀ m ∈ sampleMoves, m.sparesTable = true) ∧
      ∃ found, ((Session.blank.run sampleMoves).step (.ask 0 (.load .never))).1 =
        .ok (.loaded found) ∧
        found.snapshot.recordCount = 2 ∧
        (∃ t' found', Session.prepared.importText 0 found.snapshot.fileText =
            some (.ok (.persisted ⟨2, 0⟩), t') ∧
          (t'.step (.ask 0 (.load .never))).1 = .ok (.loaded found') ∧
          found'.snapshot = found.snapshot) ∧
        ∃ t', (Session.blank.run sampleMoves).importText 0 found.snapshot.fileText =
            some (.ok (.persisted ⟨0, 2⟩), t') ∧
          t'.database.rows = (Session.blank.run sampleMoves).database.rows := by
  have hspares : ∀ m ∈ sampleMoves, m.sparesTable = true := by simp [sampleMoves, Move.sparesTable]
  obtain ⟨-, hrows, hserves⟩ := Session.serves_prepared.persist (.ofRecords sampleRecords)
  have hdistinct : (sampleRecords.map Record.cellKey).Nodup :=
    List.Nodup.map_on (fun a ha b hb hab =>
      keysSeparate_sampleRecords a ha b hb (Record.cellKey_inj.mp hab)) (by decide)
  have hrecords : (Snapshot.ofRecords sampleRecords).records = sampleRecords := by decide +kernel
  have hkeys : Session.prepared.database.keys = [] := rfl
  have hempty : Session.prepared.database.rows = [] := rfl
  rw [hrecords, hkeys, fresh_eq_self hdistinct, hempty, List.nil_append] at hrows
  obtain ⟨st, hget, hready⟩ := hserves.ready
  obtain ⟨found, hload, hinto, hback⟩ := export_import_inverse hspares hget hready
  -- there is one answer to the load, known from the rows
  have hfound : found = Store.Loaded.ofRecords sampleRecords := by
    have hsame := (hserves.load hrows).symm.trans hload
    cases hsame
    rfl
  have hcount : found.snapshot.recordCount = 2 := by
    rw [hfound, Snapshot.recordCount_eq, (Store.Loaded.records_ofRecords _).length_eq]
    decide +kernel
  obtain ⟨t', found', himport, hload', hsame, -⟩ :=
    hinto Session.prepared 0 Session.serves_prepared hempty
  obtain ⟨t'', hagain, hunchanged⟩ := hback [] 0 (by simp) hserves
  rw [hcount] at himport hagain
  exact ⟨hspares, found, hload, hcount, ⟨t', found', himport, hload', hsame⟩, t'', hagain,
    hunchanged⟩

end UsageLedger
