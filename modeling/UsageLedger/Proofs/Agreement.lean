import UsageLedger.Proofs.Asking
import UsageLedger.Proofs.Gathering

/-!
# The table and the merge agree

Snapshots can be persisted in turn, or merged in turn into one that is empty at first.  The
table asks whether a key is anywhere in it, row by row; the merge asks whether a key is in a
bucket, bucket by bucket. As long as keys tell records apart both take in the same records and
count them in the same way.

The proof goes along the snapshots with the relation `Matches` between the table and what was
merged.

## Main definitions

* `Matches` — a table and a snapshot that took in the same records.
* `persistAll` — requests to persist snapshots in turn.

## Main results

* `Matches.persist` — one snapshot more keeps table and merge in step, and they count alike.
* `persistAll_agrees` — **table and merge leave out the same records**, and a load finds what
  was merged. -/

namespace UsageLedger

/-- A table and a snapshot that took in the same records, all of them among some known ones. -/
structure Matches (known : List Record) (db : Database) (merged : Snapshot) : Prop where
  /-- The rows are those of the records of the snapshot, in some order. -/
  rows : ∃ rs : List Record, db.rows = rs.map Row.ofRecord ∧ rs.Perm merged.records
  /-- No level of the snapshot is empty. -/
  filled : merged.Filled
  /-- The records are known. -/
  subset : ∀ r ∈ merged.records, r ∈ known

theorem matches_empty {db : Database} (h : db.rows = []) (known : List Record) :
    Matches known db .empty :=
  ⟨⟨[], h, List.Perm.refl _⟩, Snapshot.filled_empty, fun _ hr => by cases hr⟩

variable {known : List Record} {db : Database} {merged : Snapshot}

/-- The keys in the table are those of the records that were merged. -/
theorem Matches.mem_keys_iff (h : Matches known db merged) (key : Cell) :
    key ∈ db.keys ↔ key ∈ merged.records.map Record.cellKey := by
  obtain ⟨rs, hrows, hperm⟩ := h.rows
  rw [Database.keys_ofRecords hrows, (hperm.map Record.cellKey).mem_iff]

/-- The table leaves out what the merge leaves out. -/
theorem Matches.fresh_eq (h : Matches known db merged) (hkeys : KeysSeparate known)
    {rs : List Record} (hrs : ∀ r ∈ rs, r ∈ known) :
    fresh Record.cellKey db.keys rs =
      fresh Record.identity (merged.records.map Record.identity) rs := by
  have hidentity : ∀ a b : Record, a.identity = b.identity → a.key = b.key := fun a b hab =>
    congrArg (fun i => i.2.2) hab
  refine fresh_congr_key (fun a ha => ?_) fun a ha b hb => ?_
  · rw [h.mem_keys_iff, List.mem_map, List.mem_map]
    constructor
    · rintro ⟨b, hb, hab⟩
      -- a row with the key is the row of the very record
      obtain rfl := hkeys b (h.subset b hb) a (hrs a ha) (Record.cellKey_inj.mp hab)
      exact ⟨b, hb, rfl⟩
    · rintro ⟨b, hb, hab⟩
      exact ⟨b, hb, Record.cellKey_inj.mpr (hidentity b a hab)⟩
  · rw [Record.cellKey_inj]
    constructor
    · intro hab
      rw [hkeys a (hrs a ha) b (hrs b hb) hab]
    · exact hidentity a b

/-- **One snapshot more keeps table and merge in step**, and they count alike. -/
theorem Matches.persist {s : Session} {id : Nat} (hs : s.Serves id)
    (h : Matches known s.database merged) (hkeys : KeysSeparate known) {n : Snapshot}
    (hn : ∀ r ∈ n.records, r ∈ known) :
    (s.step (.ask id (.persist n .never))).1 = .ok (.persisted (merged.merge n).2) ∧
      (s.step (.ask id (.persist n .never))).2.Serves id ∧
      Matches known (s.step (.ask id (.persist n .never))).2.database (merged.merge n).1 := by
  obtain ⟨hanswer, hrows, hserves⟩ := hs.persist n
  obtain ⟨hrecords, htally⟩ := Snapshot.merge_records merged n
  rw [h.fresh_eq hkeys hn] at hanswer hrows
  refine ⟨by rw [hanswer, htally], hserves, ?_, h.filled.merge n, fun r hr => ?_⟩
  · obtain ⟨rs, hold, hperm⟩ := h.rows
    refine ⟨rs ++ fresh Record.identity (merged.records.map Record.identity) n.records, ?_, ?_⟩
    · rw [hrows, hold, List.map_append]
    · exact (hperm.append_right _).trans hrecords.symm
  · rcases List.mem_append.mp (hrecords.mem_iff.mp hr) with hr | hr
    · exact h.subset r hr
    · exact hn r ((fresh_sublist _ _).subset hr)

/-- The requests that persist snapshots in turn. -/
def persistAll (id : Nat) (snapshots : List Snapshot) : List Move :=
  snapshots.map fun n => .ask id (.persist n .never)

/-- Snapshots in turn keep table and merge in step, and they count alike. -/
theorem Matches.persistAll {s : Session} {id : Nat} (hs : s.Serves id)
    (h : Matches known s.database merged) (hkeys : KeysSeparate known) {snapshots : List Snapshot}
    (hknown : ∀ n ∈ snapshots, ∀ r ∈ n.records, r ∈ known) :
    (s.log (persistAll id snapshots)).map (·.answer) =
        (merged.tallies snapshots).map (fun t => .ok (.persisted t)) ∧
      (s.run (persistAll id snapshots)).Serves id ∧
      Matches known (s.run (persistAll id snapshots)).database (merged.mergeAll snapshots) := by
  induction snapshots generalizing s merged with
  | nil => exact ⟨rfl, hs, h⟩
  | cons n ns ih =>
    obtain ⟨hanswer, hserves, hmatches⟩ := h.persist hs hkeys (hknown n List.mem_cons_self)
    obtain ⟨hanswers, hend⟩ := ih hserves hmatches fun n' hn' =>
      hknown n' (List.mem_cons_of_mem _ hn')
    exact ⟨congrArg₂ List.cons hanswer hanswers, hend⟩

/-- **Table and merge leave out the same records.**  Whatever snapshots are persisted in turn
into an empty table, each is answered with the tally of the merge; and if all years have four
digits a load finds, at the same places, the details that were merged, settled and in ascending
order: those very details, where their instants are settled. -/
theorem persistAll_agrees {s : Session} {id : Nat} (hs : s.Serves id)
    (hempty : s.database.rows = []) (snapshots : List Snapshot)
    (hkeys : KeysSeparate (snapshots.flatMap Snapshot.records)) :
    (s.log (persistAll id snapshots)).map (·.answer) =
        (Snapshot.empty.tallies snapshots).map (fun t => .ok (.persisted t)) ∧
      ((∀ r ∈ snapshots.flatMap Snapshot.records, r.hasPlainYear = true) →
        ∃ found, ((s.run (persistAll id snapshots)).step (.ask id (.load .never))).1 =
            .ok (.loaded found) ∧
          found.snapshot.places = (Snapshot.empty.mergeAll snapshots).places ∧
          ∀ k m, (found.snapshot.details k m).Perm
              (((Snapshot.empty.mergeAll snapshots).details k m).map Detail.settle) ∧
            (found.snapshot.details k m).Pairwise (fun a b => a.timestamp ≤ b.timestamp) ∧
            ((∀ r ∈ snapshots.flatMap Snapshot.records, r.Settled) →
              (found.snapshot.details k m).Perm
                ((Snapshot.empty.mergeAll snapshots).details k m))) := by
  have hknown : ∀ n ∈ snapshots, ∀ r ∈ n.records, r ∈ snapshots.flatMap Snapshot.records :=
    fun n hn r hr => List.mem_flatMap.mpr ⟨n, hn, hr⟩
  obtain ⟨hanswers, hend, hmatches⟩ := (matches_empty hempty _).persistAll hs hkeys hknown
  refine ⟨hanswers, fun hplain => ?_⟩
  -- the table holds rows of the records that were merged
  obtain ⟨rs, hrows, hperm⟩ := hmatches.rows
  -- as all their years are plain, a load finds every one of them, settled
  have hall : rs.filter Record.hasPlainYear = rs := List.filter_eq_self.mpr fun r hr =>
    hplain r (hmatches.subset r (hperm.mem_iff.mp hr))
  have hrecords : (Store.Loaded.ofRecords rs).snapshot.records.Perm
      (Snapshot.empty.mergeAll snapshots).settle.records := by
    have hfound := Store.Loaded.records_ofRecords rs
    rw [hall] at hfound
    rw [Snapshot.records_settle]
    exact hfound.trans (hperm.map _)
  have hdetails : ∀ k m, ((Store.Loaded.ofRecords rs).snapshot.details k m).Perm
      (((Snapshot.empty.mergeAll snapshots).details k m).map Detail.settle) := by
    intro k m
    rw [← Snapshot.details_settle]
    exact Snapshot.details_perm hrecords k m
  -- what holds of the records holds of the details at each place
  refine ⟨_, hend.load hrows, ?_, fun k m => ⟨hdetails k m, ?_, fun hsettled => ?_⟩⟩
  · refine Snapshot.places_eq_of_details (Store.Loaded.filled_ofRecords rs) hmatches.filled
      fun k m => ?_
    exact ⟨fun h => List.map_eq_nil_iff.mp (h ▸ hdetails k m).nil_eq.symm,
      fun h => by simpa [h] using hdetails k m⟩
  · exact Store.Loaded.ascending_ofRecords rs k m
  · have hself := Snapshot.settle_of_settled fun r hr => hsettled r (hmatches.subset r hr)
    have hfound := hdetails k m
    rwa [← Snapshot.details_settle, hself] at hfound

/-- Snapshots of the samples: one of them comes in both, one twice in the first, and there is an
empty level. -/
def overlapping : List Snapshot :=
  [Snapshot.ofRecords (sampleRecords ++ sampleRecords),
    (Snapshot.ofRecords (sampleRecords.take 1)).updateBucket "other" "model" id]

/-- Table and merge leave out the same records of the overlapping snapshots. -/
theorem persistAll_overlapping :
    (∀ r ∈ overlapping.flatMap Snapshot.records, r.hasPlainYear = true) ∧
      (Session.prepared.log (persistAll 0 overlapping)).map (·.answer) =
        (Snapshot.empty.tallies overlapping).map (fun t => .ok (.persisted t)) ∧
      ∃ found, ((Session.prepared.run (persistAll 0 overlapping)).step (.ask 0 (.load .never))).1 =
          .ok (.loaded found) ∧
        found.snapshot.places = (Snapshot.empty.mergeAll overlapping).places := by
  have hplain : ∀ r ∈ overlapping.flatMap Snapshot.records, r.hasPlainYear = true := by
    decide +kernel
  have hsamples : ∀ r ∈ overlapping.flatMap Snapshot.records, r ∈ sampleRecords := by decide +kernel
  obtain ⟨hanswers, hload⟩ := persistAll_agrees Session.serves_prepared rfl overlapping
    (keysSeparate_sampleRecords.of_subset hsamples)
  obtain ⟨found, hfound, hplaces, -⟩ := hload hplain
  exact ⟨hplain, hanswers, found, hfound, hplaces⟩

/-- A snapshot of one record, whose second is prolonged. -/
def prolongedSnapshot : Snapshot :=
  .ofRecords [prolongedRecord]

/-- **A load does not find just the details that were merged**: it finds one of the next second
in the place of one whose second is prolonged. -/
theorem load_of_prolongedSnapshot :
    KeysSeparate prolongedSnapshot.records ∧
      (∀ r ∈ prolongedSnapshot.records, r.hasPlainYear = true) ∧
      ∃ found, ((Session.prepared.run (persistAll 0 [prolongedSnapshot])).step
          (.ask 0 (.load .never))).1 = .ok (.loaded found) ∧
        (Snapshot.empty.mergeAll [prolongedSnapshot]).details "key" "model" =
          [prolongedRecord.detail] ∧
        found.snapshot.details "key" "model" = [nextSecondRecord.detail] ∧
        ¬(found.snapshot.details "key" "model").Perm
          ((Snapshot.empty.mergeAll [prolongedSnapshot]).details "key" "model") := by
  have hkeys : KeysSeparate prolongedSnapshot.records := by
    intro a ha b hb _
    obtain rfl := List.mem_singleton.mp ha
    exact (List.mem_singleton.mp hb).symm
  have hplain : ∀ r ∈ prolongedSnapshot.records, r.hasPlainYear = true := by decide
  obtain ⟨hanswer, hrows, hserves⟩ := Session.serves_prepared.persist prolongedSnapshot
  -- the row of the record is the only one
  have hone : (Session.prepared.run (persistAll 0 [prolongedSnapshot])).database.rows =
      [prolongedRecord].map Row.ofRecord := hrows.trans (by decide +kernel)
  have hload := hserves.load hone
  have hmerged : (Snapshot.empty.mergeAll [prolongedSnapshot]).details "key" "model" =
      [prolongedRecord.detail] := by decide +kernel
  have hfound : (Store.Loaded.ofRecords [prolongedRecord]).snapshot.details "key" "model" =
      [nextSecondRecord.detail] := by decide +kernel
  refine ⟨hkeys, hplain, _, hload, hmerged, hfound, ?_⟩
  rw [hmerged, hfound, List.singleton_perm_singleton]
  decide

end UsageLedger
