import UsageLedger.Proofs.Flushing
import UsageLedger.Proofs.Restoring
import UsageLedger.Proofs.Totaling

/-!
# A restart recovers what was counted

The live aggregate counts every event as it comes.  The store is given the same records in
whatever order their writes are finished, and leaves out those with known keys.  An empty
aggregate that is restored from the store holds what the live one held, but for what came again
with a known key, settled and in ascending order.

## Main definitions

* `Host.Restorable` — an empty aggregate with a store that it can be restored from.
* `Recovered` — a snapshot that recovers what another one counted.

## Main results

* `recovered_of_written` — what a load finds recovers what was counted, whatever the order of
  the writes.
* `restart_recovers` — **an aggregate restored after a flush recovers the live one.**
* `restart_recovers_publishAll` — in particular after events that are published one after the other.
* `restart_prolongedTraffic` — it does not hold the very details of a live one that is not settled.
-/

namespace UsageLedger

/-- A snapshot that recovers what another one holds of the records it counted. -/
structure Recovered (counted : List Record) (live restored : Snapshot) : Prop where
  /-- The buckets are the same. -/
  places : restored.places = live.places
  /-- A bucket has the details that were counted in it, settled, but for those that came again
  with a known key. -/
  details : ∀ k m, (restored.details k m).Perm
    ((fresh (keyUnder k m) [] (live.details k m)).map Detail.settle)
  /-- If all that was counted is settled, those are the very details. -/
  details_of_settled : (∀ r ∈ counted, r.Settled) → ∀ k m, (restored.details k m).Perm
    (fresh (keyUnder k m) [] (live.details k m))
  /-- A bucket ascends by instant. -/
  ascending : ∀ k m, (restored.details k m).Pairwise fun a b => a.timestamp ≤ b.timestamp
  /-- If no key came twice the totals are the same. -/
  totals : (counted.map Record.key).Nodup → restored.totals = live.totals
  /-- If no key came twice the totals of the buckets are the same. -/
  modelTotals : (counted.map Record.key).Nodup → restored.modelTotals = live.modelTotals

variable {counted written : List Record}

/-- Of the records written at a place the table keeps what is kept of those counted there. -/
theorem details_written_perm (hperm : written.Perm counted) (hkeys : KeysSeparate counted)
    (k m : String) :
    (((fresh Record.cellKey [] written).filter (Record.isAt k m)).map (·.detail)).Perm
      (fresh (keyUnder k m) [] ((counted.filter (Record.isAt k m)).map (·.detail))) := by
  -- keys tell the written records apart, as they tell apart those that were counted
  have hwritten : ∀ a ∈ written, ∀ b ∈ written, a.cellKey = b.cellKey → a = b :=
    fun a ha b hb hab =>
    hkeys a (hperm.mem_iff.mp ha) b (hperm.mem_iff.mp hb) (Record.cellKey_inj.mp hab)
  have hfilter : (fresh Record.cellKey [] written).filter (Record.isAt k m) =
      fresh Record.cellKey [] (written.filter (Record.isAt k m)) :=
    fresh_filter (fun a ha b hb hab => by rw [hwritten a ha b hb hab]) fun _ _ _ => Iff.rfl
  have horder : (fresh Record.cellKey [] (written.filter (Record.isAt k m))).Perm
      (fresh Record.cellKey [] (counted.filter (Record.isAt k m))) :=
    fresh_perm (hperm.filter _)
      (fun a ha b hb => hwritten a (List.mem_filter.mp ha).1 b (List.mem_filter.mp hb).1) []
  -- at one place, the key of a record is the key of its detail
  have hunder : fresh Record.cellKey [] (counted.filter (Record.isAt k m)) =
      fresh (fun r : Record => keyUnder k m r.detail) [] (counted.filter (Record.isAt k m)) := by
    refine fresh_congr_key (fun _ _ => by simp) fun a ha b hb => ?_
    rw [Record.keyUnder_of_isAt (List.mem_filter.mp ha).2,
      Record.keyUnder_of_isAt (List.mem_filter.mp hb).2]
    exact Record.cellKey_inj
  rw [hfilter, fresh_map, ← hunder]
  exact horder.map _

theorem records_written_perm (hperm : written.Perm counted)
    (hplain : ∀ r ∈ counted, r.hasPlainYear = true) :
    (Store.Loaded.ofRecords (fresh Record.cellKey [] written)).snapshot.records.Perm
      ((fresh Record.cellKey [] written).map Record.settle) := by
  have hall : (fresh Record.cellKey [] written).filter Record.hasPlainYear =
      fresh Record.cellKey [] written := List.filter_eq_self.mpr fun r hr =>
    hplain r (hperm.mem_iff.mp ((fresh_sublist _ _).subset hr))
  have hfound := Store.Loaded.records_ofRecords (fresh Record.cellKey [] written)
  rwa [hall] at hfound

/-- A bucket of what a load finds has the details that were counted in it, each once and settled. -/
theorem details_found_perm (hperm : written.Perm counted) (hkeys : KeysSeparate counted)
    (hplain : ∀ r ∈ counted, r.hasPlainYear = true) (k m : String) :
    ((Store.Loaded.ofRecords (fresh Record.cellKey [] written)).snapshot.details k m).Perm
      ((fresh (keyUnder k m) [] ((Snapshot.ofRecords counted).details k m)).map Detail.settle) := by
  -- settling a record keeps its place, and so can as well come after the choice of the place
  have hplace :
      (((fresh Record.cellKey [] written).map Record.settle).filter (Record.isAt k m)).map
        (·.detail) =
      (((fresh Record.cellKey [] written).filter (Record.isAt k m)).map (·.detail)).map
        Detail.settle := by
    rw [List.filter_map, List.map_map, List.map_map]
    rfl
  rw [Snapshot.details_eq_filter, Snapshot.details_ofRecords]
  refine (((records_written_perm hperm hplain).filter _).map _).trans ?_
  rw [hplace]
  exact (details_written_perm hperm hkeys k m).map _

/-- Where no key came twice nothing is left out: a load finds the records that were counted, once
they are settled. -/
theorem records_found_perm (hperm : written.Perm counted)
    (hplain : ∀ r ∈ counted, r.hasPlainYear = true) (hdistinct : (counted.map Record.key).Nodup) :
    (Store.Loaded.ofRecords (fresh Record.cellKey [] written)).snapshot.records.Perm
      (Snapshot.ofRecords counted).settle.records := by
  have hcells : (written.map Record.cellKey).Nodup := by
    have hkeys := (hperm.map Record.key).nodup_iff.mpr hdistinct
    rw [List.Nodup, List.pairwise_map] at hkeys ⊢
    exact hkeys.imp fun hne hab => hne (Record.cellKey_inj.mp hab)
  have hfound := records_written_perm hperm hplain
  rw [fresh_eq_self (by simpa using hcells)] at hfound ⊢
  rw [Snapshot.records_settle]
  exact hfound.trans ((hperm.trans (Snapshot.records_ofRecords_perm counted).symm).map _)

theorem settle_of_mem_details (hsettled : ∀ r ∈ counted, r.Settled) {k m : String} {d : Detail}
    (hd : d ∈ (Snapshot.ofRecords counted).details k m) : d.settle = d := by
  have hmem := (Snapshot.mem_records_iff _ ⟨k, m, d⟩).mpr hd
  exact Detail.settle_of_settled
    (hsettled _ ((Snapshot.records_ofRecords_perm counted).mem_iff.mp hmem))

/-- **What a load finds recovers what was counted**, whatever the order in which the writes are
finished. -/
theorem recovered_of_written (hperm : written.Perm counted) (hkeys : KeysSeparate counted)
    (hplain : ∀ r ∈ counted, r.hasPlainYear = true)
    (hnonneg : ∀ r ∈ counted, r.detail.tokens.Nonnegative) :
    Recovered counted (Snapshot.ofRecords counted)
      (Store.Loaded.ofRecords (fresh Record.cellKey [] written)).snapshot := by
  have hdetails := details_found_perm hperm hkeys hplain
  have hplaces : (Store.Loaded.ofRecords (fresh Record.cellKey [] written)).snapshot.places =
      (Snapshot.ofRecords counted).places := by
    refine Snapshot.places_eq_of_details (Store.Loaded.filled_ofRecords _)
      (Snapshot.filled_ofRecords _) fun k m => ?_
    have hnil := (hdetails k m).length_eq
    rw [← List.length_eq_zero_iff, hnil, List.length_map, List.length_eq_zero_iff, fresh_eq_nil_iff]
    simp [List.eq_nil_iff_forall_not_mem]
  have hcounts : ∀ r ∈ (Store.Loaded.ofRecords (fresh Record.cellKey [] written)).snapshot.records,
      r.detail.tokens.Nonnegative := by
    intro r hr
    obtain ⟨r', hr', rfl⟩ := List.mem_map.mp ((records_written_perm hperm hplain).mem_iff.mp hr)
    exact hnonneg r' (hperm.mem_iff.mp ((fresh_sublist _ _).subset hr'))
  refine ⟨hplaces, hdetails, fun hsettled k m => ?_, Store.Loaded.ascending_ofRecords _,
    fun hdistinct => ?_, fun hdistinct => ?_⟩
  · have hself : ∀ d ∈ fresh (keyUnder k m) [] ((Snapshot.ofRecords counted).details k m),
        d.settle = d :=
      fun d hd => settle_of_mem_details hsettled ((fresh_sublist _ _).subset hd)
    have hfound := hdetails k m
    rwa [List.map_congr_left hself, List.map_id'] at hfound
  · have hsame := records_found_perm hperm hplain hdistinct
    rw [Snapshot.totals_perm hsame hcounts, Snapshot.totals_settle]
  · have hsame := records_found_perm hperm hplain hdistinct
    have hplaces' := hplaces.trans (Snapshot.places_settle _).symm
    rw [Snapshot.modelTotals_perm hsame hplaces' hcounts, Snapshot.modelTotals_settle]

theorem nonnegative_of_mem_published {xs : List Happening} {r : Record} (h : r ∈ published xs) :
    r.detail.tokens.Nonnegative := by
  obtain ⟨x, -, hr⟩ := List.mem_flatMap.mp h
  cases x with
  | publish e c now turns =>
    obtain rfl := List.mem_singleton.mp hr
    exact e.nonnegative_normalize c now
  | _ => cases hr

namespace Host

/-- An aggregate that is empty, and a bridge that has it and a store that is ready. -/
structure Restorable (g : Host) (bridge store aggregate : Nat) : Prop where
  /-- The bridge has the two. -/
  tied : ∃ toggle backlog, g.bridges[bridge]? = some ⟨some store, some aggregate, toggle, backlog⟩
  /-- The store is ready. -/
  ready : g.Ready store
  /-- The aggregate is there. -/
  there : aggregate < g.aggregates.length
  /-- It counted nothing yet. -/
  empty : g.aggregate aggregate = .empty

/-- **An empty aggregate that is restored** takes over what the store holds. -/
theorem Restorable.loadAndMerge {g : Host} {bridge store aggregate : Nat}
    (hg : g.Restorable bridge store aggregate) {rs : List Record}
    (hrows : (g.databaseAt store).rows = rs.map Row.ofRecord) (hkeys : (rs.map Record.key).Nodup) :
    ∃ g', g.loadAndMerge bridge =
        (.ok (some ⟨(Store.Loaded.ofRecords rs).snapshot.recordCount, 0⟩), g') ∧
      g'.aggregate aggregate = (Store.Loaded.ofRecords rs).snapshot := by
  obtain ⟨toggle, backlog, hbridge⟩ := hg.tied
  obtain ⟨held, c, hget, -, hready⟩ := hg.ready.store
  have hshape := hg.ready.guarded.shape_eq
  obtain ⟨g₁, hload⟩ := load_ok hget hready hshape (Store.readRows_ofRecords hshape hrows)
  have hparts := g.sameParts_load store .never
  rw [hload] at hparts
  -- what was loaded has the keys of the rows, no two of them the same
  have hdistinct : ((Store.Loaded.ofRecords rs).snapshot.records.map Record.key).Nodup := by
    have hperm := (Store.Loaded.records_ofRecords rs).map Record.key
    rw [hperm.nodup_iff, Record.map_key_settle]
    exact hkeys.sublist (List.filter_sublist.map _)
  have hmerge := Snapshot.merge_empty (Store.Loaded.filled_ofRecords rs) hdistinct
  refine ⟨g₁.setAggregate aggregate (Store.Loaded.ofRecords rs).snapshot, ?_, ?_⟩
  · rw [loadAndMerge_eq hbridge rfl rfl, hload]
    simp only [hg.empty, hmerge]
  · exact aggregate_setAggregate (hparts.aggregates ▸ hg.there) _

end Host

/-- A restore of an empty aggregate from rows to which all that was counted was written recovers
it. -/
theorem Host.Delivered.restart {h t : Host} {k : Circuit} {counted : List Record}
    (hd : Host.Delivered k h counted counted t) (hdone : t.waiting k.bridge = [])
    (hempty : (h.databaseAt k.store).rows = []) (hnew : h.aggregate k.aggregate = .empty)
    (hkeys : KeysSeparate counted) (hplain : ∀ r ∈ counted, r.hasPlainYear = true)
    (hnonneg : ∀ r ∈ counted, r.detail.tokens.Nonnegative)
    {g : Host} {bridge store aggregate : Nat} (hg : g.Restorable bridge store aggregate)
    (hrows : (g.databaseAt store).rows = (t.databaseAt k.store).rows) :
    ∃ g', g.loadAndMerge bridge = (.ok (some ⟨(counted.map Record.key).dedup.length, 0⟩), g') ∧
      Recovered counted (t.aggregate k.aggregate) (g'.aggregate aggregate) := by
  obtain ⟨written, hperm, htable⟩ := hd.rows
  rw [hdone, List.append_nil] at hperm
  rw [Database.keys, hempty, List.map_nil, List.nil_append, ← hrows] at htable
  have hlive : t.aggregate k.aggregate = Snapshot.ofRecords counted := by
    rw [hd.aggregate, hnew]
    rfl
  have hkept : fresh Record.cellKey [] written = fresh Record.key [] written :=
    fresh_congr_key (fun _ _ => by simp) fun a _ b _ => Record.cellKey_inj
  have hdistinct : ((fresh Record.cellKey [] written).map Record.key).Nodup := by
    rw [hkept]
    exact nodup_map_fresh [] written
  -- one record is found for each key, whatever the order of the writes
  have hcount : (Store.Loaded.ofRecords (fresh Record.cellKey [] written)).snapshot.recordCount =
      (counted.map Record.key).dedup.length := by
    rw [Snapshot.recordCount_eq, (records_written_perm hperm hplain).length_eq, List.length_map,
      hkept, length_fresh_nil]
    exact (hperm.map Record.key).dedup.length_eq
  obtain ⟨g', hrestore, hrestored⟩ := hg.loadAndMerge htable hdistinct
  rw [hcount] at hrestore
  refine ⟨g', hrestore, ?_⟩
  rw [hlive, hrestored]
  exact recovered_of_written hperm hkeys hplain hnonneg

/-- **An aggregate restored after a flush recovers the live one.**  Events are published while
the toggle is on, their writes are finished in whatever order, nothing is lost, and the rest is
flushed.  Whoever then finds the rows of the store, and restores an empty aggregate from them,
recovers what was counted; as many records are added as there were different keys, and none is
skipped. -/
theorem restart_recovers {h : Host} {k : Circuit} (hw : h.Wired k) (hr : h.Ready k.store)
    (hon : h.isOn k.toggle = true) (hidle : h.waiting k.bridge = [])
    (hempty : (h.databaseAt k.store).rows = []) (hnew : h.aggregate k.aggregate = .empty)
    {xs : List Happening} (hxs : ∀ x ∈ xs, x.isTraffic = true)
    (hl : h.Lossless ((h.run k xs).flush k.bridge)) (hkeys : KeysSeparate (published xs))
    (hplain : ∀ r ∈ published xs, r.hasPlainYear = true)
    {g : Host} {bridge store aggregate : Nat} (hg : g.Restorable bridge store aggregate)
    (hrows : (g.databaseAt store).rows = (((h.run k xs).flush k.bridge).databaseAt k.store).rows) :
    ∃ g', g.loadAndMerge bridge =
        (.ok (some ⟨((published xs).map Record.key).dedup.length, 0⟩), g') ∧
      Recovered (published xs) (((h.run k xs).flush k.bridge).aggregate k.aggregate)
        (g'.aggregate aggregate) := by
  obtain ⟨hd, hdone⟩ := Host.delivered_flush hw hon hr hidle hxs hl
  exact hd.restart hdone hempty hnew hkeys hplain (fun r => nonnegative_of_mem_published) hg hrows

/-- So what was published one event after the other, each in one go, is recovered. -/
theorem restart_recovers_publishAll {h : Host} {k : Circuit} (hw : h.Wired k) (hr : h.Ready k.store)
    (hon : h.isOn k.toggle = true) (hidle : h.waiting k.bridge = [])
    (hempty : (h.databaseAt k.store).rows = []) (hnew : h.aggregate k.aggregate = .empty)
    (hs : Host.Sole k h) (es : List (Event × Context × Instant)) {rs : List Record}
    (hrs : rs = es.map fun (e, c, now) => e.normalize c now)
    (hl : h.Lossless ((h.publishAll k.dispatcher es).flush k.bridge)) (hkeys : KeysSeparate rs)
    (hplain : ∀ r ∈ rs, r.hasPlainYear = true)
    {g : Host} {bridge store aggregate : Nat} (hg : g.Restorable bridge store aggregate)
    (hrows : (g.databaseAt store).rows =
      (((h.publishAll k.dispatcher es).flush k.bridge).databaseAt k.store).rows) :
    ∃ g', g.loadAndMerge bridge = (.ok (some ⟨(rs.map Record.key).dedup.length, 0⟩), g') ∧
      Recovered rs (((h.publishAll k.dispatcher es).flush k.bridge).aggregate k.aggregate)
        (g'.aggregate aggregate) := by
  obtain ⟨xs, hrun, hxs, hpublished⟩ := Host.exists_run_of_publishAll hw hs es
  obtain rfl := hrs.trans hpublished.symm
  rw [hrun] at hl hrows ⊢
  obtain ⟨hd, hdone⟩ := Host.delivered_flush hw hon hr hidle hxs hl
  exact hd.restart hdone hempty hnew hkeys hplain (fun r => nonnegative_of_mem_published) hg hrows

/-- A host with a store, an aggregate, and a dispatcher whose events wait for the store before
they are counted. -/
def patientHost : Host :=
  { smallHost with bridges := [⟨some 0, some 0, 0, .ofLimit 3⟩] }

/-- A host that finds the store of another one, and counted nothing yet. -/
def Host.restarted (h : Host) : Host :=
  { h with aggregates := [.empty], bridges := [⟨some 0, some 0, 0, .ofLimit 1⟩] }

theorem Host.restorable_restarted {h : Host} (hr : h.Ready 0) : h.restarted.Restorable 0 0 0 :=
  ⟨⟨_, _, rfl⟩, ⟨hr.store, hr.guarded⟩, Nat.zero_lt_one, rfl⟩

theorem Host.rows_restarted (h : Host) (id : Nat) :
    (h.restarted.databaseAt id).rows = (h.databaseAt id).rows := rfl

/-- The event of the first sample. -/
def sampleEvent : Event :=
  { requestedAt := some .epoch, apiKey := "k", model := "m" }

/-- Two events, the second of which is written first, and the first of which comes again. -/
def repeatedTraffic : List Happening :=
  [.publish sampleEvent {} .epoch [],
    .publish { sampleEvent with failed := true } {} .epoch
      [{ now := .epoch, after := [.finish 1] }],
    .publish sampleEvent {} .epoch []]

theorem wired_patientHost : patientHost.Wired smallCircuit :=
  ⟨.swap _ _ _, ⟨_, rfl⟩, by decide⟩

theorem ready_patientHost : patientHost.Ready 0 where
  store := ⟨_, _, rfl, by rintro _ ⟨⟩; rfl, rfl⟩
  guarded := ⟨_, rfl, rfl⟩

theorem lossless_repeatedTraffic :
    patientHost.Lossless ((patientHost.run smallCircuit repeatedTraffic).flush
      smallCircuit.bridge) := by
  have hlog : ((patientHost.run smallCircuit repeatedTraffic).flush smallCircuit.bridge).log =
      [] := by
    decide +kernel
  exact ⟨[], hlog, by simp⟩

/-- A restart after the repeated traffic recovers what was counted. -/
theorem restart_recovers_repeatedTraffic :
    (∀ x ∈ repeatedTraffic, x.isTraffic = true) ∧ KeysSeparate (published repeatedTraffic) ∧
      (∀ r ∈ published repeatedTraffic, r.hasPlainYear = true) ∧
      ∃ t g', t = (patientHost.run smallCircuit repeatedTraffic).flush smallCircuit.bridge ∧
        t.restarted.loadAndMerge 0 =
          (.ok (some ⟨((published repeatedTraffic).map Record.key).dedup.length, 0⟩), g') ∧
        Recovered (published repeatedTraffic) (t.aggregate 0) (g'.aggregate 0) := by
  have hxs : ∀ x ∈ repeatedTraffic, x.isTraffic = true := by decide
  have hkeys : KeysSeparate (published repeatedTraffic) :=
    keysSeparate_sampleRecords.of_subset (by decide +kernel)
  have hplain : ∀ r ∈ published repeatedTraffic, r.hasPlainYear = true := by decide +kernel
  have hready := (Host.delivered_flush wired_patientHost rfl ready_patientHost rfl hxs
    lossless_repeatedTraffic).1.ready
  obtain ⟨g', hrestore, hrecovered⟩ :=
    restart_recovers wired_patientHost ready_patientHost rfl rfl rfl rfl hxs
      lossless_repeatedTraffic hkeys hplain (Host.restorable_restarted hready)
      (Host.rows_restarted _ 0)
  exact ⟨hxs, hkeys, hplain, _, g', rfl, hrestore, hrecovered⟩

/-- One event, whose second is prolonged. -/
def prolongedTraffic : List Happening :=
  [.publish
    { apiKey := "key", model := "model", requestedAt := some prolongedRecord.detail.timestamp }
    {} .epoch []]

/-- **A restart does not recover the very details of the live aggregate**: it has one of the
next second in the place of one whose second is prolonged. -/
theorem restart_prolongedTraffic :
    KeysSeparate (published prolongedTraffic) ∧
      (∀ r ∈ published prolongedTraffic, r.hasPlainYear = true) ∧
      ∃ t g', t = (patientHost.run smallCircuit prolongedTraffic).flush smallCircuit.bridge ∧
        patientHost.Lossless t ∧ t.restarted.loadAndMerge 0 = (.ok (some ⟨1, 0⟩), g') ∧
        (t.aggregate 0).details "key" "model" = [prolongedRecord.detail] ∧
        (g'.aggregate 0).details "key" "model" = [nextSecondRecord.detail] ∧
        nextSecondRecord.detail ≠ prolongedRecord.detail := by
  have hpublished : published prolongedTraffic = [prolongedRecord] := by decide
  have hxs : ∀ x ∈ prolongedTraffic, x.isTraffic = true := by decide
  have hlossless : patientHost.Lossless
      ((patientHost.run smallCircuit prolongedTraffic).flush smallCircuit.bridge) := by
    have hlog : ((patientHost.run smallCircuit prolongedTraffic).flush smallCircuit.bridge).log =
        [] := by
      decide +kernel
    exact ⟨[], hlog, by simp⟩
  have hready :=
    (Host.delivered_flush wired_patientHost rfl ready_patientHost rfl hxs hlossless).1.ready
  -- the row of the prolonged second reads as one in the second after it
  have hrows : (((patientHost.run smallCircuit prolongedTraffic).flush
      smallCircuit.bridge).restarted.databaseAt 0).rows = [prolongedRecord].map Row.ofRecord := by
    decide +kernel
  obtain ⟨g', hrestore, hrestored⟩ :=
    (Host.restorable_restarted hready).loadAndMerge hrows (List.nodup_singleton _)
  have hcount : (Store.Loaded.ofRecords [prolongedRecord]).snapshot.recordCount = 1 := by
    decide +kernel
  rw [hcount] at hrestore
  rw [hpublished]
  refine ⟨fun a ha b hb _ => ?_, by decide, _, g', rfl, hlossless, hrestore, ?_, ?_, by decide⟩
  · rw [List.mem_singleton.mp ha, List.mem_singleton.mp hb]
  · decide +kernel
  · rw [hrestored]
    decide +kernel

end UsageLedger
