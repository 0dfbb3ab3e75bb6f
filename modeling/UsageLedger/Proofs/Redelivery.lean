import UsageLedger.Proofs.Recovery

/-!
# Events that are delivered again

An event that carries its time can be delivered any number of times.  The store takes its record
in once: its rows are those that it has after every event was delivered once.  The live
aggregate counts every delivery, and so do its totals; what it holds but for the details that
came again with a known key does not change.

## Main definitions

* `deliveries`, `deliveredRecord` — the events that are delivered with their contexts, and their
  records.
* `Redelivered` — two hosts, one of which was delivered further events that it had before.

## Main results

* `redelivery_stored_once` — **further deliveries are counted, and not stored.**
* `redelivery_shows_in_totals` — the totals show that an event was delivered twice.
-/

namespace UsageLedger

/-- The event that is delivered, with its context. -/
def Happening.deliveries : Happening → List (Event × Context)
  | publish e c _ _ => [(e, c)]
  | aside _ | toggle _ => []

/-- The events that are delivered, one after the other. -/
def deliveries (xs : List Happening) : List (Event × Context) :=
  xs.flatMap Happening.deliveries

/-- The record of an event that carries its time. -/
def deliveredRecord (d : Event × Context) : Record :=
  d.1.normalize d.2 .epoch

/-- The records that are published are those of the deliveries, if all events carry their times. -/
theorem published_eq_map_deliveries {xs : List Happening}
    (h : ∀ d ∈ deliveries xs, d.1.requestedAt.isSome = true) :
    published xs = (deliveries xs).map deliveredRecord := by
  rw [published, deliveries, List.map_flatMap]
  refine List.flatMap_congr fun x hx => ?_
  cases x with
  | publish e c now turns =>
    have hstamped : e.requestedAt.isSome = true :=
      h (e, c) (List.mem_flatMap.mpr ⟨_, hx, List.mem_singleton_self _⟩)
    obtain ⟨t, ht⟩ := Option.isSome_iff_exists.mp hstamped
    simp [Happening.records, Happening.deliveries, deliveredRecord, Event.normalize, ht]
  | _ => rfl

theorem fresh_map_once {α β κ : Type} [DecidableEq α] [DecidableEq κ] (f : α → β) (keyOf : β → κ)
    (seen : List κ) (as : List α) :
    fresh keyOf seen ((fresh id [] as).map f) = fresh keyOf seen (as.map f) := by
  rw [fresh_map, fresh_map]
  exact congrArg (List.map f) (fresh_fresh (fun a b hab => congrArg (fun a => keyOf (f a)) hab)
    fun _ _ hmet => by cases hmet)

theorem details_delivered (ds : List (Event × Context)) (k m : String) :
    (((ds.map deliveredRecord).filter (Record.isAt k m)).map (·.detail)) =
      (ds.filter fun d => (deliveredRecord d).isAt k m).map fun d =>
        (deliveredRecord d).detail := by
  rw [List.filter_map, List.map_map]
  rfl

/-- Two hosts, of which one was delivered further events that it had before. -/
structure Redelivered (k : Circuit) (once again : Host) (extra : List (Event × Context)) :
    Prop where
  /-- The keys in the table are the same. -/
  keys : ∀ key, key ∈ (again.databaseAt k.store).keys ↔ key ∈ (once.databaseAt k.store).keys
  /-- Each further delivery has its record in the aggregate. -/
  records : (again.aggregate k.aggregate).records.Perm
    ((once.aggregate k.aggregate).records ++ extra.map deliveredRecord)
  /-- The aggregate has the same buckets. -/
  places : (again.aggregate k.aggregate).places = (once.aggregate k.aggregate).places
  /-- A bucket has the same details, but for those that came again with a known key. -/
  details : ∀ key model, fresh (keyUnder key model) []
    ((again.aggregate k.aggregate).details key model) =
    fresh (keyUnder key model) [] ((once.aggregate k.aggregate).details key model)
  /-- Each further delivery counts as a request. -/
  requests : (again.aggregate k.aggregate).totals.requests =
    (once.aggregate k.aggregate).totals.requests + extra.length

theorem Host.Delivered.mem_keys_iff {h₀ h : Host} {k : Circuit} {counted handed : List Record}
    (hd : Host.Delivered k h₀ counted handed h) (hdone : h.waiting k.bridge = []) (key : Cell) :
    key ∈ (h.databaseAt k.store).keys ↔
      key ∈ (h₀.databaseAt k.store).keys ++ handed.map Record.cellKey := by
  obtain ⟨written, hperm, hrows⟩ := hd.rows
  rw [hdone, List.append_nil] at hperm
  have hkeys : (h.databaseAt k.store).keys = (h₀.databaseAt k.store).keys ++
      (fresh Record.cellKey (h₀.databaseAt k.store).keys written).map Record.cellKey :=
    Database.keys_append hrows
  rw [hkeys, mem_append_map_fresh, List.mem_append, List.mem_append, (hperm.map _).mem_iff]

theorem Host.Delivered.rows_perm {h₀ h : Host} {k : Circuit} {counted handed : List Record}
    (hd : Host.Delivered k h₀ counted handed h) (hdone : h.waiting k.bridge = [])
    (hkeys : KeysSeparate handed) :
    (h.databaseAt k.store).rows.Perm ((h₀.databaseAt k.store).rows ++
      (fresh Record.cellKey (h₀.databaseAt k.store).keys handed).map Row.ofRecord) := by
  obtain ⟨written, hperm, hrows⟩ := hd.rows
  rw [hdone, List.append_nil] at hperm
  rw [hrows]
  have hwritten := fresh_perm hperm
    (fun a ha b hb hab => hkeys a (hperm.mem_iff.mp ha) b (hperm.mem_iff.mp hb)
      (Record.cellKey_inj.mp hab))
    (h₀.databaseAt k.store).keys
  exact (hwritten.map _).append_left _

/-- **Further deliveries are counted, and not stored.**  From the same start two sequences of
events are published, all of which carry their times; the second one has every event of the
first one, and some of them again.  The writes are finished in whatever order, nothing is lost,
and the rest is flushed.  Then the table has the same keys, and the same rows where keys tell
the records apart; the aggregate has each further delivery as a request. -/
theorem redelivery_stored_once {h : Host} {k : Circuit} (hw : h.Wired k) (hr : h.Ready k.store)
    (hon : h.isOn k.toggle = true) (hidle : h.waiting k.bridge = []) {xs ys : List Happening}
    (hxs : ∀ x ∈ xs, x.isTraffic = true) (hys : ∀ y ∈ ys, y.isTraffic = true)
    (hstamped : ∀ d ∈ deliveries ys, d.1.requestedAt.isSome = true)
    (honce : deliveries xs = fresh id [] (deliveries ys))
    (hlx : h.Lossless ((h.run k xs).flush k.bridge))
    (hly : h.Lossless ((h.run k ys).flush k.bridge)) :
    ∃ extra, (deliveries ys).Perm (deliveries xs ++ extra) ∧
      Redelivered k ((h.run k xs).flush k.bridge) ((h.run k ys).flush k.bridge) extra ∧
      (KeysSeparate (published ys) →
        (((h.run k ys).flush k.bridge).databaseAt k.store).rows.Perm
          (((h.run k xs).flush k.bridge).databaseAt k.store).rows) := by
  obtain ⟨hdx, hx⟩ := Host.delivered_flush hw hon hr hidle hxs hlx
  obtain ⟨hdy, hy⟩ := Host.delivered_flush hw hon hr hidle hys hly
  generalize (h.run k xs).flush k.bridge = once at *
  generalize (h.run k ys).flush k.bridge = again at *
  have hsub : (deliveries xs).Sublist (deliveries ys) := honce ▸ fresh_sublist [] (deliveries ys)
  have hys' : published ys = (deliveries ys).map deliveredRecord :=
    published_eq_map_deliveries hstamped
  have hxs' : published xs = (deliveries xs).map deliveredRecord :=
    published_eq_map_deliveries fun d hd => hstamped d (hsub.subset hd)
  -- whatever asks for keys finds the same in both sequences
  have hsame : ∀ (seen : List Cell), fresh Record.cellKey seen (published xs) =
      fresh Record.cellKey seen (published ys) := fun seen => by
    rw [hxs', hys', honce, fresh_map_once]
  have hmem : ∀ r, r ∈ published xs ↔ r ∈ published ys := by
    intro r
    rw [hxs', hys', List.mem_map, List.mem_map]
    refine exists_congr fun d => and_congr_left fun _ => ⟨fun hd => hsub.subset hd, fun hd => ?_⟩
    rw [honce]
    have hmet := @mem_keys_fresh _ _ _ id [] (deliveries ys) d hd
    simpa using hmet
  obtain ⟨extra, hextra⟩ := hsub.exists_perm_append
  have hrecords : (again.aggregate k.aggregate).records.Perm
      ((once.aggregate k.aggregate).records ++ extra.map deliveredRecord) := by
    have hpublished : (published ys).Perm (published xs ++ extra.map deliveredRecord) := by
      rw [hys', hxs', ← List.map_append]
      exact hextra.map _
    rw [hdx.aggregate, hdy.aggregate]
    refine (Snapshot.records_foldl_push_perm _ _).trans ((hpublished.append_left _).trans ?_)
    rw [← List.append_assoc]
    exact (Snapshot.records_foldl_push_perm _ _).symm.append_right _
  refine ⟨extra, hextra, ⟨fun key => ?_, hrecords, ?_, fun key model => ?_, ?_⟩, fun hkeys => ?_⟩
  · rw [hdx.mem_keys_iff hx, hdy.mem_keys_iff hy]
    simp only [List.mem_append, List.mem_map, hmem]
  · rw [hdx.aggregate, hdy.aggregate]
    refine Snapshot.places_eq_of_mem fun key model => ?_
    simp only [Snapshot.mem_places_foldl_push, hmem]
  · have honceThere : (deliveries xs).filter (fun d => (deliveredRecord d).isAt key model) =
        fresh id [] ((deliveries ys).filter fun d => (deliveredRecord d).isAt key model) := by
      rw [honce]
      exact fresh_filter (fun a _ b _ hab => by rw [show a = b from hab]) fun _ _ _ => Iff.rfl
    rw [hdx.aggregate, hdy.aggregate, Snapshot.details_foldl_push, Snapshot.details_foldl_push,
      fresh_append, fresh_append, hxs', hys', details_delivered, details_delivered, honceThere,
      fresh_map_once]
  · rw [Snapshot.requests_totals, Snapshot.requests_totals, hrecords.length_eq, List.length_append,
      List.length_map]
  · have hagain := hdy.rows_perm hy hkeys
    rw [← hsame] at hagain
    exact hagain.trans (hdx.rows_perm hx fun a ha b hb =>
      hkeys a ((hmem a).mp ha) b ((hmem b).mp hb)).symm

/-- An event that is published a number of times. -/
def publishedTimes (n : Nat) : List Happening :=
  List.replicate n (.publish sampleEvent {} .epoch [])

theorem lossless_publishedTwice :
    patientHost.Lossless ((patientHost.run smallCircuit (publishedTimes 2)).flush
      smallCircuit.bridge) := by
  have hlog : ((patientHost.run smallCircuit (publishedTimes 2)).flush smallCircuit.bridge).log =
      [] := by
    decide +kernel
  exact ⟨[], hlog, by simp⟩

theorem lossless_publishedOnce :
    patientHost.Lossless ((patientHost.run smallCircuit (publishedTimes 1)).flush
      smallCircuit.bridge) := by
  have hlog : ((patientHost.run smallCircuit (publishedTimes 1)).flush smallCircuit.bridge).log =
      [] := by
    decide +kernel
  exact ⟨[], hlog, by simp⟩

/-- An event that is published twice is one further delivery, and the table has the same row. -/
theorem redelivery_publishedTwice :
    (∀ x ∈ publishedTimes 1, x.isTraffic = true) ∧ (∀ y ∈ publishedTimes 2, y.isTraffic = true) ∧
      (∀ d ∈ deliveries (publishedTimes 2), d.1.requestedAt.isSome = true) ∧
      deliveries (publishedTimes 1) = fresh id [] (deliveries (publishedTimes 2)) ∧
      ∃ once again, once = (patientHost.run smallCircuit (publishedTimes 1)).flush
        smallCircuit.bridge ∧
        again = (patientHost.run smallCircuit (publishedTimes 2)).flush smallCircuit.bridge ∧
        Redelivered smallCircuit once again [(sampleEvent, {})] ∧
        (again.databaseAt smallCircuit.store).rows.Perm
          (once.databaseAt smallCircuit.store).rows := by
  have hxs : ∀ x ∈ publishedTimes 1, x.isTraffic = true := by decide
  have hys : ∀ y ∈ publishedTimes 2, y.isTraffic = true := by decide
  have hstamped : ∀ d ∈ deliveries (publishedTimes 2), d.1.requestedAt.isSome = true := by decide
  have honce : deliveries (publishedTimes 1) = fresh id [] (deliveries (publishedTimes 2)) := by
    decide +kernel
  have hkeys : KeysSeparate (published (publishedTimes 2)) :=
    keysSeparate_sampleRecords.of_subset (by decide +kernel)
  obtain ⟨extra, hperm, hredelivered, hrows⟩ :=
    redelivery_stored_once wired_patientHost ready_patientHost rfl rfl hxs hys hstamped honce
      lossless_publishedOnce lossless_publishedTwice
  have hextra : [(sampleEvent, ({} : Context))].Perm extra := List.perm_cons _ |>.mp hperm
  rw [List.singleton_perm] at hextra
  exact ⟨hxs, hys, hstamped, honce, _, _, rfl, rfl, hextra ▸ hredelivered, hrows hkeys⟩

/-- **The totals show that an event was delivered twice**, although nothing was lost. -/
theorem redelivery_shows_in_totals :
    (∀ y ∈ publishedTimes 2, y.isTraffic = true) ∧
      (∀ d ∈ deliveries (publishedTimes 2), d.1.requestedAt.isSome = true) ∧
      deliveries (publishedTimes 1) = fresh id [] (deliveries (publishedTimes 2)) ∧
      ∃ once again, once = (patientHost.run smallCircuit (publishedTimes 1)).flush
        smallCircuit.bridge ∧
        again = (patientHost.run smallCircuit (publishedTimes 2)).flush smallCircuit.bridge ∧
        patientHost.Lossless once ∧ patientHost.Lossless again ∧
        (once.aggregate 0).totals.requests = 1 ∧ (again.aggregate 0).totals.requests = 2 ∧
        (once.aggregate 0).modelTotals.map (fun row => row.2.2.requests) = [1] ∧
        (again.aggregate 0).modelTotals.map (fun row => row.2.2.requests) = [2] := by
  have hxs : ∀ x ∈ publishedTimes 1, x.isTraffic = true := by decide
  have hys : ∀ y ∈ publishedTimes 2, y.isTraffic = true := by decide
  -- the aggregate counts every delivery, the second one of the event too
  have honce :
      ((patientHost.run smallCircuit (publishedTimes 1)).flush smallCircuit.bridge).aggregate 0 =
      Snapshot.ofRecords (published (publishedTimes 1)) :=
    (Host.delivered_flush wired_patientHost rfl ready_patientHost rfl hxs
      lossless_publishedOnce).1.aggregate
  have htwice :
      ((patientHost.run smallCircuit (publishedTimes 2)).flush smallCircuit.bridge).aggregate 0 =
      Snapshot.ofRecords (published (publishedTimes 2)) :=
    (Host.delivered_flush wired_patientHost rfl ready_patientHost rfl hys
      lossless_publishedTwice).1.aggregate
  refine ⟨hys, by decide, by decide +kernel, _, _, rfl, rfl, lossless_publishedOnce,
    lossless_publishedTwice, ?_, ?_, ?_, ?_⟩
  · rw [honce]
    decide +kernel
  · rw [htwice]
    decide +kernel
  · rw [honce]
    decide +kernel
  · rw [htwice]
    decide +kernel

end UsageLedger
