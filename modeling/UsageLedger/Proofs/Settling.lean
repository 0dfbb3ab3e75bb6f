import UsageLedger.Database.Row
import UsageLedger.Proofs.Places
import UsageLedger.Proofs.ShownTime

/-!
# Settled records

Whatever is written of a record holds its instant as calendar and clock show it.  So what is
written does not tell a record from the one whose instant is settled: both have the same bytes,
the same key and the same row, and it is the settled one that is read back.

## Main definitions

* `Detail.settle`, `Record.settle` — a detail and a record with the settled instant in the place of
  theirs.
* `Detail.Settled`, `Record.Settled` — the instant is settled.
* `Snapshot.settle` — a snapshot with all its details settled.

## Main results

* `Record.settle_eq_self_iff` — settling changes just the records that are not settled.
* `Record.key_settle`, `Row.ofRecord_settle` — **a record and the settled one have one key and one
  row.**
* `Snapshot.settle_eq_self_iff` — settling changes just the snapshots with a record that is not
  settled. -/

namespace UsageLedger

namespace Detail

/-- The instant of the detail is settled. -/
def Settled (d : Detail) : Prop :=
  d.timestamp.Settled

instance (d : Detail) : Decidable d.Settled :=
  inferInstanceAs (Decidable d.timestamp.Settled)

/-- The detail with the settled instant. -/
def settle (d : Detail) : Detail :=
  { d with timestamp := d.timestamp.settle }

theorem settle_eq_self_iff {d : Detail} : d.settle = d ↔ d.Settled := by
  obtain ⟨timestamp, source, authIndex, tokens, failed⟩ := d
  simp [settle, Settled, Instant.settle_eq_self_iff]

theorem settle_of_settled {d : Detail} (h : d.Settled) : d.settle = d :=
  settle_eq_self_iff.mpr h

end Detail

namespace Record

/-- The instant of the record is settled. -/
def Settled (r : Record) : Prop :=
  r.detail.Settled

instance (r : Record) : Decidable r.Settled :=
  inferInstanceAs (Decidable r.detail.Settled)

/-- The record with the settled instant. -/
def settle (r : Record) : Record :=
  { r with detail := r.detail.settle }

/-- Settling changes just the records that are not settled. -/
theorem settle_eq_self_iff {r : Record} : r.settle = r ↔ r.Settled := by
  obtain ⟨apiKey, model, detail⟩ := r
  simp [settle, Settled, Detail.settle_eq_self_iff]

theorem settle_of_settled {r : Record} (h : r.Settled) : r.settle = r :=
  settle_eq_self_iff.mpr h

theorem settled_settle (r : Record) : r.settle.Settled :=
  r.detail.timestamp.settled_settle

theorem map_settle_of_settled {rs : List Record} (h : ∀ r ∈ rs, r.Settled) :
    rs.map settle = rs := by
  rw [List.map_congr_left fun r hr => settle_of_settled (h r hr), List.map_id']

theorem stored_settle (r : Record) : r.settle.detail.timestamp.stored = r.detail.timestamp.stored :=
  r.detail.timestamp.stored_settle

@[simp] theorem identityBytes_settle (r : Record) : r.settle.identityBytes = r.identityBytes := by
  rw [identityBytes, stored_settle]
  rfl

/-- A record and the settled one have one key. -/
@[simp] theorem key_settle (r : Record) : r.settle.key = r.key := by
  rw [key, identityBytes_settle, key]

theorem map_key_settle (rs : List Record) : (rs.map settle).map key = rs.map key := by
  rw [List.map_map]
  exact List.map_congr_left fun r _ => r.key_settle

end Record

/-- A second and a half from the thirtieth second of the year 2025 on, within the minute. -/
def prolongedHalf : Instant :=
  .of 1735689630 1500000000 (by decide)

/-- A request in the thirtieth second of a minute, which is prolonged by half a second. -/
def prolongedRecord : Record :=
  ⟨"key", "model", { timestamp := prolongedHalf }⟩

/-- The same request half a second into the next second. -/
def nextSecondRecord : Record :=
  ⟨"key", "model", { timestamp := .of 1735689631 500000000 (by decide) }⟩

theorem settle_prolongedRecord : prolongedRecord.settle = nextSecondRecord := by decide

/-- **A record and the settled one have one row.** -/
@[simp] theorem Row.ofRecord_settle (r : Record) : ofRecord r.settle = ofRecord r := by
  rw [ofRecord, r.key_settle, r.stored_settle]
  rfl

theorem Totals.ofDetails_settle (ds : List Detail) :
    ofDetails (ds.map Detail.settle) = ofDetails ds := by
  rw [ofDetails, List.foldl_map, ofDetails]
  rfl

namespace Snapshot

/-- The snapshot with all its details settled. -/
def settle (s : Snapshot) : Snapshot :=
  ⟨s.apis.map fun models => models.map (·.map Detail.settle)⟩

theorem bucket?_settle (s : Snapshot) (k m : String) :
    s.settle.bucket? k m = (s.bucket? k m).map (·.map Detail.settle) :=
  s.bucket?_map _ k m

theorem details_settle (s : Snapshot) (k m : String) :
    s.settle.details k m = (s.details k m).map Detail.settle := by
  rw [details, details, bucket?_settle]
  cases s.bucket? k m <;> rfl

theorem places_settle (s : Snapshot) : s.settle.places = s.places := by
  refine places_eq_of_mem fun k m => ?_
  rw [mem_places_iff, mem_places_iff, bucket?_settle]
  cases s.bucket? k m <;> simp

theorem records_settle (s : Snapshot) : s.settle.records = s.records.map Record.settle := by
  rw [records_eq, records_eq]
  simp only [settle, Keyed.map, List.flatMap_map, List.map_flatMap, List.map_map]
  rfl

theorem totals_settle (s : Snapshot) : s.settle.totals = s.totals := by
  have hdetails : s.settle.records.map (·.detail) =
      (s.records.map (·.detail)).map Detail.settle := by
    rw [records_settle, List.map_map, List.map_map]
    rfl
  rw [totals, hdetails, Totals.ofDetails_settle, totals]

theorem modelTotals_settle (s : Snapshot) : s.settle.modelTotals = s.modelTotals := by
  simp only [modelTotals_eq, places_settle, details_settle, Totals.ofDetails_settle]

theorem settle_of_settled {s : Snapshot} (h : ∀ r ∈ s.records, r.Settled) : s.settle = s := by
  have hapis : (s.apis.map fun models => models.map (·.map Detail.settle)) = s.apis := by
    refine Keyed.map_eq_self fun k models hmodels => Keyed.map_eq_self fun m bucket hbucket => ?_
    have hdetails : s.details k m = bucket := by
      rw [details, bucket?, hmodels, Option.bind_some, hbucket, Option.getD_some]
    have hsettled : ∀ d ∈ bucket, d.settle = d := fun d hd =>
      Detail.settle_of_settled (h ⟨k, m, d⟩ ((mem_records_iff s _).mpr (hdetails ▸ hd)))
    rw [List.map_congr_left hsettled, List.map_id']
  exact congrArg Snapshot.mk hapis

/-- Settling changes just the snapshots with a record that is not settled. -/
theorem settle_eq_self_iff {s : Snapshot} : s.settle = s ↔ ∀ r ∈ s.records, r.Settled := by
  refine ⟨fun h r hr => ?_, settle_of_settled⟩
  have hrecords : s.records.map Record.settle = s.records.map id := by
    rw [← records_settle, h, List.map_id]
  exact Record.settle_eq_self_iff.mp (List.map_inj_left.mp hrecords r hr)

end Snapshot

end UsageLedger
