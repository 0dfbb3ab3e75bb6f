import UsageLedger.Proofs.Places
import UsageLedger.Proofs.StableSorts
import UsageLedger.Proofs.TextBytes

/-!
# Grouping records, and listing them again

A load groups records into buckets, and a batch goes through the records of a snapshot.  Neither
loses or repeats one, and each undoes the other as far as it can be undone.  Of a row of records
the groups forget the order of different places only, so what is listed again is the row sorted
by place, and stably so.  Of a snapshot the list forgets the levels that hold no record, so what
is grouped again is the snapshot without them.

## Main definitions

* `Record.placeLE` — the order of records by the bytes of their API keys and then of their models.
* `Snapshot.pruned` — a snapshot without its empty levels.

## Main results

* `Snapshot.records_pairwise` — the records of a snapshot ascend by place.
* `Snapshot.filter_records_ofRecords` — the records at a place are grouped in their order.
* `Snapshot.ofRecords_records` — what is grouped again is the snapshot without its empty levels.
* `Snapshot.grouping_listing_inverse` — **grouping and listing are inverse to each other.**
-/

namespace UsageLedger

/-! ### Records by place -/

/-- The place of a record; places are ordered by API key, and then by model. -/
def Record.place (r : Record) : String ×ₗ String :=
  toLex (r.apiKey, r.model)

/-- A record does not come behind another one: by the bytes of the API keys, and where those are
the same by the bytes of the models. -/
def Record.placeLE (a b : Record) : Bool :=
  Text.bytes a.apiKey < Text.bytes b.apiKey ∨
    Text.bytes a.apiKey = Text.bytes b.apiKey ∧ Text.bytes a.model ≤ Text.bytes b.model

theorem Record.isAt_eq_decide (k m : String) :
    Record.isAt k m = fun r : Record => r.place = toLex (k, m) := by
  funext r
  simp [isAt, place]

theorem Record.placeLE_iff {a b : Record} : a.placeLE b = true ↔ a.place ≤ b.place := by
  rw [placeLE, decide_eq_true_eq, ← List.not_lt, Text.bytes_lt_iff, Text.bytes_lt_iff,
    Text.bytes_inj, String.not_lt]
  exact Iff.symm Prod.Lex.toLex_le_toLex

namespace Snapshot

/-- The records of a snapshot ascend by place. -/
theorem records_pairwise (s : Snapshot) : s.records.Pairwise fun a b => a.place ≤ b.place := by
  rw [records, List.pairwise_flatMap]
  constructor
  · rintro ⟨k, m, bucket⟩ -
    rw [List.pairwise_map]
    exact List.pairwise_of_forall fun _ _ => (le_rfl : toLex (k, m) ≤ toLex (k, m))
  · refine (List.pairwise_map.mp s.places_pairwise).imp fun {b c} hlt x hx y hy => ?_
    obtain ⟨_, -, rfl⟩ := List.mem_map.mp hx
    obtain ⟨_, -, rfl⟩ := List.mem_map.mp hy
    exact le_of_lt hlt

/-- Records at a place are known from their details. -/
theorem filter_isAt_eq_map (rs : List Record) (k m : String) :
    rs.filter (Record.isAt k m) =
      ((rs.filter (Record.isAt k m)).map (·.detail)).map fun d => ⟨k, m, d⟩ := by
  rw [List.map_map]
  refine (List.map_id _).symm.trans (List.map_congr_left fun r hr => ?_)
  obtain ⟨rfl, rfl⟩ := Record.isAt_iff.mp (List.mem_filter.mp hr).2
  rfl

/-- **The records at a place are grouped in their order.** -/
theorem filter_records_ofRecords (rs : List Record) (p : String ×ₗ String) :
    (ofRecords rs).records.filter (fun r => r.place = p) = rs.filter fun r => r.place = p := by
  obtain ⟨k, m⟩ := p
  have hat := Record.isAt_eq_decide k m
  rw [show (k, m) = toLex (k, m) from rfl, ← hat, filter_isAt_eq_map, ← details_eq_filter,
    details_ofRecords, ← filter_isAt_eq_map]

/-- What is listed again is the row of records sorted by place. -/
theorem records_ofRecords (rs : List Record) :
    (ofRecords rs).records = rs.mergeSort Record.placeLE := by
  have htrans : ∀ a b c : Record, a.placeLE b = true → b.placeLE c = true → a.placeLE c = true := by
    intro a b c hab hbc
    rw [Record.placeLE_iff] at hab hbc ⊢
    exact le_trans hab hbc
  have htotal : ∀ a b : Record, (a.placeLE b || b.placeLE a) = true := by
    intro a b
    rw [Bool.or_eq_true, Record.placeLE_iff, Record.placeLE_iff]
    exact le_total _ _
  have hsorted : (rs.mergeSort Record.placeLE).Pairwise fun a b => a.place ≤ b.place :=
    (List.pairwise_mergeSort htrans htotal rs).imp Record.placeLE_iff.mp
  refine eq_of_ties le_refl (fun _ _ => le_antisymm) (records_pairwise _) hsorted fun p => ?_
  rw [filter_records_ofRecords, filter_mergeSort_of_le htrans htotal]
  -- records of the same place tie
  intro a b ha hb
  rw [Record.placeLE_iff, of_decide_eq_true ha, of_decide_eq_true hb]

end Snapshot

/-! ### Empty levels -/

/-- The table of the values that pass. -/
def Keyed.keep {β : Type} (passes : β → Bool) (t : Keyed β) : Keyed β :=
  ⟨t.entries.filter fun e => passes e.2, t.ascending.filter _⟩

theorem Keyed.get?_keep {β : Type} (passes : β → Bool) (t : Keyed β) (k : String) :
    (t.keep passes).get? k = (t.get? k).filter passes := by
  ext v
  rw [← mem_entries_iff, keep, List.mem_filter, mem_entries_iff, Option.filter_eq_some_iff]

namespace Snapshot

/-- A snapshot without its empty buckets, and without the API keys that have no other ones. -/
def pruned (s : Snapshot) : Snapshot :=
  ⟨(s.apis.map fun models => models.keep fun bucket => !bucket.isEmpty).keep fun models =>
    !models.entries.isEmpty⟩

theorem bucket?_pruned (s : Snapshot) (k m : String) :
    s.pruned.bucket? k m = (s.bucket? k m).filter fun bucket => !bucket.isEmpty := by
  rw [bucket?, bucket?, pruned, Keyed.get?_keep, Keyed.get?_map]
  cases s.apis.get? k with
  | none => rfl
  | some models =>
    rw [Option.map_some, Option.bind_some, ← Keyed.get?_keep]
    generalize models.keep (fun bucket => !bucket.isEmpty) = kept
    rw [Option.filter_some]
    split
    · rfl
    · next hempty =>
      -- nothing is left of the models, so there is no bucket to find
      have hnil : kept.entries = [] := by simpa using hempty
      rw [Option.bind_none, Keyed.get?, hnil]
      rfl

theorem details_pruned (s : Snapshot) (k m : String) : s.pruned.details k m = s.details k m := by
  rw [details, details, bucket?_pruned]
  rcases s.bucket? k m with _ | _ | ⟨d, bucket⟩ <;> rfl

theorem filled_pruned (s : Snapshot) : s.pruned.Filled where
  models := by
    intro k models h
    rw [pruned, Keyed.get?_keep, Option.filter_eq_some_iff] at h
    obtain ⟨⟨m, bucket⟩, hmem⟩ := List.exists_mem_of_ne_nil models.entries (by simpa using h.2)
    exact ⟨m, bucket, (Keyed.mem_entries_iff _ _ _).mp hmem⟩
  buckets := by
    intro k m bucket h
    rw [bucket?_pruned, Option.filter_eq_some_iff] at h
    simpa using h.2

/-- What is grouped again is the snapshot without its empty levels. -/
theorem ofRecords_records (s : Snapshot) : ofRecords s.records = s.pruned :=
  ext_of_details (filled_ofRecords _) s.filled_pruned fun k m => by
    rw [details_ofRecords, ← details_eq_filter, details_pruned]

/-- **Grouping and listing are inverse to each other.**  A row of records is grouped without
empty levels, and listed again it is the row sorted by place, records of the same place in their
order, and counted as many.  A snapshot that is listed and grouped again is the same without its
empty levels, so it is the same exactly when it has none. -/
theorem grouping_listing_inverse :
    (∀ rs : List Record, (ofRecords rs).Filled ∧
      (ofRecords rs).records = rs.mergeSort Record.placeLE ∧
      (ofRecords rs).recordCount = rs.length) ∧
    ∀ s : Snapshot, ofRecords s.records = s.pruned ∧ (s.pruned = s ↔ s.Filled) := by
  constructor
  · intro rs
    refine ⟨filled_ofRecords rs, records_ofRecords rs, ?_⟩
    rw [recordCount_eq, (records_ofRecords_perm rs).length_eq]
  · intro s
    refine ⟨ofRecords_records s, fun h => h ▸ s.filled_pruned, fun h => ?_⟩
    exact ext_of_details s.filled_pruned h s.details_pruned

end Snapshot

end UsageLedger
