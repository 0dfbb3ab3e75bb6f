import UsageLedger.Proofs.Buckets
import UsageLedger.Snapshot.Totals
import Mathlib.Data.Prod.Lex
import Mathlib.Data.String.Basic

/-!
# Snapshots by their places

A place is an API key with a model.  A snapshot without empty levels has a bucket at a place
exactly when it has a detail there, so it is known from the details at each place; and what is
shown of a snapshot, its records and the totals of its buckets, goes through the places in
ascending order.

## Main definitions

* `Snapshot.Filled` — no API key is without models, and no bucket without details.
* `Snapshot.places` — the places with buckets, in ascending order.

## Main results

* `Snapshot.details_eq_filter` — the details at a place are those of the records there, in their
  order.
* `Snapshot.ext_of_details` — **a snapshot without empty levels is known from its details.**
* `Snapshot.places_eq_of_details` — such snapshots with details at the same places have the same
  places.
* `Snapshot.modelTotals_eq` — the totals of the buckets, place by place.
-/

namespace UsageLedger

/-- The record was made under an API key with a model. -/
def Record.isAt (apiKey model : String) (r : Record) : Bool :=
  r.apiKey = apiKey ∧ r.model = model

@[simp] theorem Record.isAt_iff {apiKey model : String} {r : Record} :
    r.isAt apiKey model = true ↔ r.apiKey = apiKey ∧ r.model = model := by
  simp [isAt]

namespace Keyed

variable {β γ : Type}

/-- What the entries yield when only one key yields something. -/
theorem flatMap_single (t : Keyed β) (key : String) (f : β → List γ) :
    (t.entries.flatMap fun e => if e.1 = key then f e.2 else []) = (t.get? key).elim [] f := by
  obtain ⟨entries, hasc⟩ := t
  show _ = (entries.lookup key).elim [] f
  induction entries with
  | nil => rfl
  | cons first rest ih =>
    obtain ⟨k, v⟩ := first
    obtain ⟨hfirst, hrest⟩ := List.pairwise_cons.mp hasc
    rw [List.flatMap_cons, lookup_cons_eq_ite]
    by_cases hk : k = key
    · subst hk
      -- as the keys ascend, this one does not come again
      have hnone : List.lookup k rest = none := lookup_eq_none_of_lt hfirst
      have htail := ih hrest
      dsimp only at htail
      rw [hnone] at htail
      simp [htail]
    · rw [if_neg hk, if_neg (Ne.symm hk), List.nil_append]
      exact ih hrest

theorem ext_get? {t u : Keyed β} (h : ∀ k, t.get? k = u.get? k) : t = u := by
  have hmem : ∀ e, e ∈ t.entries ↔ e ∈ u.entries := by
    rintro ⟨k, v⟩
    rw [mem_entries_iff, mem_entries_iff, h]
  have hnodup : ∀ w : Keyed β, w.entries.Nodup := by
    intro w
    refine w.ascending.imp ?_
    rintro a b hlt rfl
    exact String.lt_irrefl _ hlt
  have hperm := (List.perm_ext_iff_of_nodup (hnodup t) (hnodup u)).mpr hmem
  refine ext_entries (hperm.eq_of_pairwise (fun a b _ _ hab hba => ?_) t.ascending u.ascending)
  exact absurd (String.lt_trans hab hba) (String.lt_irrefl _)

theorem get?_map (t : Keyed β) (f : β → γ) (k : String) : (t.map f).get? k = (t.get? k).map f := by
  obtain ⟨entries, hasc⟩ := t
  show (entries.map fun e => (e.1, f e.2)).lookup k = (entries.lookup k).map f
  clear hasc
  induction entries with
  | nil => rfl
  | cons first rest ih =>
    obtain ⟨k₁, v⟩ := first
    rw [List.map_cons, lookup_cons_eq_ite, lookup_cons_eq_ite, ih]
    split <;> rfl

theorem map_eq_self {t : Keyed β} {f : β → β} (h : ∀ k v, t.get? k = some v → f v = v) :
    t.map f = t := by
  refine ext_get? fun k => ?_
  rw [get?_map]
  cases hv : t.get? k with
  | none => rfl
  | some v => rw [Option.map_some, h k v hv]

end Keyed

namespace Snapshot

/-- **The details at a place are those of the records there**, in their order. -/
theorem details_eq_filter (s : Snapshot) (k m : String) :
    s.details k m = (s.records.filter (Record.isAt k m)).map (·.detail) := by
  -- of the entries of a table only that of the key yields records at the place
  have hbuckets : ∀ (k' : String) (models : Keyed Bucket),
      (models.entries.flatMap fun e =>
          ((e.2.map fun d => (⟨k', e.1, d⟩ : Record)).filter (Record.isAt k m)).map (·.detail)) =
        if k' = k then (models.get? m).getD [] else [] := by
    intro k' models
    have hentry : ∀ e : String × Bucket,
        ((e.2.map fun d => (⟨k', e.1, d⟩ : Record)).filter (Record.isAt k m)).map (·.detail) =
          if e.1 = m then (if k' = k then e.2 else []) else [] := by
      rintro ⟨m', bucket⟩
      by_cases hk : k' = k <;> by_cases hm : m' = m <;>
        simp [List.filter_map, Function.comp_def, Record.isAt, hk, hm]
    simp only [hentry]
    rw [models.flatMap_single m fun bucket => if k' = k then bucket else []]
    cases models.get? m <;> simp
  rw [records_eq, List.filter_flatMap, List.map_flatMap]
  simp only [List.filter_flatMap, List.map_flatMap, hbuckets]
  rw [s.apis.flatMap_single k fun models => (models.get? m).getD [], details, bucket?]
  cases s.apis.get? k <;> rfl

/-- Records that are added one after the other come behind the details at their places. -/
theorem details_foldl_push (s : Snapshot) (rs : List Record) (k m : String) :
    (rs.foldl push s).details k m =
      s.details k m ++ (rs.filter (Record.isAt k m)).map (·.detail) := by
  induction rs generalizing s with
  | nil => simp
  | cons r rs ih =>
    rw [List.foldl_cons, ih, push, details_extend]
    by_cases hr : r.isAt k m = true
    · have hplace : k = r.apiKey ∧ m = r.model := (Record.isAt_iff.mp hr).imp Eq.symm Eq.symm
      rw [if_pos hplace, List.filter_cons_of_pos hr, List.map_cons, List.append_assoc]
      rfl
    · have hplace : ¬(k = r.apiKey ∧ m = r.model) := fun h =>
        hr (Record.isAt_iff.mpr (h.imp Eq.symm Eq.symm))
      rw [if_neg hplace, List.filter_cons_of_neg hr]

theorem details_ofRecords (rs : List Record) (k m : String) :
    (ofRecords rs).details k m = (rs.filter (Record.isAt k m)).map (·.detail) := by
  rw [ofRecords, details_foldl_push]
  rfl

/-- Snapshots with the same records, in some order, have the same details at each place, in some
order. -/
theorem details_perm {s t : Snapshot} (h : s.records.Perm t.records) (k m : String) :
    (s.details k m).Perm (t.details k m) := by
  rw [details_eq_filter, details_eq_filter]
  exact (h.filter _).map _

/-! ### Snapshots without empty levels -/

/-- No API key is without models, and no bucket without details. -/
structure Filled (s : Snapshot) : Prop where
  /-- Every API key has a model. -/
  models : ∀ k models, s.apis.get? k = some models → ∃ m bucket, models.get? m = some bucket
  /-- Every bucket has a detail. -/
  buckets : ∀ k m bucket, s.bucket? k m = some bucket → bucket ≠ []

variable {s t : Snapshot}

theorem filled_empty : Filled empty where
  models := by simp [empty]
  buckets := by simp [empty, bucket?]

/-- Adding details leaves no level empty. -/
theorem Filled.extend (hs : s.Filled) (apiKey model : String) {ds : List Detail} (hds : ds ≠ []) :
    (s.extend apiKey model ds).Filled where
  models := by
    intro k models h
    simp only [Snapshot.extend, updateBucket, Keyed.get?_upsert] at h
    split at h
    · next hk =>
      obtain rfl := Option.some.inj h
      exact ⟨model, _, by rw [Keyed.get?_upsert, if_pos rfl]⟩
    · exact hs.models k models h
  buckets := by
    intro k m bucket h
    rw [bucket?_extend] at h
    split at h
    · obtain rfl := Option.some.inj h
      simp [hds]
    · exact hs.buckets k m bucket h

theorem Filled.push (hs : s.Filled) (r : Record) : (s.push r).Filled :=
  hs.extend _ _ (by simp)

theorem Filled.foldl_push (hs : s.Filled) (rs : List Record) :
    (rs.foldl Snapshot.push s).Filled := by
  induction rs generalizing s with
  | nil => exact hs
  | cons r rs ih => exact ih (hs.push r)

theorem filled_ofRecords (rs : List Record) : (ofRecords rs).Filled :=
  filled_empty.foldl_push rs

theorem bucket?_map (s : Snapshot) (f : Bucket → Bucket) (k m : String) :
    bucket? ⟨s.apis.map fun models => models.map f⟩ k m = (s.bucket? k m).map f := by
  rw [bucket?, bucket?, Keyed.get?_map]
  cases s.apis.get? k with
  | none => rfl
  | some models => exact models.get?_map _ m

theorem bucket?_sortBuckets (s : Snapshot) (k m : String) :
    s.sortBuckets.bucket? k m =
      (s.bucket? k m).map fun bucket => bucket.mergeSort fun a b => a.timestamp.le b.timestamp :=
  s.bucket?_map _ k m

theorem details_sortBuckets (s : Snapshot) (k m : String) :
    s.sortBuckets.details k m =
      (s.details k m).mergeSort fun a b => a.timestamp.le b.timestamp := by
  rw [details, details, bucket?_sortBuckets]
  cases s.bucket? k m with
  | none => simp
  | some bucket => rfl

theorem Filled.sortBuckets (hs : s.Filled) : s.sortBuckets.Filled where
  models := by
    intro k models h
    rw [Snapshot.sortBuckets, Keyed.get?_map, Option.map_eq_some_iff] at h
    obtain ⟨models', hmodels, rfl⟩ := h
    obtain ⟨m, bucket, hbucket⟩ := hs.models k models' hmodels
    exact ⟨m, _, by rw [Keyed.get?_map, hbucket, Option.map_some]⟩
  buckets := by
    intro k m bucket h
    rw [bucket?_sortBuckets, Option.map_eq_some_iff] at h
    obtain ⟨bucket', hbucket, rfl⟩ := h
    have hne := hs.buckets k m bucket' hbucket
    rwa [ne_eq, ← List.length_eq_zero_iff, List.length_mergeSort, List.length_eq_zero_iff]

theorem Filled.bucket?_eq (hs : s.Filled) (k m : String) :
    s.bucket? k m = if s.details k m = [] then none else some (s.details k m) := by
  rw [details]
  cases h : s.bucket? k m with
  | none => rfl
  | some bucket => exact (if_neg (hs.buckets k m bucket h)).symm

theorem Filled.get?_eq_none (hs : s.Filled) {k : String} (h : ∀ m, s.bucket? k m = none) :
    s.apis.get? k = none := by
  cases hk : s.apis.get? k with
  | none => rfl
  | some models =>
    obtain ⟨m, bucket, hbucket⟩ := hs.models k models hk
    have hnone := h m
    rw [bucket?, hk, Option.bind_some, hbucket] at hnone
    cases hnone

/-- **A snapshot without empty levels is known from its details.** -/
theorem ext_of_details (hs : s.Filled) (ht : t.Filled) (h : ∀ k m, s.details k m = t.details k m) :
    s = t := by
  -- no bucket is empty, so one is there exactly where there are details
  have hbucket : ∀ k m, s.bucket? k m = t.bucket? k m := fun k m => by
    rw [hs.bucket?_eq, ht.bucket?_eq, h]
  have hapis : ∀ k, s.apis.get? k = t.apis.get? k := by
    intro k
    cases hsk : s.apis.get? k with
    | none =>
      refine (ht.get?_eq_none fun m => ?_).symm
      rw [← hbucket, bucket?, hsk, Option.bind_none]
    | some models =>
      cases htk : t.apis.get? k with
      | none =>
        -- a level without buckets is not kept, so neither snapshot has one
        have hnone : s.apis.get? k = none := hs.get?_eq_none fun m => by
          rw [hbucket, bucket?, htk, Option.bind_none]
        rw [hsk] at hnone
        cases hnone
      | some models' =>
        refine congrArg some (Keyed.ext_get? fun m => ?_)
        have hm := hbucket k m
        rwa [bucket?, bucket?, hsk, htk, Option.bind_some, Option.bind_some] at hm
  have heq := Keyed.ext_get? hapis
  cases s
  cases t
  simpa using heq

/-! ### Places in their order -/

/-- The places with buckets, in ascending order. -/
def places (s : Snapshot) : List (String × String) :=
  s.buckets.map fun (apiKey, model, _) => (apiKey, model)

theorem places_pairwise (s : Snapshot) : s.places.Pairwise fun p q => toLex p < toLex q := by
  rw [places, buckets, List.map_flatMap, List.pairwise_flatMap]
  constructor
  · rintro ⟨k, models⟩ -
    rw [List.map_map, List.pairwise_map]
    refine models.ascending.imp fun hlt => ?_
    exact Prod.Lex.toLex_lt_toLex.mpr (.inr ⟨rfl, hlt⟩)
  · refine s.apis.ascending.imp fun {a b} hlt p hp q hq => ?_
    simp only [List.map_map, List.mem_map, Function.comp_apply] at hp hq
    obtain ⟨-, -, rfl⟩ := hp
    obtain ⟨-, -, rfl⟩ := hq
    exact Prod.Lex.toLex_lt_toLex.mpr (.inl hlt)

theorem mem_places_iff (s : Snapshot) (k m : String) :
    (k, m) ∈ s.places ↔ ∃ bucket, s.bucket? k m = some bucket := by
  simp only [places, List.mem_map, Prod.exists, Prod.mk.injEq, mem_buckets_iff]
  constructor
  · rintro ⟨k', m', bucket, h, rfl, rfl⟩
    exact ⟨bucket, h⟩
  · rintro ⟨bucket, h⟩
    exact ⟨k, m, bucket, h, rfl, rfl⟩

theorem Filled.mem_places_iff (hs : s.Filled) (k m : String) :
    (k, m) ∈ s.places ↔ s.details k m ≠ [] := by
  rw [Snapshot.mem_places_iff, hs.bucket?_eq]
  split <;> simp_all

theorem places_eq_of_mem (h : ∀ k m, (k, m) ∈ s.places ↔ (k, m) ∈ t.places) :
    s.places = t.places := by
  have hnodup : ∀ u : Snapshot, u.places.Nodup := by
    intro u
    refine u.places_pairwise.imp ?_
    rintro a b hlt rfl
    exact lt_irrefl _ hlt
  have hperm : s.places.Perm t.places :=
    (List.perm_ext_iff_of_nodup (hnodup s) (hnodup t)).mpr fun p => h p.1 p.2
  exact hperm.eq_of_pairwise (fun p q _ _ hpq hqp => absurd hqp (lt_asymm hpq)) s.places_pairwise
    t.places_pairwise

/-- Snapshots without empty levels that have details at the same places have the same places. -/
theorem places_eq_of_details (hs : s.Filled) (ht : t.Filled)
    (h : ∀ k m, s.details k m = [] ↔ t.details k m = []) : s.places = t.places :=
  places_eq_of_mem fun k m => by rw [hs.mem_places_iff, ht.mem_places_iff, ne_eq, h]

/-- The places after records were added: those from before, and those of the records. -/
theorem mem_places_foldl_push (s : Snapshot) (rs : List Record) (k m : String) :
    (k, m) ∈ (rs.foldl push s).places ↔ (k, m) ∈ s.places ∨ ∃ r ∈ rs, r.isAt k m = true := by
  induction rs generalizing s with
  | nil => simp
  | cons r rs ih =>
    have hpush : (k, m) ∈ (s.push r).places ↔ (k, m) ∈ s.places ∨ r.isAt k m = true := by
      rw [mem_places_iff, mem_places_iff, push, bucket?_extend, Record.isAt_iff]
      by_cases hplace : k = r.apiKey ∧ m = r.model
      · simp [hplace]
      · have hne : ¬(r.apiKey = k ∧ r.model = m) := fun h => hplace ⟨h.1.symm, h.2.symm⟩
        simp [hplace, hne]
    rw [List.foldl_cons, ih, hpush, or_assoc, List.exists_mem_cons_iff]

theorem buckets_eq_map_places (s : Snapshot) :
    s.buckets = s.places.map fun (k, m) => (k, m, s.details k m) := by
  rw [places, List.map_map]
  refine (List.map_id _).symm.trans (List.map_congr_left ?_)
  rintro ⟨k, m, bucket⟩ hmem
  show (k, m, bucket) = (k, m, s.details k m)
  rw [details, (mem_buckets_iff s k m bucket).mp hmem]
  rfl

/-- The totals of the buckets, place by place. -/
theorem modelTotals_eq (s : Snapshot) :
    s.modelTotals = s.places.map fun (k, m) => (k, m, Totals.ofDetails (s.details k m)) := by
  rw [modelTotals, buckets_eq_map_places, List.map_map]
  rfl

theorem mem_modelTotals_iff (s : Snapshot) (k m : String) (t : Totals) :
    (k, m, t) ∈ s.modelTotals ↔ (k, m) ∈ s.places ∧ t = Totals.ofDetails (s.details k m) := by
  rw [modelTotals_eq, List.mem_map]
  constructor
  · rintro ⟨⟨k', m'⟩, hmem, heq⟩
    obtain ⟨rfl, rfl, rfl⟩ : k' = k ∧ m' = m ∧ _ := by simpa using heq
    exact ⟨hmem, rfl⟩
  · rintro ⟨hmem, rfl⟩
    exact ⟨(k, m), hmem, rfl⟩

end Snapshot

end UsageLedger
