import UsageLedger.Proofs.Merging
import UsageLedger.Proofs.Places

/-!
# What a merge takes over

A merge goes bucket by bucket, and asks for keys inside a bucket only.  Seen from all records at
once, it takes over those of the other snapshot whose place and key are new, each once, and puts
each of them at the end of its bucket.

## Main definitions

* `Record.identity` — the place and the key of a record.
* `KeysSeparate` — the digests of different records do not collide.
* `Snapshot.mergeAll`, `Snapshot.tallies` — snapshots merged in turn, and the tally of each.

## Main results

* `Snapshot.merge_records` — **what a merge takes over**, and how it counts.
* `Snapshot.details_merge` — the details at a place after a merge.
* `Snapshot.merge_empty` — a snapshot without empty levels and repeated keys is taken over as it is.
-/

namespace UsageLedger

/-- What a merge tells records apart by: the place, and the key. -/
def Record.identity (r : Record) : String × String × String :=
  (r.apiKey, r.model, r.key)

/-- At its place a record has the key that its detail has there. -/
theorem Record.keyUnder_of_isAt {r : Record} {k m : String} (h : r.isAt k m = true) :
    keyUnder k m r.detail = r.key := by
  obtain ⟨rfl, rfl⟩ := Record.isAt_iff.mp h
  rfl

/-- Different ones among the records have different keys. -/
def KeysSeparate (rs : List Record) : Prop :=
  ∀ a ∈ rs, ∀ b ∈ rs, a.key = b.key → a = b

theorem KeysSeparate.of_subset {rs known : List Record} (h : KeysSeparate known)
    (hrs : ∀ r ∈ rs, r ∈ known) : KeysSeparate rs :=
  fun a ha b hb => h a (hrs a ha) b (hrs b hb)

/-- A request that succeeded, and one that is the same but failed. -/
def sampleRecords : List Record :=
  [⟨"k", "m", { timestamp := .epoch }⟩, ⟨"k", "m", { timestamp := .epoch, failed := true }⟩]

theorem keysSeparate_sampleRecords : KeysSeparate sampleRecords := by
  have hne : (⟨"k", "m", { timestamp := .epoch }⟩ : Record).key ≠
      (⟨"k", "m", { timestamp := .epoch, failed := true }⟩ : Record).key := by
    decide +kernel
  intro a ha b hb hab
  simp only [sampleRecords, List.mem_cons, List.not_mem_nil, or_false] at ha hb
  rcases ha with rfl | rfl <;> rcases hb with rfl | rfl
  · rfl
  · exact absurd hab hne
  · exact absurd hab.symm hne
  · rfl

/-- The records of a bucket. -/
def bucketRecords (apiKey model : String) (bucket : Bucket) : List Record :=
  bucket.map fun d => ⟨apiKey, model, d⟩

/-- The records of buckets, one after the other. -/
def recordsOf (buckets : List (String × String × Bucket)) : List Record :=
  buckets.flatMap fun (apiKey, model, bucket) => bucketRecords apiKey model bucket

@[simp] theorem recordsOf_nil : recordsOf [] = [] := rfl

@[simp] theorem recordsOf_cons (apiKey model : String) (bucket : Bucket)
    (rest : List (String × String × Bucket)) :
    recordsOf ((apiKey, model, bucket) :: rest) =
      bucketRecords apiKey model bucket ++ recordsOf rest :=
  rfl

/-- Two tallies of lists that were gone through, taken together. -/
theorem Tally.add_of_le {a b m n : Nat} (ha : a ≤ m) (hb : b ≤ n) (t : Tally) :
    (t.add ⟨a, m - a⟩).add ⟨b, n - b⟩ = t.add ⟨a + b, m + n - (a + b)⟩ := by
  simp only [Tally.add, Tally.mk.injEq]
  omega

namespace Snapshot

theorem recordsOf_buckets (s : Snapshot) : recordsOf s.buckets = s.records := rfl

variable {s : Snapshot}

/-! ### One bucket -/

/-- The details of a bucket that a merge takes over. -/
def news (s : Snapshot) (apiKey model : String) (incoming : Bucket) : List Detail :=
  fresh (keyUnder apiKey model) ((s.details apiKey model).map (keyUnder apiKey model)) incoming

theorem mergeBucket_extend (s : Snapshot) (apiKey model : String) (incoming : Bucket) :
    (∀ k m, (s.mergeBucket apiKey model incoming).1.details k m =
        if k = apiKey ∧ m = model then s.details k m ++ s.news apiKey model incoming
        else s.details k m) ∧
      (s.mergeBucket apiKey model incoming).1.records.Perm
        (s.records ++ bucketRecords apiKey model (s.news apiKey model incoming)) ∧
      (s.Filled → (s.mergeBucket apiKey model incoming).1.Filled) ∧
      (s.mergeBucket apiKey model incoming).2 =
        ⟨(s.news apiKey model incoming).length,
          incoming.length - (s.news apiKey model incoming).length⟩ := by
  obtain ⟨ds, hds, heq⟩ := mergeBucket_eq s apiKey model incoming
  obtain rfl : ds = s.news apiKey model incoming := hds
  rw [heq]
  dsimp only
  cases hnews : s.news apiKey model incoming with
  | nil => exact ⟨by simp, by simp [bucketRecords], id, rfl⟩
  | cons d rest =>
    exact ⟨fun k m => details_extend s apiKey model _ k m, records_extend_perm s apiKey model _,
      fun hs => hs.extend _ _ (by simp), rfl⟩

/-- The records of a bucket that are taken over are those with a new identity. -/
theorem bucketRecords_news (s : Snapshot) (apiKey model : String) (incoming : Bucket) :
    bucketRecords apiKey model (s.news apiKey model incoming) =
      fresh Record.identity (s.records.map Record.identity)
        (bucketRecords apiKey model incoming) := by
  rw [bucketRecords, bucketRecords, fresh_map, news]
  refine congrArg (List.map _) (fresh_congr_key (fun d _ => ?_) fun d _ d' _ => ?_)
  · -- a record with this identity is one of the bucket
    simp only [List.mem_map]
    constructor
    · rintro ⟨d', hd', hkey⟩
      exact ⟨⟨apiKey, model, d'⟩, (mem_records_iff s _).mpr hd',
        by simpa [Record.identity, keyUnder] using hkey⟩
    · rintro ⟨⟨k, m, d'⟩, hr, hkey⟩
      obtain ⟨rfl, rfl, hkey⟩ : k = apiKey ∧ m = model ∧ _ := by simpa [Record.identity] using hkey
      exact ⟨d', (mem_records_iff s _).mp hr, hkey⟩
  · simp [Record.identity, keyUnder]

/-! ### All buckets -/

/-- Buckets that are merged one after the other add the records with a new identity, each once. -/
theorem mergeBuckets_records (s : Snapshot) (t : Tally)
    (buckets : List (String × String × Bucket)) :
    (s.mergeBuckets t buckets).1.records.Perm (s.records ++
        fresh Record.identity (s.records.map Record.identity) (recordsOf buckets)) ∧
      (s.mergeBuckets t buckets).2 = t.add
        ⟨(fresh Record.identity (s.records.map Record.identity) (recordsOf buckets)).length,
          (recordsOf buckets).length -
            (fresh Record.identity (s.records.map Record.identity)
              (recordsOf buckets)).length⟩ := by
  induction buckets generalizing s t with
  | nil => exact ⟨by simp [mergeBuckets], rfl⟩
  | cons b buckets ih =>
    obtain ⟨apiKey, model, incoming⟩ := b
    obtain ⟨-, hrecords, -, htally⟩ := mergeBucket_extend s apiKey model incoming
    have hnews := bucketRecords_news s apiKey model incoming
    obtain ⟨hrest, htotal⟩ :=
      ih (s.mergeBucket apiKey model incoming).1 (t.add (s.mergeBucket apiKey model incoming).2)
    rw [mergeBuckets, recordsOf_cons, fresh_append]
    -- what the bucket has taken over counts as met for the buckets behind it
    have hmet : fresh Record.identity
          ((s.mergeBucket apiKey model incoming).1.records.map Record.identity)
            (recordsOf buckets) =
        fresh Record.identity (s.records.map Record.identity ++
          (bucketRecords apiKey model incoming).map Record.identity) (recordsOf buckets) := by
      refine fresh_congr _ fun k => ?_
      rw [(hrecords.map Record.identity).mem_iff, List.map_append, hnews, mem_append_map_fresh]
    rw [hmet] at hrest htotal
    refine ⟨?_, ?_⟩
    · refine hrest.trans ((hrecords.append_right _).trans ?_)
      rw [hnews, List.append_assoc]
    · rw [htotal, htally, List.length_append, List.length_append, ← hnews]
      simp only [bucketRecords, List.length_map]
      exact Tally.add_of_le (fresh_sublist _ _).length_le (fresh_sublist _ _).length_le t

/-- **What a merge takes over**: the records of the other snapshot with a new identity, each
once; the others are counted as skipped. -/
theorem merge_records (s incoming : Snapshot) :
    (s.merge incoming).1.records.Perm (s.records ++
        fresh Record.identity (s.records.map Record.identity) incoming.records) ∧
      (s.merge incoming).2 =
        ⟨(fresh Record.identity (s.records.map Record.identity) incoming.records).length,
          incoming.records.length -
            (fresh Record.identity (s.records.map Record.identity) incoming.records).length⟩ := by
  have h := mergeBuckets_records s {} incoming.buckets
  rw [recordsOf_buckets] at h
  simpa [merge, Tally.add] using h

theorem added_add_skipped (s incoming : Snapshot) :
    (s.merge incoming).2.added + (s.merge incoming).2.skipped = incoming.recordCount := by
  have hkept : (fresh Record.identity (s.records.map Record.identity) incoming.records).length ≤
      incoming.records.length := (fresh_sublist _ _).length_le
  rw [(merge_records s incoming).2, recordCount_eq]
  dsimp only
  omega

theorem Filled.mergeBuckets (hs : s.Filled) (t : Tally)
    (buckets : List (String × String × Bucket)) :
    (s.mergeBuckets t buckets).1.Filled := by
  induction buckets generalizing s t with
  | nil => exact hs
  | cons b buckets ih =>
    obtain ⟨apiKey, model, incoming⟩ := b
    exact ih ((mergeBucket_extend s apiKey model incoming).2.2.1 hs) _

theorem Filled.merge (hs : s.Filled) (incoming : Snapshot) : (s.merge incoming).1.Filled :=
  hs.mergeBuckets _ _

theorem details_mergeBuckets (s : Snapshot) (t : Tally) (buckets : List (String × String × Bucket))
    (k m : String) :
    (s.mergeBuckets t buckets).1.details k m = s.details k m ++
      s.news k m (((recordsOf buckets).filter (Record.isAt k m)).map (·.detail)) := by
  induction buckets generalizing s t with
  | nil => simp [Snapshot.mergeBuckets, news]
  | cons b buckets ih =>
    obtain ⟨apiKey, model, incoming⟩ := b
    have hdetails := (mergeBucket_extend s apiKey model incoming).1 k m
    rw [mergeBuckets, ih, hdetails, recordsOf_cons, List.filter_append, List.map_append]
    by_cases hplace : k = apiKey ∧ m = model
    · obtain ⟨rfl, rfl⟩ := hplace
      have hall : ((bucketRecords k m incoming).filter (Record.isAt k m)).map (·.detail) =
          incoming := by
        simp [bucketRecords, List.filter_map, Function.comp_def, Record.isAt]
      rw [if_pos ⟨rfl, rfl⟩, hall, List.append_assoc]
      -- the bucket and the rest are merged in turn, so the rest meets what the bucket has added
      refine congrArg (s.details k m ++ ·) ?_
      rw [news, news, news, fresh_append, hdetails, if_pos ⟨rfl, rfl⟩]
      refine congrArg (s.news k m incoming ++ ·) (fresh_congr _ fun key => ?_)
      rw [List.map_append, news, mem_append_map_fresh]
    · -- a bucket at another place brings nothing here
      have hnone : ((bucketRecords apiKey model incoming).filter (Record.isAt k m)).map
          (·.detail) = [] := by
        have hne : ¬(apiKey = k ∧ model = m) := fun h => hplace ⟨h.1.symm, h.2.symm⟩
        simp [bucketRecords, List.filter_map, Function.comp_def, Record.isAt, hne]
      rw [if_neg hplace, hnone, List.nil_append, news, news, hdetails, if_neg hplace]

/-- **The details at a place after a merge**: those from before, and behind them those of the
other snapshot whose keys are new there. -/
theorem details_merge (s incoming : Snapshot) (k m : String) :
    (s.merge incoming).1.details k m = s.details k m ++ s.news k m (incoming.details k m) := by
  rw [merge, details_mergeBuckets, recordsOf_buckets, ← details_eq_filter]

/-- **A snapshot without empty levels and repeated keys is taken over as it is** where there was
nothing. -/
theorem merge_empty {incoming : Snapshot} (hfilled : incoming.Filled)
    (hdistinct : (incoming.records.map Record.key).Nodup) :
    empty.merge incoming = (incoming, ⟨incoming.recordCount, 0⟩) := by
  -- records that share an identity share a key
  have hidentity : (incoming.records.map Record.identity).Nodup := by
    rw [List.Nodup, List.pairwise_map] at hdistinct ⊢
    exact hdistinct.imp fun hne heq => hne (congrArg (fun i => i.2.2) heq)
  have hall : fresh Record.identity (empty.records.map Record.identity) incoming.records =
      incoming.records := fresh_eq_self
        (by simpa [empty, records, buckets, Keyed.empty] using hidentity)
  obtain ⟨hrecords, htally⟩ := merge_records empty incoming
  rw [hall] at hrecords htally
  have hdetails : ∀ k m, (empty.merge incoming).1.details k m = incoming.details k m := by
    intro k m
    rw [details_merge, show empty.details k m = [] from rfl, List.nil_append]
    refine fresh_eq_self ?_
    show ((incoming.details k m).map (keyUnder k m)).Nodup
    -- under its own place, a detail has the key of its record
    have hkeys : (incoming.details k m).map (keyUnder k m) =
        (incoming.records.filter (Record.isAt k m)).map Record.key := by
      rw [details_eq_filter, List.map_map]
      exact List.map_congr_left fun r hr => Record.keyUnder_of_isAt (List.mem_filter.mp hr).2
    rw [hkeys]
    exact hdistinct.sublist (List.filter_sublist.map _)
  refine Prod.ext (ext_of_details (filled_empty.merge incoming) hfilled hdetails) ?_
  rw [htally, recordCount_eq, Nat.sub_self]

/-! ### Snapshots in turn -/

/-- A snapshot with others merged into it in turn. -/
def mergeAll (s : Snapshot) (incoming : List Snapshot) : Snapshot :=
  incoming.foldl (fun s n => (s.merge n).1) s

/-- The tallies of snapshots that are merged in turn. -/
def tallies (s : Snapshot) : List Snapshot → List Tally
  | [] => []
  | n :: ns => (s.merge n).2 :: tallies (s.merge n).1 ns

end Snapshot

end UsageLedger
