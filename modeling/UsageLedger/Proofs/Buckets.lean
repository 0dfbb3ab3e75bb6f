import UsageLedger.Snapshot.Basic
import Mathlib.Data.List.Perm.Basic

/-!
# Buckets and their records

A snapshot seen in two ways: as the details that it holds under each API key and model, and as the
records that it holds altogether.

## Main definitions

* `Snapshot.details` — the details under an API key and model, none where there is no bucket.

## Main results

* `Keyed.get?_upsert`, `Keyed.flatMap_upsert_perm` — what changes in a table with the value of
  one key.
* `Snapshot.details_extend`, `Snapshot.mem_records_iff` — details after more were added, and
  records by their details.
* `Snapshot.records_ofRecords_perm`, `Snapshot.records_sortBuckets_perm` — the records of a snapshot
  made from records, and sorted, are those records, in some order.
-/

namespace UsageLedger

namespace Keyed

variable {β γ : Type}

theorem lookup_cons_eq_ite (k key : String) (v : β) (rest : List (String × β)) :
    ((key, v) :: rest).lookup k = if k = key then some v else rest.lookup k := by
  rw [List.lookup_cons]
  by_cases hk : k = key
  · simp [hk]
  · rw [if_neg hk, beq_eq_false_iff_ne.mpr hk]

theorem lookup_eq_none_of_lt {key : String} {entries : List (String × β)}
    (h : ∀ e ∈ entries, key < e.1) : entries.lookup key = none := by
  rw [List.lookup_eq_none_iff]
  intro e he
  rw [bne_iff_ne]
  rintro rfl
  exact String.lt_irrefl _ (h e he)

/-- The values of ascending keys after the value of one key was changed. -/
theorem lookup_upsertEntries (key : String) (change : Option β → β) {entries : List (String × β)}
    (h : entries.Pairwise fun a b => a.1 < b.1) (k : String) :
    (upsertEntries key change entries).lookup k =
      if k = key then some (change (entries.lookup key)) else entries.lookup k := by
  induction entries with
  | nil => rw [upsertEntries, lookup_cons_eq_ite, List.lookup_nil, List.lookup_nil]
  | cons first rest ih =>
    obtain ⟨k₁, v⟩ := first
    obtain ⟨hfirst, hrest⟩ := List.pairwise_cons.mp h
    rw [upsertEntries]
    by_cases hlt : key < k₁
    · -- as the keys ascend, this one is not among those that follow
      have hnone : List.lookup key ((k₁, v) :: rest) = none := by
        refine lookup_eq_none_of_lt fun e he => ?_
        rcases List.mem_cons.mp he with rfl | he
        · exact hlt
        · exact String.lt_trans hlt (hfirst e he)
      rw [if_pos hlt, hnone, lookup_cons_eq_ite]
    · rw [if_neg hlt]
      by_cases heq : key = k₁
      · subst heq
        simp only [if_true, lookup_cons_eq_ite]
        by_cases hk : k = key <;> simp [hk]
      · simp only [if_neg heq, lookup_cons_eq_ite, ih hrest]
        by_cases hk : k = k₁
        · have hne : k₁ ≠ key := fun h => heq h.symm
          simp [hk, hne]
        · simp [hk]

/-- **The values after the value of one key was changed.** -/
theorem get?_upsert (t : Keyed β) (key : String) (change : Option β → β) (k : String) :
    (t.upsert key change).get? k = if k = key then some (change (t.get? key)) else t.get? k :=
  lookup_upsertEntries key change t.ascending k

theorem ext_entries {t u : Keyed β} (h : t.entries = u.entries) : t = u := by
  cases t
  cases u
  cases h
  rfl

@[simp] theorem get?_empty (k : String) : (empty : Keyed β).get? k = none := rfl

/-- A value of a table is the value of its key. -/
theorem mem_entries_iff (t : Keyed β) (k : String) (v : β) :
    (k, v) ∈ t.entries ↔ t.get? k = some v := by
  obtain ⟨entries, hasc⟩ := t
  show (k, v) ∈ entries ↔ entries.lookup k = some v
  induction entries with
  | nil => simp
  | cons first rest ih =>
    obtain ⟨k₁, v₁⟩ := first
    obtain ⟨hfirst, hrest⟩ := List.pairwise_cons.mp hasc
    rw [lookup_cons_eq_ite, List.mem_cons]
    by_cases hk : k = k₁
    · subst hk
      have hnot : (k, v) ∉ rest := fun hmem => String.lt_irrefl k (hfirst (k, v) hmem)
      simp [hnot, eq_comm]
    · simp [hk, ih hrest]

/-- What the values of a table yield after the value of one key was changed, where the change
adds to what the value of the key yields. -/
theorem flatMap_upsert_perm (t : Keyed β) {key : String} {change : Option β → β}
    {f : String × β → List γ} {extra : List γ} (hnew : (f (key, change none)).Perm extra)
    (hold : ∀ v, (f (key, change (some v))).Perm (f (key, v) ++ extra)) :
    ((t.upsert key change).entries.flatMap f).Perm (t.entries.flatMap f ++ extra) := by
  show ((upsertEntries key change t.entries).flatMap f).Perm (t.entries.flatMap f ++ extra)
  induction t.entries with
  | nil => simpa [upsertEntries] using hnew
  | cons first rest ih =>
    obtain ⟨k, v⟩ := first
    rw [upsertEntries]
    split
    · -- the key comes before all others
      rw [List.flatMap_cons]
      exact (hnew.append_right _).trans List.perm_append_comm
    · split
      · next hkey =>
        -- what is added ends up in front of what the later keys yield
        subst hkey
        rw [List.flatMap_cons, List.flatMap_cons, List.append_assoc]
        refine ((hold v).append_right _).trans ?_
        rw [List.append_assoc]
        exact List.perm_append_comm.append_left _
      · rw [List.flatMap_cons, List.flatMap_cons, List.append_assoc]
        exact ih.append_left _

end Keyed

namespace Snapshot

/-- The details under an API key and model, none where there is no bucket. -/
def details (s : Snapshot) (apiKey model : String) : Bucket :=
  (s.bucket? apiKey model).getD []

theorem bucket?_extend (s : Snapshot) (apiKey model : String) (ds : List Detail) (k m : String) :
    (s.extend apiKey model ds).bucket? k m =
      if k = apiKey ∧ m = model then some (s.details k m ++ ds) else s.bucket? k m := by
  simp only [details, bucket?, extend, updateBucket, Keyed.get?_upsert]
  by_cases hk : k = apiKey
  · subst hk
    cases hmodels : s.apis.get? k with
    | none => by_cases hm : m = model <;> simp [hm, Keyed.get?_upsert]
    | some models => by_cases hm : m = model <;> simp [hm, Keyed.get?_upsert]
  · simp [hk]

/-- **The details after more were added** under an API key and model. -/
theorem details_extend (s : Snapshot) (apiKey model : String) (ds : List Detail) (k m : String) :
    (s.extend apiKey model ds).details k m =
      if k = apiKey ∧ m = model then s.details k m ++ ds else s.details k m := by
  rw [details, bucket?_extend]
  split
  · rfl
  · rfl

theorem mem_buckets_iff (s : Snapshot) (apiKey model : String) (bucket : Bucket) :
    (apiKey, model, bucket) ∈ s.buckets ↔ s.bucket? apiKey model = some bucket := by
  rw [buckets, bucket?, List.mem_flatMap, Option.bind_eq_some_iff]
  constructor
  · rintro ⟨⟨k, models⟩, hmodels, hmem⟩
    obtain ⟨⟨m, b⟩, hb, heq⟩ := List.mem_map.mp hmem
    obtain ⟨rfl, rfl, rfl⟩ : k = apiKey ∧ m = model ∧ b = bucket := by simpa using heq
    exact ⟨models, (Keyed.mem_entries_iff _ _ _).mp hmodels, (Keyed.mem_entries_iff _ _ _).mp hb⟩
  · rintro ⟨models, hmodels, hb⟩
    exact ⟨(apiKey, models), (Keyed.mem_entries_iff _ _ _).mpr hmodels,
      List.mem_map.mpr ⟨(model, bucket), (Keyed.mem_entries_iff _ _ _).mpr hb, rfl⟩⟩

/-- **A snapshot has a record exactly when its bucket has the detail.** -/
theorem mem_records_iff (s : Snapshot) (r : Record) :
    r ∈ s.records ↔ r.detail ∈ s.details r.apiKey r.model := by
  rw [records, List.mem_flatMap, details]
  constructor
  · rintro ⟨⟨apiKey, model, bucket⟩, hmem, hr⟩
    obtain ⟨d, hd, rfl⟩ := List.mem_map.mp hr
    rw [(mem_buckets_iff s _ _ _).mp hmem]
    exact hd
  · intro hd
    cases hbucket : s.bucket? r.apiKey r.model with
    | none => simp [hbucket] at hd
    | some bucket =>
      rw [hbucket] at hd
      exact ⟨_, (mem_buckets_iff s _ _ _).mpr hbucket, List.mem_map.mpr ⟨r.detail, hd, rfl⟩⟩

theorem foldl_add_length (buckets : List (String × String × Bucket)) (n : Nat) :
    buckets.foldl (fun n (_, _, bucket) => n + bucket.length) n =
      n + (buckets.flatMap fun (apiKey, model, bucket) =>
        bucket.map fun detail => (⟨apiKey, model, detail⟩ : Record)).length := by
  induction buckets generalizing n with
  | nil => rfl
  | cons b buckets ih =>
    rw [List.foldl_cons, ih, List.flatMap_cons, List.length_append, List.length_map, Nat.add_assoc]

theorem recordCount_eq (s : Snapshot) : s.recordCount = s.records.length := by
  rw [recordCount, foldl_add_length, Nat.zero_add, records]

theorem records_eq (s : Snapshot) :
    s.records = s.apis.entries.flatMap fun (apiKey, models) =>
      models.entries.flatMap fun (model, bucket) =>
        bucket.map fun detail => ⟨apiKey, model, detail⟩ := by
  simp [records, buckets, List.flatMap_assoc, List.flatMap_map]

theorem records_extend_perm (s : Snapshot) (apiKey model : String) (ds : List Detail) :
    (s.extend apiKey model ds).records.Perm
      (s.records ++ ds.map fun d => ⟨apiKey, model, d⟩) := by
  rw [records_eq, records_eq]
  refine Keyed.flatMap_upsert_perm _ ?_ fun models => ?_
  · simp [Keyed.upsert, Keyed.upsertEntries, Keyed.empty]
  · refine Keyed.flatMap_upsert_perm _ ?_ fun bucket => ?_
    · simp
    · simp

theorem records_foldl_push_perm (s : Snapshot) (rs : List Record) :
    (rs.foldl push s).records.Perm (s.records ++ rs) := by
  induction rs generalizing s with
  | nil => simp
  | cons r rs ih =>
    refine (ih (s.push r)).trans ?_
    refine ((records_extend_perm s r.apiKey r.model [r.detail]).append_right rs).trans ?_
    simp

/-- The records of a snapshot that is made from records, in some order. -/
theorem records_ofRecords_perm (rs : List Record) : (ofRecords rs).records.Perm rs :=
  records_foldl_push_perm empty rs

/-- Sorting the buckets of a snapshot keeps its records, in some order. -/
theorem records_sortBuckets_perm (s : Snapshot) : s.sortBuckets.records.Perm s.records := by
  rw [records_eq, records_eq]
  simp only [sortBuckets, Keyed.map, List.flatMap_map]
  refine List.Perm.flatMap_left _ fun e _ => List.Perm.flatMap_left _ fun b _ => ?_
  exact (List.mergeSort_perm _ _).map _

end Snapshot

end UsageLedger
