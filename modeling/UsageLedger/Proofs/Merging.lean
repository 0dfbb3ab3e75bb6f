import UsageLedger.Proofs.Buckets
import UsageLedger.Proofs.Fresh

/-!
# What a merge adds

A merge decides by keys: a record that the snapshot knows is left out, and afterwards the
snapshot knows every record of the other one.

## Main definitions

* `Snapshot.Knows` — a bucket has a detail with the key of a record.

## Main results

* `Snapshot.knows_merge`, `Snapshot.knows_merge_of_mem` — what a snapshot knows after a merge.
* `Snapshot.merge_eq_self` — **a merge of known records changes nothing.**
-/

namespace UsageLedger

/-- The key of a detail under an API key and model. -/
def keyUnder (apiKey model : String) (d : Detail) : String :=
  Record.key ⟨apiKey, model, d⟩

namespace Snapshot

/-- The bucket of a record has a detail with its key. -/
def Knows (s : Snapshot) (r : Record) : Prop :=
  r.key ∈ (s.details r.apiKey r.model).map (keyUnder r.apiKey r.model)

variable {s : Snapshot} {r : Record}

theorem Knows.extend (h : s.Knows r) (apiKey model : String) (ds : List Detail) :
    (s.extend apiKey model ds).Knows r := by
  rw [Knows, details_extend]
  split
  · rw [List.map_append]
    exact List.mem_append_left _ h
  · exact h

theorem knows_extend_of_mem (s : Snapshot) (apiKey model : String) {ds : List Detail} {d : Detail}
    (h : keyUnder apiKey model d ∈ ds.map (keyUnder apiKey model)) :
    (s.extend apiKey model ds).Knows ⟨apiKey, model, d⟩ := by
  rw [Knows, details_extend, if_pos ⟨rfl, rfl⟩, List.map_append]
  exact List.mem_append_right _ h

theorem Knows.push (h : s.Knows r) (r' : Record) : (s.push r').Knows r :=
  h.extend _ _ _

theorem knows_push (s : Snapshot) (r : Record) : (s.push r).Knows r :=
  knows_extend_of_mem s r.apiKey r.model (List.mem_map_of_mem (List.mem_singleton.mpr rfl))

/-! ### One bucket -/

/-- What is done with one bucket: the details with new keys are added, and counted. -/
theorem mergeBucket_eq (s : Snapshot) (apiKey model : String) (incoming : Bucket) :
    ∃ news, news = fresh (keyUnder apiKey model)
        ((s.details apiKey model).map (keyUnder apiKey model)) incoming ∧
      s.mergeBucket apiKey model incoming =
        (if news.isEmpty then s else s.extend apiKey model news,
          ⟨news.length, incoming.length - news.length⟩) := by
  refine ⟨_, rfl, ?_⟩
  -- the details were counted one by one, from nothing
  have hsift := @sift_eq _ _ _ (keyUnder apiKey model)
    ((s.details apiKey model).map (keyUnder apiKey model)) {} incoming
  simp only [Tally.add, Nat.zero_add] at hsift
  exact congrArg
    (fun p : List Detail × Tally => (if p.1.isEmpty then s else s.extend apiKey model p.1, p.2))
      hsift

theorem Knows.mergeBucket (h : s.Knows r) (apiKey model : String) (incoming : Bucket) :
    (s.mergeBucket apiKey model incoming).1.Knows r := by
  obtain ⟨news, -, heq⟩ := mergeBucket_eq s apiKey model incoming
  rw [heq]
  dsimp only
  split
  · exact h
  · exact h.extend _ _ _

/-- The records of a bucket that was merged are known. -/
theorem knows_mergeBucket_of_mem (s : Snapshot) (apiKey model : String) {incoming : Bucket}
    {d : Detail} (h : d ∈ incoming) :
    (s.mergeBucket apiKey model incoming).1.Knows ⟨apiKey, model, d⟩ := by
  obtain ⟨news, hnews, heq⟩ := mergeBucket_eq s apiKey model incoming
  have hkey : keyUnder apiKey model d ∈ (s.details apiKey model).map (keyUnder apiKey model) ∨
      keyUnder apiKey model d ∈ news.map (keyUnder apiKey model) := by
    rw [hnews]
    exact mem_keys_fresh h
  -- the key was there, or a detail with it was added just now
  rw [heq]
  dsimp only
  rcases hkey with hold | hnew
  · split
    · exact hold
    · exact Knows.extend (r := ⟨apiKey, model, d⟩) hold _ _ _
  · rw [if_neg]
    · exact knows_extend_of_mem s apiKey model hnew
    · rw [List.isEmpty_iff]
      rintro rfl
      simp at hnew

theorem mergeBucket_eq_self {apiKey model : String} {incoming : Bucket}
    (h : ∀ d ∈ incoming, s.Knows ⟨apiKey, model, d⟩) :
    s.mergeBucket apiKey model incoming = (s, ⟨0, incoming.length⟩) := by
  obtain ⟨news, hnews, heq⟩ := mergeBucket_eq s apiKey model incoming
  obtain rfl : news = [] := by
    rw [hnews, fresh_eq_nil_iff]
    exact h
  rw [heq]
  rfl

/-! ### All buckets -/

variable {buckets : List (String × String × Bucket)}

theorem Knows.mergeBuckets (h : s.Knows r) (t : Tally) :
    (s.mergeBuckets t buckets).1.Knows r := by
  induction buckets generalizing s t with
  | nil => exact h
  | cons b buckets ih =>
    obtain ⟨apiKey, model, incoming⟩ := b
    exact ih (h.mergeBucket apiKey model incoming) _

theorem knows_mergeBuckets_of_mem (s : Snapshot) (t : Tally) {apiKey model : String}
    {incoming : Bucket} {d : Detail} (h : (apiKey, model, incoming) ∈ buckets) (hd : d ∈ incoming) :
    (s.mergeBuckets t buckets).1.Knows ⟨apiKey, model, d⟩ := by
  induction buckets generalizing s t with
  | nil => simp at h
  | cons b buckets ih =>
    obtain ⟨apiKey', model', incoming'⟩ := b
    rcases List.mem_cons.mp h with heq | h
    · obtain ⟨rfl, rfl, rfl⟩ : apiKey = apiKey' ∧ model = model' ∧ incoming = incoming' := by
        simpa using heq
      exact (knows_mergeBucket_of_mem s apiKey model hd).mergeBuckets _
    · exact ih _ _ h

theorem mergeBuckets_eq_self (t : Tally)
    (h : ∀ b ∈ buckets, ∀ d ∈ b.2.2, s.Knows ⟨b.1, b.2.1, d⟩) :
    s.mergeBuckets t buckets =
      (s, ⟨t.added, buckets.foldl (fun n (_, _, bucket) => n + bucket.length) t.skipped⟩) := by
  induction buckets generalizing t with
  | nil => rfl
  | cons b buckets ih =>
    obtain ⟨apiKey, model, incoming⟩ := b
    rw [mergeBuckets, mergeBucket_eq_self (h _ List.mem_cons_self)]
    dsimp only
    rw [ih _ fun b hb => h b (List.mem_cons_of_mem _ hb)]
    rfl

theorem Knows.merge (h : s.Knows r) (incoming : Snapshot) : (s.merge incoming).1.Knows r :=
  h.mergeBuckets _

/-- After a merge the records of the other snapshot are known. -/
theorem knows_merge_of_mem (s : Snapshot) {incoming : Snapshot} (h : r ∈ incoming.records) :
    (s.merge incoming).1.Knows r := by
  rw [records, List.mem_flatMap] at h
  obtain ⟨⟨apiKey, model, bucket⟩, hmem, hr⟩ := h
  obtain ⟨d, hd, rfl⟩ := List.mem_map.mp hr
  exact knows_mergeBuckets_of_mem s _ hmem hd

/-- **A merge of known records changes nothing**, and leaves all of them out. -/
theorem merge_eq_self {incoming : Snapshot} (h : ∀ r ∈ incoming.records, s.Knows r) :
    s.merge incoming = (s, ⟨0, incoming.recordCount⟩) := by
  rw [merge, mergeBuckets_eq_self]
  · rfl
  · rintro ⟨apiKey, model, bucket⟩ hb d hd
    refine h _ (List.mem_flatMap.mpr ⟨_, hb, ?_⟩)
    exact List.mem_map.mpr ⟨d, hd, rfl⟩

end Snapshot

end UsageLedger
