import UsageLedger.Proofs.Gathering

/-!
# The order of merges

The order in which snapshots are merged shows in the order of the details, and nowhere else.  A
bucket takes over one detail of each key that it has not met, wherever the key comes from and
however often it comes; so what counts is which snapshots are merged, not when or how many
times.  An aggregate forgets no key, and a snapshot that was merged once brings nothing new ever
after.

## Main definitions

* `Snapshot.mergeTally` — the tallies of snapshots merged in turn, taken together.
* `Snapshot.SameHoldings` — the same places, and at each place the same keys and as many details.
* `Intake`, `Snapshot.takeAll` — what an aggregate takes in, one after the other.

## Main results

* `Snapshot.details_mergeAll`, `Snapshot.mergeTally_eq` — what snapshots in turn add, and how it
  counts.
* `Snapshot.Knows.takeAll` — an aggregate forgets nothing.
* `Snapshot.merge_order_irrelevant` — **the order of merges and their repetition do not show.**
-/

namespace UsageLedger

namespace Snapshot

variable {s t : Snapshot}

/-! ### Places after a merge -/

/-- A bucket that is merged makes its place, unless it is empty. -/
theorem mem_places_mergeBucket (s : Snapshot) (apiKey model : String) (incoming : Bucket)
    (k m : String) :
    (k, m) ∈ (s.mergeBucket apiKey model incoming).1.places ↔
      (k, m) ∈ s.places ∨ (k = apiKey ∧ m = model) ∧ incoming ≠ [] := by
  obtain ⟨news, hnews, heq⟩ := mergeBucket_eq s apiKey model incoming
  rw [heq]
  cases news with
  | nil =>
    -- all keys were there, so the place was there if the bucket has details at all
    dsimp only
    rw [if_pos List.isEmpty_nil, or_iff_left_of_imp]
    rintro ⟨⟨rfl, rfl⟩, hne⟩
    obtain ⟨d, hd⟩ := List.exists_mem_of_ne_nil incoming hne
    have hkey := fresh_eq_nil_iff.mp hnews.symm d hd
    rw [mem_places_iff]
    cases hbucket : s.bucket? k m with
    | none => simp [details, hbucket] at hkey
    | some bucket => exact ⟨bucket, rfl⟩
  | cons d rest =>
    have hne : incoming ≠ [] := by
      rintro rfl
      cases hnews
    dsimp only
    rw [if_neg (by simp), mem_places_iff, mem_places_iff, bucket?_extend]
    by_cases hplace : k = apiKey ∧ m = model
    · simp [hplace, hne]
    · simp [hplace]

theorem mem_places_mergeBuckets (s : Snapshot) (t : Tally)
    (buckets : List (String × String × Bucket)) (k m : String) :
    (k, m) ∈ (s.mergeBuckets t buckets).1.places ↔
      (k, m) ∈ s.places ∨ ∃ bucket, (k, m, bucket) ∈ buckets ∧ bucket ≠ [] := by
  induction buckets generalizing s t with
  | nil => simp [mergeBuckets]
  | cons b buckets ih =>
    obtain ⟨apiKey, model, incoming⟩ := b
    rw [mergeBuckets, ih, mem_places_mergeBucket, or_assoc]
    refine or_congr_right ⟨?_, ?_⟩
    · rintro (⟨⟨rfl, rfl⟩, hne⟩ | ⟨bucket, hmem, hne⟩)
      · exact ⟨incoming, List.mem_cons_self, hne⟩
      · exact ⟨bucket, List.mem_cons_of_mem _ hmem, hne⟩
    · rintro ⟨bucket, hmem, hne⟩
      -- a place is there for the first bucket or for one behind it
      rcases List.mem_cons.mp hmem with heq | hmem
      · obtain ⟨rfl, rfl, rfl⟩ : k = apiKey ∧ m = model ∧ bucket = incoming := by simpa using heq
        exact .inl ⟨⟨rfl, rfl⟩, hne⟩
      · exact .inr ⟨bucket, hmem, hne⟩

theorem mem_places_merge (s incoming : Snapshot) (k m : String) :
    (k, m) ∈ (s.merge incoming).1.places ↔ (k, m) ∈ s.places ∨ incoming.details k m ≠ [] := by
  rw [merge, mem_places_mergeBuckets]
  refine or_congr_right ?_
  rw [details]
  constructor
  · rintro ⟨bucket, hmem, hne⟩
    rw [(mem_buckets_iff incoming k m bucket).mp hmem]
    exact hne
  · intro hne
    cases hbucket : incoming.bucket? k m with
    | none => simp [hbucket] at hne
    | some bucket =>
      exact ⟨bucket, (mem_buckets_iff incoming k m bucket).mpr hbucket,
        by simpa [hbucket] using hne⟩

/-! ### Snapshots in turn -/

/-- The tallies of snapshots that are merged in turn, taken together. -/
def mergeTally (s : Snapshot) (incoming : List Snapshot) : Tally :=
  (s.tallies incoming).foldr Tally.add {}

@[simp] theorem mergeAll_nil (s : Snapshot) : s.mergeAll [] = s := rfl

@[simp] theorem mergeAll_cons (s n : Snapshot) (ns : List Snapshot) :
    s.mergeAll (n :: ns) = (s.merge n).1.mergeAll ns := rfl

@[simp] theorem mergeTally_cons (s n : Snapshot) (ns : List Snapshot) :
    s.mergeTally (n :: ns) = (s.merge n).2.add ((s.merge n).1.mergeTally ns) := rfl

theorem mem_places_mergeAll (s : Snapshot) (ns : List Snapshot) (k m : String) :
    (k, m) ∈ (s.mergeAll ns).places ↔ (k, m) ∈ s.places ∨ ∃ n ∈ ns, n.details k m ≠ [] := by
  induction ns generalizing s with
  | nil => simp
  | cons n ns ih => rw [mergeAll_cons, ih, mem_places_merge, or_assoc, List.exists_mem_cons_iff]

/-- **The details at a place after snapshots were merged in turn** are those that a merge of all
their details at once would leave. -/
theorem details_mergeAll (s : Snapshot) (ns : List Snapshot) (k m : String) :
    (s.mergeAll ns).details k m =
      s.details k m ++ s.news k m (ns.flatMap fun n => n.details k m) := by
  induction ns generalizing s with
  | nil => simp [news]
  | cons n ns ih =>
    rw [mergeAll_cons, ih, details_merge, List.flatMap_cons, List.append_assoc]
    refine congrArg (s.details k m ++ ·) ?_
    rw [news, news, news, fresh_append, details_merge]
    refine congrArg (s.news k m (n.details k m) ++ ·) (fresh_congr _ fun key => ?_)
    rw [List.map_append, news, mem_append_map_fresh]

/-- **How snapshots in turn count**: of all their records, those with a new identity are added,
each once. -/
theorem mergeTally_eq (s : Snapshot) (ns : List Snapshot) :
    s.mergeTally ns =
      ⟨(fresh Record.identity (s.records.map Record.identity) (ns.flatMap records)).length,
        (ns.flatMap records).length -
          (fresh Record.identity (s.records.map Record.identity) (ns.flatMap records)).length⟩ := by
  induction ns generalizing s with
  | nil => rfl
  | cons n ns ih =>
    obtain ⟨hrecords, htally⟩ := merge_records s n
    -- the first merge leaves the identities of both, in whichever order
    have hmet : fresh Record.identity ((s.merge n).1.records.map Record.identity)
        (ns.flatMap records) =
        fresh Record.identity (s.records.map Record.identity ++ n.records.map Record.identity)
          (ns.flatMap records) := by
      refine fresh_congr _ fun i => ?_
      rw [(hrecords.map Record.identity).mem_iff, List.map_append, mem_append_map_fresh]
    have hle : (fresh Record.identity (s.records.map Record.identity) n.records).length ≤
        n.records.length := (fresh_sublist _ _).length_le
    have hle' :
        (fresh Record.identity (s.records.map Record.identity ++ n.records.map Record.identity)
        (ns.flatMap records)).length ≤ (ns.flatMap records).length := (fresh_sublist _ _).length_le
    rw [mergeTally_cons, ih, htally, hmet, List.flatMap_cons, fresh_append, List.length_append,
      List.length_append, Tally.add, Tally.mk.injEq]
    dsimp only
    omega

/-! ### What does not depend on the order -/

/-- Two snapshots have buckets at the same places, and in each bucket the same keys and as many
details. -/
structure SameHoldings (s t : Snapshot) : Prop where
  /-- The places are the same. -/
  places : s.places = t.places
  /-- At each place the keys are the same. -/
  keys : ∀ k m key, key ∈ (s.details k m).map (keyUnder k m) ↔
    key ∈ (t.details k m).map (keyUnder k m)
  /-- At each place there are as many details. -/
  lengths : ∀ k m, (s.details k m).length = (t.details k m).length

theorem mem_map_flatMap_congr {α β γ : Type} {xs ys : List α} (h : ∀ x, x ∈ xs ↔ x ∈ ys)
    (f : α → List β) (g : β → γ) (c : γ) : c ∈ (xs.flatMap f).map g ↔ c ∈ (ys.flatMap f).map g := by
  simp only [List.mem_map, List.mem_flatMap, h]

/-- The same snapshots, in any order and any number of times, lead to the same holdings. -/
theorem sameHoldings_mergeAll (s : Snapshot) {xs ys : List Snapshot} (h : ∀ n, n ∈ xs ↔ n ∈ ys) :
    (s.mergeAll xs).SameHoldings (s.mergeAll ys) where
  places := places_eq_of_mem fun k m => by simp only [mem_places_mergeAll, h]
  keys := by
    intro k m key
    rw [details_mergeAll, details_mergeAll, List.map_append, List.map_append, news, news,
      mem_append_map_fresh, mem_append_map_fresh, List.mem_append, List.mem_append,
      mem_map_flatMap_congr h]
  lengths := by
    intro k m
    rw [details_mergeAll, details_mergeAll, List.length_append, List.length_append, news, news,
      length_fresh_congr (mem_map_flatMap_congr h _ _)]

theorem added_mergeTally (s : Snapshot) {xs ys : List Snapshot} (h : ∀ n, n ∈ xs ↔ n ∈ ys) :
    (s.mergeTally xs).added = (s.mergeTally ys).added := by
  rw [mergeTally_eq, mergeTally_eq]
  exact length_fresh_congr (mem_map_flatMap_congr h _ _) _

theorem skipped_mergeTally (s : Snapshot) {xs ys : List Snapshot} (h : xs.Perm ys) :
    (s.mergeTally xs).skipped = (s.mergeTally ys).skipped := by
  have hadded := s.added_mergeTally fun n => h.mem_iff (a := n)
  have hall := (h.flatMap_right records).length_eq
  rw [mergeTally_eq, mergeTally_eq] at hadded ⊢
  dsimp only at hadded ⊢
  rw [hall, hadded]

end Snapshot

/-! ### An aggregate in use -/

/-- What an aggregate takes in. -/
inductive Intake where
  /-- The record of a request. -/
  | record (r : Record)
  /-- A snapshot that is merged. -/
  | merge (incoming : Snapshot)

namespace Snapshot

variable {s : Snapshot} {r : Record}

/-- An aggregate after it took in something. -/
def take (s : Snapshot) : Intake → Snapshot
  | .record r => s.push r
  | .merge n => (s.merge n).1

/-- An aggregate after it took in one thing after the other. -/
def takeAll (s : Snapshot) (intakes : List Intake) : Snapshot :=
  intakes.foldl take s

theorem Knows.take (h : s.Knows r) (i : Intake) : (s.take i).Knows r := by
  cases i with
  | record r' => exact h.push r'
  | merge n => exact h.merge n

/-- **An aggregate forgets nothing**, whatever it takes in. -/
theorem Knows.takeAll (h : s.Knows r) (intakes : List Intake) : (s.takeAll intakes).Knows r := by
  induction intakes generalizing s with
  | nil => exact h
  | cons i intakes ih => exact ih (h.take i)

/-- **The order of merges and their repetition do not show.**  Two lists of the same snapshots,
in any order and with any of them any number of times, leave an aggregate with the same holdings
and add as many details; in another order of the same list as many are skipped.  A snapshot that
was merged is merged again without effect, whatever the aggregate took in since. -/
theorem merge_order_irrelevant (s : Snapshot) {xs ys : List Snapshot} (h : ∀ n, n ∈ xs ↔ n ∈ ys) :
    (s.mergeAll xs).SameHoldings (s.mergeAll ys) ∧
      (s.mergeTally xs).added = (s.mergeTally ys).added ∧
      (xs.Perm ys → (s.mergeTally xs).skipped = (s.mergeTally ys).skipped) ∧
      ∀ (n : Snapshot) (since : List Intake),
        ((s.merge n).1.takeAll since).merge n =
          ((s.merge n).1.takeAll since, ⟨0, n.recordCount⟩) := by
  refine ⟨s.sameHoldings_mergeAll h, s.added_mergeTally h, s.skipped_mergeTally, fun n since => ?_⟩
  refine merge_eq_self fun r hr => ?_
  exact (s.knows_merge_of_mem hr).takeAll since

/-- An aggregate that has counted the first sample twice. -/
def countedTwice : Snapshot :=
  ofRecords (sampleRecords.take 1 ++ sampleRecords.take 1)

/-- Both samples, and the first one again. -/
def repeating : Snapshot :=
  ofRecords (sampleRecords ++ sampleRecords.take 1)

/-- The second sample. -/
def second : Snapshot :=
  ofRecords (sampleRecords.drop 1)

/-- One of two snapshots that share a record is merged twice into an aggregate with a repeated
record: only the number of details that are skipped differs. -/
theorem merge_order_irrelevant_repeating :
    (∀ n, n ∈ [repeating, second] ↔ n ∈ [second, repeating, second]) ∧
      (countedTwice.mergeAll [repeating, second]).SameHoldings
        (countedTwice.mergeAll [second, repeating, second]) ∧
      countedTwice.mergeTally [repeating, second] = ⟨1, 3⟩ ∧
      countedTwice.mergeTally [second, repeating, second] = ⟨1, 4⟩ := by
  have hmem : ∀ n, n ∈ [repeating, second] ↔ n ∈ [second, repeating, second] := by
    intro n
    simp only [List.mem_cons, List.not_mem_nil, or_false]
    tauto
  -- the two samples differ, and so do their keys
  have hkeys : sampleRecords[1].key ≠ sampleRecords[0].key := by
    intro h
    have hsame := keysSeparate_sampleRecords _ (List.getElem_mem _) _ (List.getElem_mem _) h
    exact absurd hsame (by decide)
  have hcounted : countedTwice.records = [sampleRecords[0], sampleRecords[0]] := by decide +kernel
  have hrepeating : repeating.records = [sampleRecords[0], sampleRecords[1], sampleRecords[0]] := by
    decide +kernel
  have hsecond : second.records = [sampleRecords[1]] := by decide +kernel
  refine ⟨hmem, (countedTwice.merge_order_irrelevant hmem).1, ?_, ?_⟩
  · rw [mergeTally_eq, hcounted]
    simp [hrepeating, hsecond, fresh, Record.identity, hkeys]
  · rw [mergeTally_eq, hcounted]
    simp [hrepeating, hsecond, fresh, Record.identity, hkeys, Ne.symm hkeys]

end Snapshot

end UsageLedger
