import UsageLedger.Proofs.Gathering
import Mathlib.Data.List.Induction

/-!
# A merge only appends

What a merge does to a snapshot is told place by place, without following it from bucket to
bucket.  A place gains those details of the other snapshot whose key stands neither in the
bucket that is there nor earlier in the bucket that comes in; they go to the end of the bucket,
and where nothing is gained nothing is touched, the tables of buckets included.

The merge goes through the buckets one after the other and changes the snapshot on the way, so
what holds of it in between is stated on what a merge has not come to yet: a view of the
snapshot that only new details at certain places would change is the same after a merge that has
nothing new for those places.

## Main definitions

* `firsts` — the members of a list with new keys, each picked out by its place in the list.
* `Snapshot.gains` — the details that a place gains by a merge.

## Main results

* `fresh_eq_firsts` — what is kept while keys are met is what can be picked out afterwards.
* `Snapshot.view_mergeBuckets` — what a merge with nothing new for it leaves as it is.
* `Snapshot.merge_appends` — **a merge does what it reports, and only appends.**
-/

namespace UsageLedger

section

variable {α κ : Type} [DecidableEq κ]

/-- The members of a list whose keys are neither among those met before nor the key of a member
in front of them, each looked at in its place. -/
def firsts (keyOf : α → κ) (seen : List κ) (as : List α) : List α :=
  (as.zipIdx.filter fun (a, place) =>
    keyOf a ∉ seen ∧ keyOf a ∉ (as.take place).map keyOf).map Prod.fst

variable {keyOf : α → κ} {seen : List κ}

/-- One more member at the end changes nothing for those in front of it. -/
theorem firsts_append_singleton (as : List α) (a : α) :
    firsts keyOf seen (as ++ [a]) =
      firsts keyOf seen as ++ if keyOf a ∉ seen ++ as.map keyOf then [a] else [] := by
  -- what stands before a member of the old list is what stood there
  have hfront : ∀ p ∈ as.zipIdx, (as ++ [a]).take p.2 = as.take p.2 := by
    intro p hp
    have hplace := List.snd_lt_of_mem_zipIdx hp
    rw [List.take_append_of_le_length (by omega)]
  rw [firsts, List.zipIdx_append, List.filter_append, List.map_append]
  congr 1
  · rw [firsts]
    congr 1
    refine List.filter_congr fun p hp => ?_
    simp only [hfront p hp]
  · -- the new member is kept if none with its key stands before it
    have hkept : (keyOf a ∉ seen ∧ keyOf a ∉ as.map keyOf) ↔ keyOf a ∉ seen ++ as.map keyOf := by
      rw [List.mem_append, not_or]
    by_cases ha : keyOf a ∉ seen ++ as.map keyOf
    · rw [if_pos ha]
      simp [hkept.mpr ha]
    · rw [if_neg ha]
      have hdropped := mt hkept.mp ha
      simp only [List.zipIdx_singleton, Nat.zero_add, List.map_eq_nil_iff, List.filter_eq_nil_iff,
        List.mem_singleton, forall_eq, List.take_left, decide_eq_true_eq]
      exact hdropped

/-- **What is kept while keys are met is what can be picked out afterwards.** -/
theorem fresh_eq_firsts (as : List α) : fresh keyOf seen as = firsts keyOf seen as := by
  induction as using List.reverseRecOn with
  | nil => rfl
  | append_singleton as a ih =>
    rw [firsts_append_singleton, fresh_append, ih]
    congr 1
    by_cases ha : keyOf a ∈ seen ++ as.map keyOf
    · rw [fresh_cons_of_mem ha, if_neg (not_not_intro ha), fresh_nil]
    · rw [fresh_cons_of_notMem ha, if_pos ha, fresh_nil]

end

namespace Snapshot

variable {s : Snapshot} {buckets : List (String × String × Bucket)}

/-- The details that a place gains when another snapshot is merged: those of the other one whose
key is not in the bucket there, and not that of an earlier one either. -/
def gains (s incoming : Snapshot) (k m : String) : List Detail :=
  firsts (keyUnder k m) ((s.details k m).map (keyUnder k m)) (incoming.details k m)

theorem news_eq_gains (s incoming : Snapshot) (k m : String) :
    s.news k m (incoming.details k m) = s.gains incoming k m :=
  fresh_eq_firsts _

theorem gains_eq_nil_iff {incoming : Snapshot} {k m : String} :
    s.gains incoming k m = [] ↔ ∀ d ∈ incoming.details k m, s.Knows ⟨k, m, d⟩ := by
  rw [← news_eq_gains, news, fresh_eq_nil_iff]
  rfl

theorem gains_eq_nil {incoming : Snapshot} {k m : String} (h : incoming.details k m = []) :
    s.gains incoming k m = [] := by
  rw [gains, h]
  rfl

/-! ### What is left as it is -/

/-- **A merge with nothing new for them leaves places as they are.**  A view of a snapshot that
depends on certain places only is the same after buckets were merged, if what they bring to
these places is known. -/
theorem view_mergeBuckets {γ : Type} {view : Snapshot → γ} {shows : String → String → Prop}
    (hview : ∀ s k m ds, ¬shows k m → view (extend s k m ds) = view s) (t : Tally)
    (h : ∀ b ∈ buckets, shows b.1 b.2.1 → ∀ d ∈ b.2.2, s.Knows ⟨b.1, b.2.1, d⟩) :
    view (s.mergeBuckets t buckets).1 = view s := by
  induction buckets generalizing s t with
  | nil => rfl
  | cons b buckets ih =>
    obtain ⟨apiKey, model, incoming⟩ := b
    have hfirst := h _ List.mem_cons_self
    have hrest := fun b hb => h b (List.mem_cons_of_mem _ hb)
    rw [mergeBuckets]
    by_cases hshown : shows apiKey model
    · -- nothing in this bucket is new
      rw [mergeBucket_eq_self (hfirst hshown)]
      exact ih _ hrest
    · have hsame : view (s.mergeBucket apiKey model incoming).1 = view s := by
        obtain ⟨news, -, heq⟩ := mergeBucket_eq s apiKey model incoming
        rw [heq]
        dsimp only
        split
        · rfl
        · exact hview s apiKey model news hshown
      refine (ih _ fun b hb hb' d hd => ?_).trans hsame
      exact (hrest b hb hb' d hd).mergeBucket apiKey model incoming

theorem view_merge {γ : Type} {view : Snapshot → γ} {shows : String → String → Prop}
    (hview : ∀ s k m ds, ¬shows k m → view (extend s k m ds) = view s) {incoming : Snapshot}
    (h : ∀ k m, shows k m → s.gains incoming k m = []) : view (s.merge incoming).1 = view s := by
  refine view_mergeBuckets hview {} fun b hb hb' d hd => ?_
  obtain ⟨k, m, bucket⟩ := b
  have hbucket := (mem_buckets_iff incoming k m bucket).mp hb
  refine gains_eq_nil_iff.mp (h k m hb') d ?_
  rw [details, hbucket]
  exact hd

theorem bucket?_merge_of_gains_nil {incoming : Snapshot} {k m : String}
    (h : s.gains incoming k m = []) : (s.merge incoming).1.bucket? k m = s.bucket? k m := by
  refine @view_merge s _ (fun s => s.bucket? k m) (fun k' m' => k = k' ∧ m = m') ?_ incoming ?_
  · intro s k' m' ds hplace
    rw [bucket?_extend, if_neg hplace]
  · rintro k' m' ⟨rfl, rfl⟩
    exact h

theorem get?_merge_of_gains_nil {incoming : Snapshot} {k : String}
    (h : ∀ m, s.gains incoming k m = []) : (s.merge incoming).1.apis.get? k = s.apis.get? k := by
  refine @view_merge s _ (fun s => s.apis.get? k) (fun k' _ => k = k') ?_ incoming ?_
  · intro s k' m' ds hk
    rw [extend, updateBucket, Keyed.get?_upsert, if_neg hk]
  · rintro k' m rfl
    exact h m

/-- The bucket at a place after a merge: what is gained comes behind what was there. -/
theorem bucket?_merge (s incoming : Snapshot) (k m : String) :
    (s.merge incoming).1.bucket? k m =
      if s.gains incoming k m = [] then s.bucket? k m
      else some (s.details k m ++ s.gains incoming k m) := by
  split
  · next h => exact bucket?_merge_of_gains_nil h
  · next h =>
    have hdetails := details_merge s incoming k m
    rw [news_eq_gains, details] at hdetails
    cases hbucket : (s.merge incoming).1.bucket? k m with
    | none =>
      rw [hbucket, Option.getD_none, eq_comm, List.append_eq_nil_iff] at hdetails
      exact absurd hdetails.2 h
    | some bucket =>
      rw [hbucket, Option.getD_some] at hdetails
      rw [hdetails]

/-! ### The whole -/

/-- **A merge does what it reports, and only appends.**  Each bucket holds its details from
before, in their order, and behind them, in the order in which they came in, the details whose
key was neither there nor came in earlier.  Buckets and API keys that gain nothing are as they
were, or as absent as they were; those for which nothing comes in gain nothing.  What is
reported as added is how many more records there are, and with what is reported as skipped it
makes up all records that came in. -/
theorem merge_appends (s incoming : Snapshot) :
    (∀ k m, (s.merge incoming).1.details k m = s.details k m ++ s.gains incoming k m) ∧
    (∀ k m, (s.merge incoming).1.bucket? k m =
      if s.gains incoming k m = [] then s.bucket? k m
      else some (s.details k m ++ s.gains incoming k m)) ∧
    (∀ k, (∀ m, s.gains incoming k m = []) → (s.merge incoming).1.apis.get? k = s.apis.get? k) ∧
    (∀ k m, incoming.details k m = [] → (s.merge incoming).1.bucket? k m = s.bucket? k m) ∧
    (∀ k, (∀ m, incoming.details k m = []) → (s.merge incoming).1.apis.get? k = s.apis.get? k) ∧
    s.recordCount + (s.merge incoming).2.added = (s.merge incoming).1.recordCount ∧
    (s.merge incoming).2.added + (s.merge incoming).2.skipped = incoming.recordCount := by
  obtain ⟨hrecords, htally⟩ := merge_records s incoming
  refine ⟨fun k m => ?_, bucket?_merge s incoming, fun k h => get?_merge_of_gains_nil h,
    fun k m h => ?_, fun k h => ?_, ?_, ?_⟩
  · rw [details_merge, news_eq_gains]
  · exact bucket?_merge_of_gains_nil (gains_eq_nil h)
  · exact get?_merge_of_gains_nil fun m => gains_eq_nil (h m)
  · rw [recordCount_eq, recordCount_eq, hrecords.length_eq, List.length_append, htally]
  · exact added_add_skipped s incoming

/-- A request that succeeded. -/
def heldBefore : Snapshot :=
  ofRecords [⟨"k", "m", { timestamp := .epoch }⟩]

/-- The same request, one that failed and comes twice, a model without requests and an API key
without models. -/
def comingIn : Snapshot :=
  ⟨Keyed.ofList [("hollow", .empty), ("k", .ofList [("idle", []),
    ("m", [{ timestamp := .epoch }, { timestamp := .epoch, failed := true },
      { timestamp := .epoch, failed := true }])])]⟩

/-- Of three details one is gained. -/
theorem gains_comingIn : heldBefore.gains comingIn "k" "m" =
    [{ timestamp := .epoch, failed := true }] := by
  -- the two details differ, and so do their keys
  have hne : keyUnder "k" "m" { timestamp := .epoch, failed := true } ∉
      [keyUnder "k" "m" { timestamp := .epoch }] := by
    intro hmem
    have hsame := keysSeparate_sampleRecords ⟨"k", "m", { timestamp := .epoch, failed := true }⟩
      (by simp [sampleRecords]) ⟨"k", "m", { timestamp := .epoch }⟩ (by simp [sampleRecords])
      (List.mem_singleton.mp hmem)
    cases hsame
  rw [← news_eq_gains, news, show comingIn.details "k" "m" =
      [{ timestamp := .epoch }, { timestamp := .epoch, failed := true },
        { timestamp := .epoch, failed := true }] from rfl,
    show heldBefore.details "k" "m" = [{ timestamp := .epoch }] from rfl, List.map_singleton,
    fresh_cons_of_mem List.mem_cons_self, fresh_cons_of_notMem hne,
    fresh_cons_of_mem List.mem_cons_self, fresh_nil]

/-- Neither the model without requests nor the API key without models is taken over. -/
theorem merge_appends_comingIn :
    (heldBefore.merge comingIn).1.details "k" "m" =
      [{ timestamp := .epoch }, { timestamp := .epoch, failed := true }] ∧
    (heldBefore.merge comingIn).1.bucket? "k" "idle" = none ∧
    (heldBefore.merge comingIn).1.apis.get? "hollow" = none ∧
    (heldBefore.merge comingIn).2.added + (heldBefore.merge comingIn).2.skipped = 3 := by
  obtain ⟨hdetails, -, -, hidle, hhollow, -, htotal⟩ := merge_appends heldBefore comingIn
  refine ⟨?_, ?_, ?_, ?_⟩
  · rw [hdetails, gains_comingIn]
    rfl
  · rw [hidle "k" "idle" rfl]
    rfl
  · rw [hhollow "hollow" fun m => rfl]
    rfl
  · rw [htotal]
    rfl

end Snapshot

end UsageLedger
