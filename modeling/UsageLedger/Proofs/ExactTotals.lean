import UsageLedger.Proofs.Gathering
import UsageLedger.Proofs.Totaling
import Mathlib.Algebra.Ring.Int.Defs
import Mathlib.Data.List.Induction

/-!
# Totals in whole numbers

Counts are added up to the end of their range, where a sum stays, and such sums cannot be
grouped at will.  Of counts that are not negative the sum is known all the same: it is the sum
of the whole numbers, or the largest count if that is less.  So totals are known from the
requests that they count, however these are ordered, and whether they are added up one by one or
bucket by bucket.

## Main definitions

* `Tokens.parts` — the five counts, by their names.
* `Totals.plus` — two totals taken together, count by count.
* `Totals.Exact` — totals are what a row of requests amounts to.
* `Snapshot.Measured`, `Snapshot.ExactTotals` — a snapshot without negative counts, and what its
  totals are then.

## Main results

* `Totals.exact_ofDetails` — **the totals of a row of requests in whole numbers.**
* `Totals.Exact.unique` — totals are known from the requests that they count.
* `Totals.exact_foldl_plus` — the totals of buckets taken together are those of all their requests.
* `Snapshot.Measured.exactTotals` — **the totals of a snapshot**, flat and bucket by bucket.
-/

namespace UsageLedger

/-- Two counts that are the sums of whole numbers cut off at the upper end are added to the sum
of both, cut off there. -/
theorem Count.toInt_add_of_min {a b : Count} {m n : Int} (hm : 0 ≤ m) (hn : 0 ≤ n)
    (ha : a.toInt = min Int64.maxValue.toInt m) (hb : b.toInt = min Int64.maxValue.toInt n) :
    (add a b).toInt = min Int64.maxValue.toInt (m + n) := by
  rw [Int64.toInt_maxValue] at ha hb ⊢
  rw [toInt_add]
  omega

theorem Count.toInt_eq_min (a : Count) : a.toInt = min Int64.maxValue.toInt a.toInt := by
  have hlt := a.toInt_lt
  rw [Int64.toInt_maxValue]
  omega

namespace Tokens

/-- The five counts, by their names. -/
def parts : List (Tokens → Count) :=
  [input, output, reasoning, cached, total]

variable {part : Tokens → Count} {s t : Tokens}

theorem mem_parts : part ∈ parts ↔
    part = input ∨ part = output ∨ part = reasoning ∨ part = cached ∨ part = total := by
  simp [parts]

theorem part_add (hpart : part ∈ parts) (s t : Tokens) :
    part (s.add t) = Count.add (part s) (part t) := by
  rcases mem_parts.mp hpart with rfl | rfl | rfl | rfl | rfl <;> rfl

theorem part_zero (hpart : part ∈ parts) : part {} = 0 := by
  rcases mem_parts.mp hpart with rfl | rfl | rfl | rfl | rfl <;> rfl

theorem Nonnegative.toInt_part (ht : t.Nonnegative) (hpart : part ∈ parts) :
    0 ≤ (part t).toInt := by
  rcases mem_parts.mp hpart with rfl | rfl | rfl | rfl | rfl
  · exact ht.input
  · exact ht.output
  · exact ht.reasoning
  · exact ht.cached
  · exact ht.total

theorem ext_parts (h : ∀ part ∈ parts, (part s).toInt = (part t).toInt) : s = t := by
  have hpart : ∀ part ∈ parts, part s = part t := fun part hmem => Int64.toInt_inj.mp (h part hmem)
  simp only [parts, List.forall_mem_cons] at hpart
  obtain ⟨hinput, houtput, hreasoning, hcached, htotal, -⟩ := hpart
  cases s
  cases t
  rw [Tokens.mk.injEq]
  exact ⟨hinput, houtput, hreasoning, hcached, htotal⟩

end Tokens

namespace Totals

/-- Two totals taken together, count by count. -/
def plus (s t : Totals) : Totals where
  requests := s.requests + t.requests
  succeeded := s.succeeded + t.succeeded
  failed := s.failed + t.failed
  tokens := s.tokens.add t.tokens

/-- The totals are what a row of requests amounts to. -/
structure Exact (t : Totals) (ds : List Detail) : Prop where
  /-- Every request is counted. -/
  requests : t.requests = ds.length
  /-- Every request that succeeded is counted as one. -/
  succeeded : t.succeeded = ds.countP fun d => !d.failed
  /-- Every request that failed is counted as one. -/
  failed : t.failed = ds.countP fun d => d.failed
  /-- Each of the five counts is the sum in whole numbers, or the largest count if that is less. -/
  tokens : ∀ part ∈ Tokens.parts,
    (part t.tokens).toInt = min Int64.maxValue.toInt (ds.map fun d => (part d.tokens).toInt).sum

variable {s t : Totals} {ds es : List Detail}

/-- **Totals are known from the requests that they count.** -/
theorem Exact.unique (hs : s.Exact ds) (ht : t.Exact ds) : s = t := by
  have htokens : s.tokens = t.tokens :=
    Tokens.ext_parts fun part hpart => (hs.tokens part hpart).trans (ht.tokens part hpart).symm
  have hrequests := hs.requests.trans ht.requests.symm
  have hsucceeded := hs.succeeded.trans ht.succeeded.symm
  have hfailed := hs.failed.trans ht.failed.symm
  cases s
  cases t
  simp_all

theorem Exact.succeeded_add_failed (ht : t.Exact ds) : t.succeeded + t.failed = t.requests := by
  have hsplit := List.length_eq_countP_add_countP (fun d : Detail => d.failed) (l := ds)
  simp only [Bool.not_eq_true, Bool.decide_eq_false] at hsplit
  rw [ht.succeeded, ht.failed, ht.requests, hsplit, Nat.add_comm]

theorem exact_nil : Exact {} [] where
  requests := rfl
  succeeded := rfl
  failed := rfl
  tokens := by
    intro part hpart
    rw [Tokens.part_zero hpart]
    rfl

theorem sum_part_nonneg (hds : ∀ d ∈ ds, d.tokens.Nonnegative) {part : Tokens → Count}
    (hpart : part ∈ Tokens.parts) : 0 ≤ (ds.map fun d => (part d.tokens).toInt).sum := by
  induction ds with
  | nil => exact Int.le_refl 0
  | cons d ds ih =>
    have hd := (hds d List.mem_cons_self).toInt_part hpart
    have hrest := ih fun e he => hds e (List.mem_cons_of_mem _ he)
    rw [List.map_cons, List.sum_cons]
    omega

/-- **The totals of two rows of requests taken together** are those of all the requests. -/
theorem Exact.plus (hs : s.Exact ds) (ht : t.Exact es) (hds : ∀ d ∈ ds, d.tokens.Nonnegative)
    (hes : ∀ d ∈ es, d.tokens.Nonnegative) : (s.plus t).Exact (ds ++ es) where
  requests := by rw [Totals.plus, List.length_append, hs.requests, ht.requests]
  succeeded := by rw [Totals.plus, List.countP_append, hs.succeeded, ht.succeeded]
  failed := by rw [Totals.plus, List.countP_append, hs.failed, ht.failed]
  tokens := by
    intro part hpart
    rw [Totals.plus, List.map_append, List.sum_append]
    dsimp only
    rw [Tokens.part_add hpart]
    exact Count.toInt_add_of_min (sum_part_nonneg hds hpart) (sum_part_nonneg hes hpart)
      (hs.tokens part hpart) (ht.tokens part hpart)

/-- One more request. -/
theorem Exact.add (ht : t.Exact ds) (hds : ∀ d ∈ ds, d.tokens.Nonnegative) {d : Detail}
    (hd : d.tokens.Nonnegative) : (t.add d).Exact (ds ++ [d]) where
  requests := by rw [Totals.add, List.length_append, ht.requests, List.length_singleton]
  succeeded := by
    rw [Totals.add, List.countP_append, List.countP_singleton, ht.succeeded]
    cases d.failed <;> simp
  failed := by
    rw [Totals.add, List.countP_append, List.countP_singleton, ht.failed]
    cases d.failed <;> simp
  tokens := by
    intro part hpart
    rw [Totals.add, List.map_append, List.sum_append, List.map_singleton, List.sum_singleton]
    dsimp only
    rw [Tokens.part_add hpart]
    -- saturating once more is the clamp of a sum that is already clamped
    exact Count.toInt_add_of_min (sum_part_nonneg hds hpart) (hd.toInt_part hpart)
      (ht.tokens part hpart)
      (part d.tokens).toInt_eq_min

/-- **The totals of a row of requests in whole numbers**, if no count is negative. -/
theorem exact_ofDetails (hds : ∀ d ∈ ds, d.tokens.Nonnegative) : (ofDetails ds).Exact ds := by
  induction ds using List.reverseRecOn with
  | nil => exact exact_nil
  | append_singleton ds d ih =>
    have hfront : ∀ e ∈ ds, e.tokens.Nonnegative := fun e he => hds e (List.mem_append_left _ he)
    rw [ofDetails, List.foldl_append]
    exact (ih hfront).add hfront (hds d (by simp))

/-- **The totals of buckets, taken together in turn**, are those of all their requests. -/
theorem exact_foldl_plus {buckets : List Bucket} (ht : t.Exact ds)
    (hds : ∀ d ∈ ds, d.tokens.Nonnegative)
    (hbuckets : ∀ bucket ∈ buckets, ∀ d ∈ bucket, d.tokens.Nonnegative) :
    ((buckets.map ofDetails).foldl plus t).Exact (ds ++ buckets.flatten) := by
  induction buckets generalizing t ds with
  | nil => simpa using ht
  | cons bucket buckets ih =>
    have hbucket := hbuckets bucket List.mem_cons_self
    have hboth : ∀ d ∈ ds ++ bucket, d.tokens.Nonnegative := fun d hd =>
      (List.mem_append.mp hd).elim (hds d) (hbucket d)
    have hrest := ih (ht.plus (exact_ofDetails hbucket) hds hbucket) hboth
      fun b hb => hbuckets b (List.mem_cons_of_mem _ hb)
    rwa [List.append_assoc] at hrest

end Totals

namespace Snapshot

/-- No level is empty, and no count negative. -/
structure Measured (s : Snapshot) : Prop where
  /-- No level is empty. -/
  filled : s.Filled
  /-- No count is negative. -/
  nonnegative : ∀ r ∈ s.records, r.detail.tokens.Nonnegative

/-- The totals of a snapshot are what its records amount to, flat and bucket by bucket. -/
structure ExactTotals (s : Snapshot) : Prop where
  /-- The totals are exact. -/
  exact : s.totals.Exact (s.records.map (·.detail))
  /-- Every record is one request, and each of those succeeded or failed. -/
  requests : s.totals.requests = s.recordCount ∧
  s.totals.succeeded + s.totals.failed = s.totals.requests
  /-- The order of the requests does not show. -/
  order : ∀ ds : List Detail, ds.Perm (s.records.map (·.detail)) → Totals.ofDetails ds = s.totals
  /-- The totals of the buckets taken together are those of the snapshot. -/
  grouping : (s.modelTotals.map (·.2.2)).foldl Totals.plus {} = s.totals
  /-- There is a row for each bucket that is not empty, and for no other. -/
  places : ∀ k m, (∃ t, (k, m, t) ∈ s.modelTotals) ↔ s.details k m ≠ []
  /-- The rows are exact as well, and none is without requests. -/
  rows : ∀ k m t, (k, m, t) ∈ s.modelTotals → t.Exact (s.details k m) ∧ 1 ≤ t.requests
  /-- The rows ascend by the bytes of the key, then by those of the model, so that none comes
  twice. -/
  ascending : s.modelTotals.Pairwise fun a b => Text.bytes a.1 < Text.bytes b.1 ∨
    a.1 = b.1 ∧ Text.bytes a.2.1 < Text.bytes b.2.1

variable {s : Snapshot}

theorem measured_empty : empty.Measured :=
  ⟨filled_empty, fun _ hr => absurd hr List.not_mem_nil⟩

theorem Measured.push (hs : s.Measured) {r : Record} (hr : r.detail.tokens.Nonnegative) :
    (s.push r).Measured where
  filled := hs.filled.push r
  nonnegative := by
    intro r' hr'
    rcases List.mem_append.mp ((records_foldl_push_perm s [r]).mem_iff.mp hr') with hold | hnew
    · exact hs.nonnegative r' hold
    · obtain rfl := List.mem_singleton.mp hnew
      exact hr

theorem Measured.merge (hs : s.Measured) {incoming : Snapshot}
    (hincoming : ∀ r ∈ incoming.records, r.detail.tokens.Nonnegative) :
    (s.merge incoming).1.Measured where
  filled := hs.filled.merge incoming
  nonnegative := by
    intro r hr
    rcases List.mem_append.mp ((merge_records s incoming).1.mem_iff.mp hr) with hold | hnew
    · exact hs.nonnegative r hold
    · exact hincoming r ((fresh_sublist _ _).subset hnew)

theorem map_detail_records (s : Snapshot) :
    s.records.map (·.detail) = (s.buckets.map (·.2.2)).flatten := by
  rw [records, List.map_flatMap, List.flatMap_def]
  congr 1
  refine List.map_congr_left fun b _ => ?_
  rw [List.map_map]
  exact List.map_id _

/-- **The totals of a snapshot without negative counts**, flat and bucket by bucket. -/
theorem Measured.exactTotals (hs : s.Measured) : s.ExactTotals := by
  have hdetails : ∀ d ∈ s.records.map (·.detail), d.tokens.Nonnegative := by
    intro d hd
    obtain ⟨r, hr, rfl⟩ := List.mem_map.mp hd
    exact hs.nonnegative r hr
  have hplace : ∀ k m, ∀ d ∈ s.details k m, d.tokens.Nonnegative := fun k m d hd =>
    hs.nonnegative ⟨k, m, d⟩ ((mem_records_iff s _).mpr hd)
  have hexact : s.totals.Exact (s.records.map (·.detail)) := Totals.exact_ofDetails hdetails
  constructor
  · exact hexact
  · exact ⟨by rw [requests_totals, recordCount_eq], hexact.succeeded_add_failed⟩
  · exact fun ds hds => Totals.ofDetails_perm hds fun d hd => hdetails d (hds.mem_iff.mp hd)
  · -- both count the same requests
    have hrows : s.modelTotals.map (·.2.2) = (s.buckets.map (·.2.2)).map Totals.ofDetails := by
      rw [modelTotals, List.map_map, List.map_map]
      rfl
    rw [map_detail_records] at hexact hdetails
    rw [hrows]
    have hsum := Totals.exact_foldl_plus Totals.exact_nil (fun _ hd => absurd hd List.not_mem_nil)
      fun bucket hbucket d hd => hdetails d (List.mem_flatten.mpr ⟨bucket, hbucket, hd⟩)
    exact hsum.unique hexact
  · intro k m
    simp only [mem_modelTotals_iff, exists_and_left, exists_eq, and_true, hs.filled.mem_places_iff]
  · intro k m t hrow
    obtain ⟨hmem, rfl⟩ := (s.mem_modelTotals_iff k m t).mp hrow
    refine ⟨Totals.exact_ofDetails (hplace k m), ?_⟩
    rw [Totals.requests_ofDetails]
    exact List.length_pos_iff.mpr ((hs.filled.mem_places_iff k m).mp hmem)
  · exact s.ascending_modelTotals

end Snapshot

end UsageLedger
