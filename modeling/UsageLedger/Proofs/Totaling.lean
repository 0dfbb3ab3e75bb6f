import Mathlib.Algebra.GroupWithZero.Nat
import Mathlib.Data.List.Perm.Basic
import UsageLedger.Event
import UsageLedger.Proofs.Places
import UsageLedger.Proofs.TextBytes

/-!
# Totals and the order of requests

A sum of counts that passes an end of the range stays there, so in general the order in which
counts are added up shows: a negative count can lead back from the upper end.  Counts of records
that were made from events are not negative.  Once their sum has reached the upper end it stays,
and whatever the order the totals are the same.

## Main definitions

* `Tokens.Nonnegative` — no count is negative.

## Main results

* `Count.add_right_comm` — counts that are not negative can be added in either order.
* `Tokens.nonnegative_normalize` — normalized counts are not negative.
* `Totals.ofDetails_perm` — **the order of requests without negative counts does not show in
  their totals.**
* `Snapshot.sum_requests`, `Snapshot.sum_failed` — the totals of the buckets add up to those of
  the snapshot.
* `Snapshot.totals_perm`, `Snapshot.modelTotals_perm` — nor does that of the records of a snapshot.
-/

namespace UsageLedger

namespace Count

/-- A sum of counts is the sum of the numbers, or the end of the range that it passes. -/
theorem toInt_add (a b : Count) :
    (add a b).toInt = max (-9223372036854775808) (min 9223372036854775807 (a.toInt + b.toInt)) := by
  have hmin : Int64.minValue.toInt = -9223372036854775808 := by decide
  have hmax : Int64.maxValue.toInt = 9223372036854775807 := by decide
  unfold add Int64.ofIntClamp
  -- the sum fits, or it is above the greatest number or below the least
  split
  · next hl =>
    split
    · next hr =>
      rw [Int64.toInt_ofIntLE]
      omega
    · next hr =>
      rw [hmax]
      omega
  · next hl =>
    rw [hmin]
    omega

/-- **Counts that are not negative can be added in either order**, wherever the sum stood before. -/
theorem add_right_comm {a b : Count} (ha : 0 ≤ a.toInt) (hb : 0 ≤ b.toInt) (z : Count) :
    add (add z a) b = add (add z b) a := by
  -- the sum only rises, so it is cut off at the upper end or nowhere
  have hz := z.le_toInt
  rw [← Int64.toInt_inj, toInt_add, toInt_add, toInt_add, toInt_add]
  omega

theorem nonnegative_toInt (a : Count) : 0 ≤ a.nonnegative.toInt := by
  unfold nonnegative
  split
  · decide
  · next h =>
    rw [Int64.lt_iff_toInt_lt] at h
    simpa using h

theorem toInt_add_nonneg {a b : Count} (ha : 0 ≤ a.toInt) (hb : 0 ≤ b.toInt) :
    0 ≤ (add a b).toInt := by
  rw [toInt_add]
  omega

end Count

namespace Tokens

/-- No count is negative. -/
structure Nonnegative (t : Tokens) : Prop where
  /-- Tokens of the question. -/
  input : 0 ≤ t.input.toInt
  /-- Tokens of the answer. -/
  output : 0 ≤ t.output.toInt
  /-- Tokens of the reasoning. -/
  reasoning : 0 ≤ t.reasoning.toInt
  /-- Tokens known before. -/
  cached : 0 ≤ t.cached.toInt
  /-- All tokens that count. -/
  total : 0 ≤ t.total.toInt

theorem toInt_derived_nonneg (t : Tokens) :
    0 ≤
      (Count.add (Count.add t.input.nonnegative t.output.nonnegative)
        t.reasoning.nonnegative).toInt :=
  Count.toInt_add_nonneg
    (Count.toInt_add_nonneg (Count.nonnegative_toInt t.input) (Count.nonnegative_toInt t.output))
    (Count.nonnegative_toInt t.reasoning)

/-- Normalized counts are not negative. -/
theorem nonnegative_normalize (t : Tokens) : t.normalize.Nonnegative where
  input := Count.nonnegative_toInt _
  output := Count.nonnegative_toInt _
  reasoning := Count.nonnegative_toInt _
  cached := Count.nonnegative_toInt _
  total := by
    have hderived := t.toInt_derived_nonneg
    unfold normalize
    dsimp only
    split
    · exact Count.nonnegative_toInt _
    · split
      · exact hderived
      · exact Count.nonnegative_toInt _

theorem add_right_comm {s t : Tokens} (hs : s.Nonnegative) (ht : t.Nonnegative) (z : Tokens) :
    (z.add s).add t = (z.add t).add s := by
  simp only [add, Tokens.mk.injEq]
  exact ⟨Count.add_right_comm hs.input ht.input _, Count.add_right_comm hs.output ht.output _,
    Count.add_right_comm hs.reasoning ht.reasoning _, Count.add_right_comm hs.cached ht.cached _,
    Count.add_right_comm hs.total ht.total _⟩

end Tokens

namespace Totals

/-- Two requests without negative counts can be counted in either order. -/
theorem add_right_comm {d e : Detail} (hd : d.tokens.Nonnegative) (he : e.tokens.Nonnegative)
    (t : Totals) : (t.add d).add e = (t.add e).add d := by
  have htokens := Tokens.add_right_comm hd he t.tokens
  cases hdf : d.failed <;> cases hef : e.failed <;> simp [add, hdf, hef, htokens]

theorem requests_ofDetails (ds : List Detail) : (ofDetails ds).requests = ds.length := by
  have hfrom : ∀ t : Totals, (ds.foldl add t).requests = t.requests + ds.length := by
    induction ds with
    | nil => intro t; rfl
    | cons d ds ih =>
      intro t
      rw [List.foldl_cons, ih, List.length_cons]
      simp only [add]
      omega
  rw [ofDetails, hfrom]
  exact Nat.zero_add _

theorem failed_ofDetails (ds : List Detail) : (ofDetails ds).failed = ds.countP (·.failed) := by
  have hfrom : ∀ t : Totals, (ds.foldl add t).failed = t.failed + ds.countP (·.failed) := by
    induction ds with
    | nil => intro t; rfl
    | cons d ds ih =>
      intro t
      rw [List.foldl_cons, ih, List.countP_cons]
      simp only [add]
      split <;> omega
  rw [ofDetails, hfrom]
  exact Nat.zero_add _

/-- **The order of requests without negative counts does not show in their totals.** -/
theorem ofDetails_perm {ds es : List Detail} (h : ds.Perm es)
    (hnonneg : ∀ d ∈ ds, d.tokens.Nonnegative) : ofDetails ds = ofDetails es :=
  h.foldl_eq' (fun d hd e he t => add_right_comm (hnonneg d hd) (hnonneg e he) t) {}

end Totals

namespace Snapshot

variable {s t : Snapshot}

theorem requests_totals (s : Snapshot) : s.totals.requests = s.records.length := by
  rw [totals, Totals.requests_ofDetails, List.length_map]

/-- **The requests of the buckets add up to those of the totals.** -/
theorem sum_requests (s : Snapshot) :
    (s.modelTotals.map (·.2.2.requests)).sum = s.totals.requests := by
  rw [requests_totals, records, List.length_flatMap, modelTotals, List.map_map]
  refine congrArg List.sum (List.map_congr_left fun b _ => ?_)
  rw [Function.comp_apply, Totals.requests_ofDetails, List.length_map]

/-- **The failed requests of the buckets add up to those of the totals.** -/
theorem sum_failed (s : Snapshot) : (s.modelTotals.map (·.2.2.failed)).sum = s.totals.failed := by
  rw [totals, Totals.failed_ofDetails, List.countP_map, records, List.countP_flatMap, modelTotals,
    List.map_map]
  refine congrArg List.sum (List.map_congr_left fun b _ => ?_)
  rw [Function.comp_apply, Function.comp_apply, Totals.failed_ofDetails, List.countP_map]
  rfl

theorem ascending_modelTotals (s : Snapshot) :
    s.modelTotals.Pairwise fun a b => Text.bytes a.1 < Text.bytes b.1 ∨
      a.1 = b.1 ∧ Text.bytes a.2.1 < Text.bytes b.2.1 := by
  rw [modelTotals_eq, List.pairwise_map]
  refine s.places_pairwise.imp fun hlt => ?_
  rw [Text.bytes_lt_iff, Text.bytes_lt_iff]
  exact Prod.Lex.toLex_lt_toLex.mp hlt

/-- Snapshots with the same records, in some order, have the same totals. -/
theorem totals_perm (h : s.records.Perm t.records)
    (hnonneg : ∀ r ∈ s.records, r.detail.tokens.Nonnegative) : s.totals = t.totals := by
  refine Totals.ofDetails_perm (h.map _) fun d hd => ?_
  obtain ⟨r, hr, rfl⟩ := List.mem_map.mp hd
  exact hnonneg r hr

/-- Snapshots with the same places and the same records, in some order, have the same totals of
buckets. -/
theorem modelTotals_perm (h : s.records.Perm t.records) (hplaces : s.places = t.places)
    (hnonneg : ∀ r ∈ s.records, r.detail.tokens.Nonnegative) : s.modelTotals = t.modelTotals := by
  have htotals : ∀ k m, Totals.ofDetails (s.details k m) = Totals.ofDetails (t.details k m) := by
    intro k m
    refine Totals.ofDetails_perm (details_perm h k m) fun d hd => ?_
    exact hnonneg ⟨k, m, d⟩ ((mem_records_iff s _).mpr hd)
  simp only [modelTotals_eq, hplaces, htotals]

end Snapshot

/-- The counts of a record that was made from an event are not negative. -/
theorem Event.nonnegative_normalize (e : Event) (c : Context) (now : Instant) :
    (e.normalize c now).detail.tokens.Nonnegative :=
  e.tokens.nonnegative_normalize

end UsageLedger
