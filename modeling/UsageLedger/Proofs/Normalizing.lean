import UsageLedger.Proofs.Totaling

/-!
# Normal records

An event is normalized wherever it is handled, and the record that comes of it may be reported
again, from an export or by a proxy that repeats itself.  Nothing is left to fill in then: a
normal record is named, its counts are not negative and its total does not have to be made up,
and an event that carries all of it is normalized to the same record, whatever it says beside
that.  Only failure can be added, by the status of the answer.

## Main definitions

* `Tokens.amount` — the total that reported counts amount to, in whole numbers.
* `Tokens.Normal`, `Record.Normal` — nothing is left to fill in.
* `Event.Reports` — an event carries all that is known of a record.

## Main results

* `Tokens.toInt_total_normalize` — the total of normalized counts.
* `Tokens.normalize_eq_self_iff` — **normalizing leaves exactly the normal counts as they are.**
* `Event.Reports.normalize_eq_iff` — when a report of a normal record is normalized to that record.
* `normalize_reported_again` — **normalization is a fixed point.**
-/

namespace UsageLedger

namespace Count

theorem toInt_nonnegative (a : Count) : a.nonnegative.toInt = max 0 a.toInt := by
  unfold nonnegative
  split
  · next h =>
    have hneg : a.toInt < 0 := by simpa [Int64.lt_iff_toInt_lt] using h
    exact (Int.max_eq_left (Int.le_of_lt hneg)).symm
  · next h =>
    have hnonneg : 0 ≤ a.toInt := by simpa [Int64.lt_iff_toInt_lt] using h
    exact (Int.max_eq_right hnonneg).symm

theorem nonnegative_eq_self {a : Count} (h : 0 ≤ a.toInt) : a.nonnegative = a := by
  rw [← Int64.toInt_inj, toInt_nonnegative, Int.max_eq_right h]

theorem eq_zero_iff (a : Count) : a = 0 ↔ a.toInt = 0 := by
  rw [← Int64.toInt_inj]
  rfl

end Count

namespace Tokens

/-- The total that reported counts amount to, in whole numbers: what is reported as the total if
that is positive, else the sum of question, answer and reasoning up to the end of the range if
that is, else what was known before. -/
def amount (t : Tokens) : Int :=
  let sum := min 9223372036854775807
    (max 0 t.input.toInt + max 0 t.output.toInt + max 0 t.reasoning.toInt)
  if 0 < t.total.toInt then t.total.toInt
  else if 0 < sum then sum
  else max 0 t.cached.toInt

theorem toInt_derived (t : Tokens) :
    (Count.add (Count.add t.input.nonnegative t.output.nonnegative) t.reasoning.nonnegative).toInt =
      min 9223372036854775807 (max 0 t.input.toInt + max 0 t.output.toInt +
        max 0 t.reasoning.toInt) := by
  simp only [Count.toInt_add, Count.toInt_nonnegative]
  omega

/-- **The total of normalized counts** is what the reported ones amount to. -/
theorem toInt_total_normalize (t : Tokens) : t.normalize.total.toInt = t.amount := by
  have hderived := toInt_derived t
  have hnonneg := t.toInt_derived_nonneg
  have hreported := Count.toInt_nonnegative t.total
  simp only [normalize, amount, ne_eq, Count.eq_zero_iff]
  generalize Count.add (Count.add t.input.nonnegative t.output.nonnegative)
    t.reasoning.nonnegative = derived at *
  rw [← hderived, ← Count.toInt_nonnegative t.cached]
  -- neither the total that is reported nor the sum can be negative, so that they count
  -- unless they are zero
  by_cases hpos : 0 < t.total.toInt
  · rw [if_pos (by omega), if_pos hpos]
    omega
  · rw [if_neg (by omega), if_neg hpos]
    by_cases hsumpos : 0 < derived.toInt
    · rw [if_pos (by omega), if_pos hsumpos]
    · rw [if_neg (by omega), if_neg hsumpos]

/-- Nothing is left to fill in: no count is negative, and where there is no total there are no
tokens that it could be made of. -/
structure Normal (t : Tokens) : Prop extends t.Nonnegative where
  /-- A total is missing only where there is nothing to make it of. -/
  made : t.total.toInt = 0 → t.amount = 0

theorem normal_normalize (t : Tokens) : t.normalize.Normal where
  toNonnegative := t.nonnegative_normalize
  made := by
    intro hzero
    have hamount := hzero
    rw [toInt_total_normalize] at hamount
    have hmax : ∀ a : Count, max 0 (max 0 a.toInt) = max 0 a.toInt :=
      fun a => Int.max_eq_right (Int.le_max_left _ _)
    -- the total was made of the same counts, of which only negative ones have changed
    simp only [amount, hzero, Int.lt_irrefl, if_false]
    simp only [normalize, Count.toInt_nonnegative, hmax]
    simp only [amount] at hamount
    split at hamount
    · omega
    · exact hamount

/-- **Normalizing leaves exactly the normal counts as they are.** -/
theorem normalize_eq_self_iff {t : Tokens} : t.normalize = t ↔ t.Normal := by
  constructor
  · intro h
    rw [← h]
    exact t.normal_normalize
  · intro h
    -- a total that is not positive is zero, and then it is the sum of the parts
    have htotal : t.normalize.total = t.total := by
      rw [← Int64.toInt_inj, toInt_total_normalize]
      rcases Int.lt_or_eq_of_le h.total with hpos | hzero
      · rw [amount, if_pos hpos]
      · rw [h.made hzero.symm, hzero]
    cases t
    simp only [normalize, mk.injEq] at htotal ⊢
    exact ⟨Count.nonnegative_eq_self h.input, Count.nonnegative_eq_self h.output,
      Count.nonnegative_eq_self h.reasoning, Count.nonnegative_eq_self h.cached, htotal⟩

end Tokens

/-- Nothing of a record is left to fill in. -/
structure Record.Normal (r : Record) : Prop where
  /-- The API key is named. -/
  apiKey : r.apiKey ≠ ""
  /-- The model is named. -/
  model : r.model ≠ ""
  /-- The counts are normal. -/
  tokens : r.detail.tokens.Normal

/-- An event carries all that is known of a record; of the provider a record knows nothing. -/
structure Event.Reports (e : Event) (r : Record) : Prop where
  /-- The instant. -/
  requestedAt : e.requestedAt = some r.detail.timestamp
  /-- The API key. -/
  apiKey : e.apiKey = r.apiKey
  /-- The model. -/
  model : e.model = r.model
  /-- The source. -/
  source : e.source = r.detail.source
  /-- The credentials. -/
  authIndex : e.authIndex = r.detail.authIndex
  /-- The tokens. -/
  tokens : e.tokens = r.detail.tokens
  /-- Whether it failed. -/
  failed : e.failed = r.detail.failed

theorem Context.pathName?_ne_empty {c : Context} {path : String} (h : c.pathName? = some path) :
    path ≠ "" := by
  rw [pathName?, Option.filter_eq_some_iff] at h
  exact of_decide_eq_true h.2

namespace Event

theorem identifier_ne_empty (e : Event) (c : Context) : e.identifier c ≠ "" := by
  rw [identifier]
  split
  · assumption
  · cases hpath : c.pathName? with
    | some path => exact Context.pathName?_ne_empty hpath
    | none =>
      rw [Option.getD_none]
      split
      · assumption
      · decide

theorem normal_normalize (e : Event) (c : Context) (now : Instant) :
    (e.normalize c now).Normal where
  apiKey := e.identifier_ne_empty c
  model := by
    rw [normalize]
    dsimp only
    split
    · assumption
    · decide
  tokens := e.tokens.normal_normalize

variable {e : Event} {r : Record}

/-- The record of an event that reports a normal record is that one, but for a failure that the
answer adds. -/
theorem Reports.normalize_eq (he : e.Reports r) (hr : r.Normal) (c : Context) (now : Instant) :
    e.normalize c now =
      { r with detail := { r.detail with failed := r.detail.failed || !c.success } } := by
  have hidentifier : e.identifier c = r.apiKey := by
    rw [identifier, he.apiKey, if_pos hr.apiKey]
  have htokens : r.detail.tokens.normalize = r.detail.tokens :=
    Tokens.normalize_eq_self_iff.mpr hr.tokens
  rw [normalize, hidentifier, he.requestedAt, he.model, he.source, he.authIndex, he.tokens,
    he.failed, if_pos hr.model, htokens, Option.getD_some]

/-- **An event that reports a normal record is normalized to it** exactly when it failed or the
answer is a success. -/
theorem Reports.normalize_eq_iff (he : e.Reports r) (hr : r.Normal) (c : Context) (now : Instant) :
    e.normalize c now = r ↔ r.detail.failed = true ∨ c.success = true := by
  rw [he.normalize_eq hr]
  obtain ⟨apiKey, model, timestamp, source, authIndex, tokens, failed⟩ := r
  cases failed <;> cases c.success <;> simp

end Event

/-- **Normalization is a fixed point.**  The record of any event is named and has no negative
counts, and its total is what the counts of the event amount to.  Whoever reports this record
again, with whatever provider, in whatever context and whenever, has it normalized to the same
record, and so under the same key, unless the record is that of a success and the context says
that it failed. -/
theorem normalize_reported_again (e : Event) (c : Context) (now : Instant) :
    (e.normalize c now).apiKey ≠ "" ∧ (e.normalize c now).model ≠ "" ∧
      (e.normalize c now).detail.tokens.Nonnegative ∧
      (e.normalize c now).detail.tokens.total.toInt = e.tokens.amount ∧
      ∀ e' : Event, e'.Reports (e.normalize c now) → ∀ (c' : Context) (now' : Instant),
        (e'.normalize c' now' = e.normalize c now ↔
          (e.normalize c now).detail.failed = true ∨ c'.success = true) ∧
        ((e.normalize c now).detail.failed = true ∨ c'.success = true →
          (e'.normalize c' now').key = (e.normalize c now).key) := by
  have hnormal := e.normal_normalize c now
  refine ⟨hnormal.apiKey, hnormal.model, hnormal.tokens.toNonnegative,
    e.tokens.toInt_total_normalize, ?_⟩
  intro e' hreports c' now'
  have hsame := hreports.normalize_eq_iff hnormal c' now'
  exact ⟨hsame, fun h => congrArg Record.key (hsame.mpr h)⟩

/-- An event of which nothing is known but the answer, whose counts passed the end of the range. -/
def overflowingEvent : Event where
  provider := "provider"
  tokens :=
    { input := -4, output := 9223372036854775807, reasoning := 9223372036854775807, total := -1 }

/-- The same request, as it is reported again from what was recorded. -/
def reportedAgain : Event where
  requestedAt := some .epoch
  apiKey := "/v1/chat"
  provider := "other"
  model := "unknown"
  failed := true
  tokens :=
    { output := 9223372036854775807, reasoning := 9223372036854775807,
      total := 9223372036854775807 }

/-- A path between blanks that stood in for the API key does so no more, and neither the total
nor the failure is made up a second time. -/
theorem normalize_reportedAgain :
    let c : Context := { requestPath := some "\u2003/v1/chat ", status := some 500 }
    reportedAgain.Reports (overflowingEvent.normalize c .epoch) ∧
      overflowingEvent.tokens.amount = 9223372036854775807 ∧
      ∀ (c' : Context) (now' : Instant), reportedAgain.normalize c' now' =
        overflowingEvent.normalize c .epoch := by
  intro c
  have hrecord : overflowingEvent.normalize c .epoch = ⟨"/v1/chat", "unknown",
      { timestamp := .epoch, tokens := reportedAgain.tokens, failed := true }⟩ := by decide +kernel
  have hreports : reportedAgain.Reports (overflowingEvent.normalize c .epoch) := by
    rw [hrecord]
    exact ⟨rfl, rfl, rfl, rfl, rfl, rfl, rfl⟩
  obtain ⟨-, -, -, hamount, hagain⟩ := normalize_reported_again overflowingEvent c .epoch
  refine ⟨hreports, ?_, fun c' now' => (hagain reportedAgain hreports c' now').1.mpr (.inl ?_)⟩
  · rw [← hamount, hrecord]
    rfl
  · rw [hrecord]

end UsageLedger
