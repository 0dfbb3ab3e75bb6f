import UsageLedger.Proofs.Traffic

/-!
# Restoring what was counted

An aggregate that is restored from the store its events are written to gains nothing: whatever
the store gives back, it knows already, however far the writes have come and whichever of them
failed.

## Main definitions

* `Host.UpToDate` — the aggregate has taken over what the store holds.

## Main results

* `Host.sound_start` — the invariant holds at the start.
* `restore_adds_nothing` — **a record that was counted is not counted again when the aggregate
  is restored.**
* `restore_adds_nothing_publishAll` — in particular after events that are published one after
  the other. -/

namespace UsageLedger

/-- The aggregate of a circuit has taken over all that its store holds: the store is empty, or
the aggregate was restored from it just now. -/
def Host.UpToDate (h : Host) (k : Circuit) : Prop :=
  (h.databaseAt k.store).rows = [] ∨
    ∃ (before : Host) (tally : Tally), before.Wired k ∧
      before.loadAndMerge k.bridge = (.ok (some tally), h)

/-- An aggregate that is up to date knows the records that the rows of the store give back. -/
theorem Host.UpToDate.knows {h : Host} {k : Circuit} (hu : h.UpToDate k) {row : Row}
    (hrow : row ∈ (h.databaseAt k.store).rows) {r : Record} (hscan : row.scan = .ok (some r)) :
    (h.aggregate k.aggregate).Knows r := by
  rcases hu with hempty | ⟨before, tally, hw, hload⟩
  · simp [hempty] at hrow
  · obtain ⟨h', hparts, hrows, ⟨e, herror⟩ | ⟨found, hread, -, hok⟩⟩ := loadAndMerge_cases hw
    · rw [hload] at herror
      cases herror
    · rw [hload] at hok
      obtain rfl := (Prod.mk.inj hok).2
      rw [aggregate_setAggregate (hparts.wired hw).aggregate]
      have hbefore : row ∈ (before.databaseAt k.store).rows := by
        rw [← hrows]
        exact hrow
      exact Snapshot.knows_merge_of_mem _
        ((Store.mem_records_of_readRows hread r).mpr ⟨row, hbefore, hscan⟩)

theorem Host.setAggregate_aggregate {h : Host} {id : Nat} {s : Snapshot} (hs : h.aggregate id = s) :
    (h.setAggregate id s).aggregates = h.aggregates := by
  rw [← hs, setAggregate, aggregate]
  refine List.ext_getElem? fun i => ?_
  rw [List.getElem?_set]
  split
  · next hid =>
    subst hid
    by_cases hlt : id < h.aggregates.length <;> simp [hlt]
  · rfl

/-- The invariant holds at the start. -/
theorem Host.sound_start {h : Host} {k : Circuit} (hw : h.Wired k)
    (hwaiting : h.waiting k.bridge = []) (hu : h.UpToDate k) : h.Sound k where
  wired := hw
  rows := fun _ hrow _ hscan => .inl (hu.knows hrow hscan)
  waiting := by simp [hwaiting]

/-- Where all that the store gives back is known, a restore that succeeds adds nothing. -/
theorem Host.Sound.restore {t h' : Host} {k : Circuit} (hsound : t.Sound k) {tally : Tally}
    (hrestore : t.loadAndMerge k.bridge = (.ok (some tally), h')) :
    tally.added = 0 ∧
      (∃ snapshot h'', t.load k.store .never = (.ok snapshot, h'') ∧
        tally.skipped = snapshot.recordCount) ∧
      h'.aggregates = t.aggregates := by
  obtain ⟨h₁, hparts, hrows, ⟨e, herror⟩ | ⟨found, hread, hload, hok⟩⟩ :=
    Host.loadAndMerge_cases hsound.wired
  · rw [hrestore] at herror
    cases herror
  · -- what a sound circuit has stored, its aggregate knows
    have hknown : ∀ r ∈ found.snapshot.records, (t.aggregate k.aggregate).Knows r := by
      intro r hr
      obtain ⟨row, hrow, hscan⟩ := (Store.mem_records_of_readRows hread r).mp hr
      exact hsound.knows hrow hscan
    rw [Snapshot.merge_eq_self hknown, hrestore] at hok
    obtain ⟨htally, rfl⟩ := Prod.mk.inj hok
    obtain rfl : tally = ⟨0, found.snapshot.recordCount⟩ := by simpa using htally
    refine ⟨rfl, ⟨_, _, hload, rfl⟩, ?_⟩
    rw [← hparts.aggregates]
    exact Host.setAggregate_aggregate (hparts.aggregate _)

/-- So nothing is added after events that were published one after the other, each in one go. -/
theorem restore_adds_nothing_publishAll {h : Host} {k : Circuit} (hw : h.Wired k)
    (hwaiting : h.waiting k.bridge = []) (hu : h.UpToDate k) (hs : Host.Sole k h)
    (es : List (Event × Context × Instant)) {tally : Tally} {h' : Host}
    (hrestore : (h.publishAll k.dispatcher es).loadAndMerge k.bridge = (.ok (some tally), h')) :
    tally.added = 0 ∧
      (∃ snapshot h'', (h.publishAll k.dispatcher es).load k.store .never = (.ok snapshot, h'') ∧
        tally.skipped = snapshot.recordCount) ∧
      h'.aggregates = (h.publishAll k.dispatcher es).aggregates := by
  obtain ⟨xs, hrun, -, -⟩ := Host.exists_run_of_publishAll hw hs es
  rw [hrun] at hrestore ⊢
  exact ((Host.sound_start hw hwaiting hu).run xs).restore hrestore

/-- A host with a store, an aggregate and a dispatcher that has events written before it counts
them. -/
def smallHost : Host :=
  let h := ((Host.addStore {} .openPrivate).onStore 0 fun s db => s.ensureSchema db .never).2
  { h with
    aggregates := [.empty]
    bridges := [⟨some 0, some 0, 0, .ofLimit 1⟩]
    dispatchers := [[.persistence 0, .recorder 0 0]] }

/-- The circuit of that host. -/
def smallCircuit : Circuit :=
  ⟨0, 0, 0, 0, 0⟩

end UsageLedger
