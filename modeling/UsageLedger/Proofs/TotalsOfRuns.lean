import UsageLedger.Proofs.ExactTotals
import UsageLedger.Proofs.HostRuns

/-!
# Totals after any run

Records come into aggregates in two ways, from events that are counted and from stores that are
loaded, and into stores from bridges, which are given events as well.  Every record that is made
from an event is normalized, and has no negative count; so if nothing else feeds aggregates and
stores, no aggregate ever holds a negative count, and its totals are exact.

## Main definitions

* `Activity.byEvents` — an activity that brings records from events only.
* `Host.FedByEvents` — all that is there at the start came from events.
* `Host.Measured` — there is no negative count in an aggregate, in a backlog or in a row.

## Main results

* `Host.Measured.act` — such an activity brings no negative count.
* `totals_of_run` — **the totals of every aggregate after any run**, flat and bucket by bucket.
-/

namespace UsageLedger

/-- The activity brings records from events only: aggregates are fed by recorders and restored
from stores, stores are fed by bridges, and other users put no row in. -/
def Activity.byEvents : Activity → Bool
  | .publish .. | .deliver .. | .finish .. | .restore _ | .toggle .. => true
  | .take .. => false
  | .operate (.ask _ call) => !call.writes
  | .operate _ => true
  | .disturb _ act => act.addsNoRow

namespace Host

/-- At the start aggregates are empty, nothing waits to be written, and every row there is was
made from an event. -/
structure FedByEvents (h : Host) : Prop where
  /-- The aggregates are empty. -/
  aggregates : ∀ s ∈ h.aggregates, s = .empty
  /-- Nothing waits to be written. -/
  waiting : ∀ id, h.waiting id = []
  /-- Every row was made from an event. -/
  rows : ∀ shelf, ∀ row ∈ h.rowsOn shelf, ∃ e c now, row = Row.ofRecord (Event.normalize e c now)

/-- There is no negative count in an aggregate, in a backlog or in a row. -/
structure Measured (h : Host) : Prop where
  /-- The aggregates have no empty level and no negative count. -/
  aggregates : ∀ s ∈ h.aggregates, s.Measured
  /-- What waits to be written has no negative count. -/
  waiting : ∀ id, ∀ r ∈ h.waiting id, r.detail.tokens.Nonnegative
  /-- What a row gives back has no negative count. -/
  rows : ∀ shelf, ∀ row ∈ h.rowsOn shelf, ∀ r, row.scan = .ok (some r) → r.detail.tokens.Nonnegative

variable {h h' : Host}

theorem FedByEvents.measured (hf : h.FedByEvents) : h.Measured where
  aggregates := by
    intro s hs
    rw [hf.aggregates s hs]
    exact Snapshot.measured_empty
  waiting := by simp [hf.waiting]
  rows := by
    intro shelf row hrow r hscan
    obtain ⟨e, c, now, rfl⟩ := hf.rows shelf row hrow
    rw [Row.eq_of_scan_ofRecord hscan]
    exact e.nonnegative_normalize c now

theorem Measured.aggregate (hm : h.Measured) (id : Nat) : (h.aggregate id).Measured := by
  rw [Host.aggregate, List.getD_eq_getElem?_getD]
  cases hget : h.aggregates[id]? with
  | none => exact Snapshot.measured_empty
  | some s => exact hm.aggregates s (List.mem_of_getElem? hget)

theorem Measured.sameParts (hm : h.Measured) (hp : h.SameParts h')
    (hrows : ∀ shelf row, row ∈ h'.rowsOn shelf → row ∈ h.rowsOn shelf) : h'.Measured where
  aggregates := hp.aggregates ▸ hm.aggregates
  waiting := fun id => hp.waiting id ▸ hm.waiting id
  rows := fun shelf row hrow => hm.rows shelf row (hrows shelf row hrow)

theorem Measured.setAggregate (hm : h.Measured) (id : Nat) {s : Snapshot} (hs : s.Measured) :
    (h.setAggregate id s).Measured where
  aggregates := by
    intro s' hs'
    rcases List.mem_or_eq_of_mem_set hs' with hold | rfl
    · exact hm.aggregates s' hold
    · exact hs
  waiting := hm.waiting
  rows := hm.rows

theorem Measured.setBacklog (hm : h.Measured) {id : Nat} {b : Bridge} (hb : h.bridges[id]? = some b)
    {backlog : Backlog} (hbacklog : ∀ r ∈ backlog.waiting, r.detail.tokens.Nonnegative) :
    Measured { h with bridges := h.bridges.set id { b with backlog } } where
  aggregates := hm.aggregates
  waiting := by
    intro id' r hr
    rw [Host.waiting] at hr
    dsimp only at hr
    by_cases hid : id = id'
    · subst hid
      rw [List.getElem?_set_self (List.getElem?_eq_some_iff.mp hb).1] at hr
      exact hbacklog r hr
    · rw [List.getElem?_set_ne hid] at hr
      exact hm.waiting id' r hr
  rows := hm.rows

/-! ### What an activity brings -/

/-- Giving an event to a handler brings its record, normalized. -/
theorem Measured.deliver (hm : h.Measured) (handler : Handler) (e : Event) (c : Context)
    (now : Instant) :
    (h.deliver handler e c now).Measured := by
  -- what an event comes to is never negative
  have hevent := e.nonnegative_normalize c now
  cases handler with
  | persistence bridge =>
    rw [Host.deliver]
    rcases bridgeEvent_cases h bridge e c now with heq | ⟨b, backlog, hb, -, hnew, hparts, -⟩
    · rw [heq]
      exact hm
    · have hoffered : ∀ r ∈ backlog.waiting, r.detail.tokens.Nonnegative := by
        intro r hr
        rcases hnew r hr with hold | rfl
        · exact hm.waiting bridge r (waiting_of_bridge hb ▸ hold)
        · exact hevent
      have hworld := h.sameStorage_deliver (.persistence bridge) e c now
      exact (hm.setBacklog hb hoffered).sameParts hparts fun shelf row hrow =>
        hworld.rowsOn shelf ▸ hrow
  | recorder aggregate toggle =>
    rw [Host.deliver]
    split
    · exact hm.setAggregate aggregate ((hm.aggregate aggregate).push hevent)
    · exact hm
  | probe number => exact ⟨hm.aggregates, hm.waiting, hm.rows⟩

/-- A write that is finished puts in a row of a record that waited. -/
theorem Measured.finishWriteAt (hm : h.Measured) (id i : Nat) :
    (h.finishWriteAt id i).Measured := by
  have hrows : ∀ shelf, ∀ row ∈ (h.finishWriteAt id i).rowsOn shelf, ∀ r, row.scan = .ok (some r) →
      r.detail.tokens.Nonnegative := by
    intro shelf row hrow r hscan
    rcases h.sameStorage_finishWriteAt id i with hw | ⟨store, written, hwritten, hw⟩
    · exact hm.rows shelf row (hw.rowsOn shelf ▸ hrow) r hscan
    · rw [hw.rowsOn shelf] at hrow
      rcases mem_rowsOn_insert hrow with hold | rfl
      · exact hm.rows shelf row hold r hscan
      · -- the one new row holds the record that waited
        obtain rfl := Row.eq_of_scan_ofRecord hscan
        exact hm.waiting id written hwritten
  rcases finishWriteAt_cases h id i with heq | ⟨b, r, backlog, hb, hfinish, hparts, -⟩
  · rw [heq]
    exact hm
  · have hrest : ∀ r' ∈ backlog.waiting, r'.detail.tokens.Nonnegative := fun r' hr' =>
      hm.waiting id r' (waiting_of_bridge hb ▸ (Backlog.mem_of_finish? hfinish).2 r' hr')
    have hset := hm.setBacklog hb hrest
    exact ⟨hparts.aggregates ▸ hset.aggregates, fun id' => hparts.waiting id' ▸ hset.waiting id',
      hrows⟩

theorem exists_mem_rowsOn {id : Nat} {row : Row} (hrow : row ∈ (h.databaseAt id).rows) :
    ∃ shelf, row ∈ h.rowsOn shelf := by
  rw [databaseAt] at hrow
  cases hget : h.stores[id]? with
  | none =>
    rw [hget] at hrow
    cases hrow
  | some held =>
    rw [hget] at hrow
    exact ⟨_, rows_databaseOf hget ▸ hrow⟩

theorem Measured.load (hm : h.Measured) (id : Nat) (i : Interruption) {snapshot : Snapshot}
    (hload : (h.load id i).1 = .ok snapshot) :
    ∀ r ∈ snapshot.records, r.detail.tokens.Nonnegative := by
  obtain ⟨found, hread, rfl⟩ := readRows_of_load hload
  intro r hr
  obtain ⟨row, hrow, hscan⟩ := (Store.mem_records_of_readRows hread r).mp hr
  obtain ⟨shelf, hkept⟩ := exists_mem_rowsOn hrow
  exact hm.rows shelf row hkept r hscan

theorem Measured.operate (hm : h.Measured) {op : Operation}
    (hop : ∀ id call, op = .ask id call → call.writes = false) : (h.operate op).Measured :=
  hm.sameParts (h.sameParts_operate op) fun _ _ => mem_rowsOn_operate hop

theorem Measured.loadAndMerge (hm : h.Measured) (id : Nat) : (h.loadAndMerge id).2.Measured := by
  rcases h.loadAndMerge_eq_or id with heq | ⟨b, store, aggregate, hb, hstore, haggregate⟩
  · rw [heq]
    exact hm
  · have hreads : ∀ id call, Operation.ask store (.load .never) = .ask id call →
        call.writes = false := by
      rintro id call ⟨⟩
      rfl
    have hafter : (h.load store .never).2.Measured := hm.operate hreads
    rw [loadAndMerge_eq hb hstore haggregate]
    cases hload : (h.load store .never).1 with
    | error e => exact hafter
    | ok snapshot =>
      exact hafter.setAggregate aggregate ((hm.aggregate aggregate).merge (hm.load store _ hload))

/-- **An activity that brings records from events only brings no negative count.** -/
theorem Measured.act (hm : h.Measured) {x : Activity} (hx : x.byEvents = true) :
    (h.act x).Measured := by
  cases x with
  | publish dispatcher e c now =>
    exact publish_induction (fun _ handler hm => hm.deliver handler _ c now)
      (fun _ id i hm => hm.finishWriteAt id i) dispatcher hm
  | deliver handler e c now => exact hm.deliver handler e c now
  | finish bridge i => exact hm.finishWriteAt bridge i
  | restore bridge => exact hm.loadAndMerge bridge
  | take aggregate intake => cases hx
  | toggle number enabled => exact ⟨hm.aggregates, hm.waiting, hm.rows⟩
  | operate op =>
    refine hm.operate ?_
    rintro id call rfl
    simpa [Activity.byEvents] using hx
  | disturb l act => exact hm.sameParts (sameParts_disturb h l act) fun _ _ => mem_rowsOn_disturb hx

theorem Measured.actAll (hm : h.Measured) {xs : List Activity} (hxs : ∀ x ∈ xs, x.byEvents = true) :
    (h.actAll xs).Measured := by
  induction xs generalizing h with
  | nil => exact hm
  | cons x xs ih =>
    exact ih (hm.act (hxs x List.mem_cons_self)) fun y hy => hxs y (List.mem_cons_of_mem _ hy)

end Host

/-- **The totals of every aggregate after any run.**  Aggregates are fed by recorders and
restored from stores, stores are fed by bridges, in any order and with any counts, however their
writes end.  Then the totals of an aggregate count each record as one request, which succeeded
or failed, and each of the five counts is the sum in whole numbers, or the largest count if that
is less, whatever the order; they are those of the buckets taken together; and the rows of the
buckets ascend, one for each bucket that is not empty. -/
theorem totals_of_run {h : Host} (hstart : h.FedByEvents) {xs : List Activity}
    (hxs : ∀ x ∈ xs, x.byEvents = true) (id : Nat) : ((h.actAll xs).aggregate id).ExactTotals :=
  ((hstart.measured.actAll hxs).aggregate id).exactTotals

/-- An event with the largest count. -/
def ampleEvent : Event :=
  { tokens := { input := Int64.maxValue } }

/-- A host whose first dispatcher has events counted and written, and whose second one has them
counted only; a second aggregate is restored. -/
def ampleHost : Host :=
  { smallHost with
    aggregates := [.empty, .empty]
    bridges := [⟨some 0, some 1, 0, .ofLimit 1⟩]
    dispatchers := [[.persistence 0, .recorder 0 0], [.recorder 0 0]] }

/-- The event is written and counted, the second aggregate is restored, and the event is counted
once more. -/
def ampleRun : List Activity :=
  [.publish 0 ampleEvent {} .epoch, .restore 0, .publish 1 ampleEvent {} .epoch]

/-- There are no rows on the usual disk. -/
theorem Disk.rowsAt_usual (l : Location) : ({} : Disk).rowsAt l = [] := by
  -- the only entries are the root and the directory one works in
  have hentry : ∀ e, Disk.entry? {} l = some e → e = .directory .shared := by
    intro e he
    unfold entry? at he
    split at he
    · exact (Option.some.inj he).symm
    · simp only [List.lookup_cons] at he
      split at he
      · exact (Option.some.inj he).symm
      · cases he
  rw [rowsAt]
  split
  · next e he =>
    rw [hentry e he]
    rfl
  · rfl

theorem fedByEvents_ampleHost : ampleHost.FedByEvents where
  aggregates := by
    intro s hs
    simpa [ampleHost] using hs
  waiting := by
    intro id
    cases id <;> rfl
  rows := by
    intro shelf row hrow
    have hnone : ampleHost.rowsOn shelf = [] := by
      cases shelf with
      | file l => exact Disk.rowsAt_usual l
      | own id => cases id <;> rfl
    rw [hnone] at hrow
    cases hrow

/-- Two requests with the largest count are counted, and their sum is the largest count; the
aggregate that was restored has the one that was written. -/
theorem totals_of_ampleRun :
    ampleHost.FedByEvents ∧ (∀ x ∈ ampleRun, x.byEvents = true) ∧
      ((ampleHost.actAll ampleRun).aggregate 0).totals.requests = 2 ∧
      (((ampleHost.actAll ampleRun).aggregate 0).totals.tokens.input).toInt = Int64.maxValue.toInt ∧
      ((ampleHost.actAll ampleRun).aggregate 1).totals.requests = 1 := by
  have hby : ∀ x ∈ ampleRun, x.byEvents = true := by decide
  have hcounted := totals_of_run fedByEvents_ampleHost hby 0
  have hrestored := totals_of_run fedByEvents_ampleHost hby 1
  refine ⟨fedByEvents_ampleHost, hby, ?_, ?_, ?_⟩
  · rw [hcounted.requests.1]
    decide +kernel
  · rw [hcounted.exact.tokens Tokens.input (by simp [Tokens.parts]), List.map_map]
    decide +kernel
  · rw [hrestored.requests.1]
    decide +kernel

end UsageLedger
