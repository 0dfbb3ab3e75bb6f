import UsageLedger.Proofs.Appending
import UsageLedger.Proofs.HostRuns
import UsageLedger.Proofs.Loading
import UsageLedger.Proofs.Reports

/-!
# Restoring again

An aggregate may be restored at any time and any number of times, whatever it holds already and
whoever put rows into the table.  A restore that fails leaves the aggregates alone; one that
succeeds touches neither stores nor files and only adds to one aggregate; and once it has
succeeded it finds nothing new until the table changes.

What carries the last part is that aggregates forget nothing and that a store which could be
read from still can: so only the table decides what another restore finds.

## Main definitions

* `Host.Loadable` — the store is ready, and no row of the table has a cell of a wrong kind.
* `Host.SameStores` — two hosts with the same files, databases and lifecycles.
* `Host.Restored` — what a restore that succeeds leads to.

## Main results

* `Host.load_eq_ok_iff` — when a load succeeds.
* `Host.restored_of_load` — **what a restore that succeeds leads to.**
* `Host.restored_again` — **a restore finds nothing new until the table changes.**
* `restore_safe_to_repeat` — a restore is safe to fail and safe to repeat.
-/

namespace UsageLedger

/-! ### When a load succeeds -/

theorem Store.phase_load (s : Store) (db : Database) (i : Interruption) :
    (s.load db i).store.phase = s.phase := by
  rw [load]
  split
  · rfl
  · rw [heeding]
    split
    · rfl
    · dsimp only
      split <;> rfl

theorem Store.exists_ready?_of_load {s : Store} {db : Database} {i : Interruption}
    {snapshot : Snapshot} (h : (s.load db i).answer.map (·.snapshot) = .ok snapshot) :
    ∃ c, s.ready? = some c := by
  rw [load] at h
  split at h
  · cases h
  · next c hr => exact ⟨c, hr⟩

theorem Store.table_of_readRows {i : Interruption} {db : Database} {found : Loaded}
    (h : readRows i db = .ok found) : ∃ l, db.relation = .ledger l := by
  rw [readRows] at h
  cases hr : db.relation with
  | ledger l => exact ⟨l, rfl⟩
  | _ => simp [hr, Relation.shape, Shape.checkLoad] at h

/-- As many records are found as there are rows with a timestamp that can be read. -/
theorem Store.recordCount_eq_readableCount {i : Interruption} {db : Database} {found : Loaded}
    (h : readRows i db = .ok found) : found.snapshot.recordCount = readableCount db.rows := by
  obtain ⟨hperm, -, hread⟩ := readRows_ok h
  rw [Snapshot.recordCount_eq, hperm.length_eq, length_filterMap_record? hread]

namespace Host

variable {h h' : Host} {id store aggregate : Nat}

/-- The store with a number is ready, the usage table is there, and none of its rows has a cell
of a wrong kind in a column that is read. -/
structure Loadable (h : Host) (id : Nat) : Prop where
  /-- The store is ready. -/
  reads : h.Reads id
  /-- The table can be read. -/
  table : ∃ l, (h.databaseAt id).relation = .ledger l ∧ ∀ row ∈ l.rows, ¬row.Unreadable

/-- **A load succeeds exactly when the store is ready and the table can be read.** -/
theorem load_eq_ok_iff : (∃ snapshot, (h.load id .never).1 = .ok snapshot) ↔ h.Loadable id := by
  constructor
  · rintro ⟨snapshot, hload⟩
    obtain ⟨found, hread, -⟩ := readRows_of_load hload
    obtain ⟨l, hl⟩ := Store.table_of_readRows hread
    -- the rows were read, so they can be; and the store that read them was ready
    refine ⟨?_, l, hl, (Store.readRows_eq_ok_iff hl).mp ⟨found, hread⟩⟩
    rw [answer_load] at hload
    cases hget : h.stores[id]? with
    | none =>
      rw [onStore, hget] at hload
      cases hload
    | some held =>
      rw [answer_onStore hget] at hload
      obtain ⟨c, hr⟩ := Store.exists_ready?_of_load hload
      exact ⟨held, c, hget, hr⟩
  · rintro ⟨⟨held, c, hget, hr⟩, l, hl, hsound⟩
    obtain ⟨found, hread⟩ := (Store.readRows_eq_ok_iff hl).mpr hsound
    obtain ⟨h', hload⟩ := load_ok hget hr (Database.shape_of_table hl) hread
    exact ⟨found.snapshot, by rw [hload]⟩

theorem load_eq_error_iff : (∃ e, (h.load id .never).1 = .error e) ↔ ¬h.Loadable id := by
  rw [← load_eq_ok_iff]
  cases (h.load id .never).1 <;> simp

/-! ### What a load leaves as it is -/

/-- Two hosts with the same files, with stores that have come as far, and with the same database
for each of them. -/
structure SameStores (h h' : Host) : Prop where
  /-- The files. -/
  entries : ∀ l, h'.disk.entry? l = h.disk.entry? l
  /-- How far the stores have come. -/
  phases : h'.phases = h.phases
  /-- Their databases. -/
  databases : ∀ id, h'.databaseAt id = h.databaseAt id

theorem databaseOf_load (h : Host) (id : Nat) (i : Interruption) (held : Held) :
    (h.load id i).2.databaseOf held = h.databaseOf held := by
  rw [databaseOf, databaseOf]
  simp only [Disk.database?, entry?_load]

theorem stores_load {held : Held} (hget : h.stores[id]? = some held) (i : Interruption) :
    (h.load id i).2.stores =
      h.stores.set id { held with store := (held.store.load (h.databaseOf held) i).store } := by
  have hreplaced := replaced_load hget i
  rw [Store.database_load] at hreplaced
  rw [hreplaced.stores, own_databaseOf]

/-- **A load touches neither files nor databases**, and takes no store on its way. -/
theorem sameStores_load (h : Host) (id : Nat) (i : Interruption) :
    h.SameStores (h.load id i).2 := by
  cases hget : h.stores[id]? with
  | none =>
    have hself : (h.load id i).2 = h := by rw [load, onStore, hget]
    rw [hself]
    exact ⟨fun _ => rfl, rfl, fun _ => rfl⟩
  | some held =>
    obtain ⟨hlt, rfl⟩ := List.getElem?_eq_some_iff.mp hget
    refine ⟨h.entry?_load id i, ?_, fun id' => ?_⟩
    · rw [phases, stores_load hget, List.map_set, Store.phase_load, phases]
      -- the store that was asked is put back in its phase
      refine List.ext_getElem (by simp) fun n _ hn => ?_
      rw [List.getElem_set]
      split
      · next hid =>
        subst hid
        rw [List.getElem_map]
      · rfl
    · rw [databaseAt, stores_load hget, databaseAt]
      by_cases hid : id = id'
      · subst hid
        rw [List.getElem?_set_self hlt, hget]
        exact h.databaseOf_load id i _
      · rw [List.getElem?_set_ne hid]
        cases h.stores[id']? with
        | none => rfl
        | some held' => exact h.databaseOf_load id i held'

/-! ### A restore that succeeds -/

/-- What a restore that succeeds leads to, from one host to another one and with an answer. -/
structure Restored (h : Host) (store aggregate : Nat) (tally : Tally) (h' : Host) : Prop where
  /-- Stores and files are as they were. -/
  stores : h.SameStores h'
  /-- Every bucket of the aggregate is there, with its details in their places. -/
  positions : ∀ k m bucket, (h.aggregate aggregate).bucket? k m = some bucket →
    ∃ more, (h'.aggregate aggregate).bucket? k m = some (bucket ++ more)
  /-- The other aggregates are as they were. -/
  others : ∀ id, id ≠ aggregate → h'.aggregate id = h.aggregate id
  /-- A row with a timestamp that can be read gives back a record, and its bucket has a detail
  with its key. -/
  known : ∀ row ∈ (h.databaseAt store).rows, row.instant?.isSome = true →
    ∃ r, row.scan = .ok (some r) ∧ (h'.aggregate aggregate).Knows r
  /-- Those rows are counted, as added or as skipped. -/
  counted : tally.added + tally.skipped = readableCount (h.databaseAt store).rows

variable {b : Bridge}

/-- **What a restore that succeeds leads to.** -/
theorem restored_of_load (hb : h.bridges[id]? = some b) (hstore : b.store = some store)
    (haggregate : b.aggregate = some aggregate) (hthere : aggregate < h.aggregates.length)
    {snapshot : Snapshot} (hload : (h.load store .never).1 = .ok snapshot) :
    ∃ tally h', h.loadAndMerge id = (.ok (some tally), h') ∧
      h.Restored store aggregate tally h' := by
  obtain ⟨found, hread, rfl⟩ := readRows_of_load hload
  have hparts := h.sameParts_load store .never
  have hsame := h.sameStores_load store .never
  have hmerge := loadAndMerge_eq hb hstore haggregate
  rw [hload] at hmerge
  refine ⟨_, _, hmerge, ?_⟩
  have hset := aggregate_setAggregate_eq (h.load store .never).2 aggregate
    ((h.aggregate aggregate).merge found.snapshot).1
  rw [hparts.aggregates] at hset
  have hhere := hset aggregate
  rw [if_pos ⟨rfl, hthere⟩] at hhere
  refine ⟨⟨hsame.entries, hsame.phases, hsame.databases⟩, ?_, ?_, ?_, ?_⟩
  · -- a bucket only grows at its end
    intro k m bucket hbucket
    rw [hhere, Snapshot.bucket?_merge]
    split
    · exact ⟨[], by rw [hbucket, List.append_nil]⟩
    · exact ⟨_, by rw [Snapshot.details, hbucket, Option.getD_some]⟩
  · intro id' hid'
    rw [hset, if_neg fun hboth => hid' hboth.1.symm, hparts.aggregate]
  · intro row hrow hsome
    -- a row whose timestamp is read was loaded, so the aggregate has met its record
    obtain ⟨r?, hscan⟩ := (Store.readRows_ok hread).2.2 row hrow
    have hrecord := Row.isSome_record? hscan
    rw [hsome, Option.isSome_iff_exists] at hrecord
    obtain ⟨r, hr⟩ := hrecord
    have hscan' := Row.record?_eq_some.mp hr
    refine ⟨r, hscan', ?_⟩
    rw [hhere]
    exact Snapshot.knows_merge_of_mem _
      ((Store.mem_records_of_readRows hread r).mpr ⟨row, hrow, hscan'⟩)
  · rw [Snapshot.added_add_skipped, Store.recordCount_eq_readableCount hread]

/-- **A restore finds nothing new until the table changes**: if the aggregate has learnt of all
rows, and the store can be read from, then it succeeds and leaves the aggregates as they are. -/
theorem restored_again (hb : h.bridges[id]? = some b) (hstore : b.store = some store)
    (haggregate : b.aggregate = some aggregate) (hloadable : h.Loadable store)
    (hknown : ∀ row ∈ (h.databaseAt store).rows, ∀ r, row.scan = .ok (some r) →
      (h.aggregate aggregate).Knows r) :
    ∃ h', h.loadAndMerge id = (.ok (some ⟨0, readableCount (h.databaseAt store).rows⟩), h') ∧
      h'.aggregates = h.aggregates := by
  obtain ⟨snapshot, hload⟩ := load_eq_ok_iff.mpr hloadable
  obtain ⟨found, hread, rfl⟩ := readRows_of_load hload
  have hfound : ∀ r ∈ found.snapshot.records, (h.aggregate aggregate).Knows r := by
    intro r hr
    obtain ⟨row, hrow, hscan⟩ := (Store.mem_records_of_readRows hread r).mp hr
    exact hknown row hrow r hscan
  have hself := Snapshot.merge_eq_self hfound
  have hmerge := loadAndMerge_eq hb hstore haggregate
  rw [hload] at hmerge
  dsimp only at hmerge
  rw [hself, Store.recordCount_eq_readableCount hread] at hmerge
  have hparts := h.sameParts_load store .never
  exact ⟨_, hmerge, (setAggregate_aggregate (hparts.aggregate aggregate)).trans hparts.aggregates⟩

end Host

open Host in
/-- **A restore is safe to fail and safe to repeat**, for every bridge with a store and an
aggregate, whatever these hold.  It fails with the error of the load, exactly when the store is
not ready or the table cannot be read, and then the aggregates are as they were.  If it
succeeds, stores and files are as they were, the aggregate has all its details in their places
and knows every row that can be read, and these rows are counted.  Whatever happens from then
on, as long as the store is not closed and the table is the same in the end, a restore succeeds
again, adds nothing, and leaves the aggregates as they are. -/
theorem restore_safe_to_repeat {h : Host} {id store aggregate : Nat} {b : Bridge}
    (hb : h.bridges[id]? = some b) (hstore : b.store = some store)
    (haggregate : b.aggregate = some aggregate) (hthere : aggregate < h.aggregates.length) :
    (¬h.Loadable store ↔ ∃ e, (h.load store .never).1 = .error e) ∧
      (∀ e, (h.load store .never).1 = .error e →
        (h.loadAndMerge id).1 = .error e ∧ (h.loadAndMerge id).2.aggregates = h.aggregates) ∧
      (h.Loadable store →
        ∃ tally h', h.loadAndMerge id = (.ok (some tally), h') ∧
          h.Restored store aggregate tally h' ∧
          ∀ xs : List Activity, (∀ x ∈ xs, x ≠ .operate (.ask store .close)) →
            ((h'.actAll xs).databaseAt store).relation = (h.databaseAt store).relation →
            ∃ h'', (h'.actAll xs).loadAndMerge id =
                (.ok (some ⟨0, readableCount (h.databaseAt store).rows⟩), h'') ∧
              h''.aggregates = (h'.actAll xs).aggregates) := by
  refine ⟨load_eq_error_iff.symm, fun e hload => ?_, fun hloadable => ?_⟩
  · rw [loadAndMerge_eq hb hstore haggregate, hload]
    exact ⟨rfl, (h.sameParts_load store .never).aggregates⟩
  · obtain ⟨snapshot, hload⟩ := load_eq_ok_iff.mpr hloadable
    obtain ⟨tally, h', hrestore, hrestored⟩ := restored_of_load hb hstore haggregate hthere hload
    refine ⟨tally, h', hrestore, hrestored, fun xs hopen hsame => ?_⟩
    -- the restore is the first thing that happened, and aggregates have only taken in since
    obtain rfl : (h.act (.restore id)) = h' := by rw [act, hrestore]
    have hlater := (h.act (.restore id)).later_actAll xs
    have hreads : ((h.act (.restore id)).actAll xs).Reads store :=
      (hloadable.reads.act (x := .restore id) (by simp)).actAll hopen
    generalize (h.act (.restore id)).actAll xs = later at hlater hreads hsame
    obtain ⟨backlog, hb'⟩ := (h.later_act (.restore id)).bridges id b hb
    obtain ⟨backlog', hb''⟩ := hlater.bridges id _ hb'
    obtain ⟨l, hl, hsound⟩ := hloadable.table
    have hrows : (later.databaseAt store).rows = (h.databaseAt store).rows := by
      rw [Database.rows, Database.rows, hsame]
    have hagain := restored_again hb'' hstore haggregate ⟨hreads, l, hsame.trans hl, hsound⟩ (by
      intro row hrow r hscan
      rw [hrows] at hrow
      have hreadable := Row.isSome_record? hscan
      rw [Row.record?_eq_some.mpr hscan] at hreadable
      obtain ⟨r', hscan', hknows⟩ := hrestored.known row hrow hreadable.symm
      rw [hscan] at hscan'
      cases hscan'
      exact hlater.knows hknows)
    rwa [hrows] at hagain

/-- A table with two rows of the same content under different keys, and one whose timestamp
cannot be read. -/
def repeatingTable : Ledger where
  rows := [foreignRow (.text "2024-01-01T00:00:00Z") (.integer 1) "a",
    foreignRow (.text "2024-01-01T00:00:00Z") (.integer 1) "b",
    foreignRow (.text "soon") (.integer 0) "c"]
  unique := true
  lookup := true

/-- A host with a store that is ready over this table, an aggregate that counted a request
twice, and a bridge between the two. -/
def repeatingHost : Host where
  stores :=
    [{ store := { phase := .ready, connection := some { busyTimeout := 0, seen := .ledger } }
       own := { version := 1, relation := .ledger repeatingTable } }]
  aggregates := [Snapshot.countedTwice]
  bridges := [⟨some 0, some 0, 0, .ofLimit 1⟩]

/-- An event is counted, and the aggregate takes over another snapshot. -/
def repeatingRun : List Activity :=
  [.deliver (.recorder 0 0) {} {} .epoch, .take 0 (.merge Snapshot.repeating)]

theorem repeatingHost_loadable : repeatingHost.Loadable 0 where
  reads := ⟨_, _, rfl, rfl⟩
  table := ⟨repeatingTable, rfl, by simp [repeatingTable, foreignRow, Row.Unreadable, Row.get]⟩

/-- Two rows can be read, and are counted by the first restore; the one after the run adds
nothing. -/
theorem restore_repeatingHost :
    ∃ tally h', repeatingHost.loadAndMerge 0 = (.ok (some tally), h') ∧
      tally.added + tally.skipped = 2 ∧
      ∃ h'', (h'.actAll repeatingRun).loadAndMerge 0 = (.ok (some ⟨0, 2⟩), h'') ∧
        h''.aggregates = (h'.actAll repeatingRun).aggregates := by
  have hthere : 0 < repeatingHost.aggregates.length := by decide
  have hbridge : repeatingHost.bridges[0]? = some ⟨some 0, some 0, 0, .ofLimit 1⟩ := rfl
  obtain ⟨-, -, hsucceeds⟩ := restore_safe_to_repeat hbridge rfl rfl hthere
  obtain ⟨tally, h', hrestore, hrestored, hagain⟩ := hsucceeds repeatingHost_loadable
  have hcount : readableCount (repeatingHost.databaseAt 0).rows = 2 := by decide +kernel
  rw [hcount] at hagain
  refine ⟨tally, h', hrestore, hcount ▸ hrestored.counted,
    hagain repeatingRun (by simp [repeatingRun]) ?_⟩
  -- neither of the two reaches the store
  have hworld : h'.SameStorage (h'.actAll repeatingRun) :=
    (h'.sameStorage_deliver (.recorder 0 0) {} {} .epoch).trans ⟨rfl, rfl⟩
  rw [hworld.databaseAt 0, hrestored.stores.databases 0]

end UsageLedger
