import UsageLedger.Proofs.Operations
import UsageLedger.Proofs.Session

/-!
# What a request does to store and database

The operations of a store seen as answers to requests.  One lemma, `serve_cases`, says what a
request to write or to read leads to; all else is taken from it, and from `Call.onTable_cases`,
which says what one that went through has done.  A request that fails leaves
everything as it was, one that succeeds adds to the rows, if anything, and neither depends on
what the store's connection remembers as long as the table is there.

## Main definitions

* `Call.onTable` — what a request leads to when the store is ready and the table is there.
* `Store.Served` — everything that a request to write or to read can lead to.

## Main results

* `Store.serve_cases` — what a request to write or to read leads to.
* `Store.serve_error` — a failed request changes nothing.
* `Store.serve_congr` — what a connection remembers does not show while the table is there.
* `Store.Quiet.serve`, `Store.phase_serve` — what a request keeps, and how far it takes the store.
-/

namespace UsageLedger

namespace Call

/-- The call is one to write or to read. -/
def usesTable : Call → Bool
  | insert _ | persist .. | load _ | count => true
  | _ => false

/-- What a call to write or to read leads to when the store is ready and the table is there. -/
def onTable (db : Database) : Call → Except Error (Reply × Database)
  | insert r =>
    match db.offer (Row.ofRecord r) with
    | .ok (added, db) => .ok (.inserted added, db)
    | .error f => .error (.write .insert f)
  | persist snapshot i =>
    if i.atStart then .error .cancelled
    else
      match Store.insertAll i 0 snapshot.records {} db with
      | .ok (tally, db) => .ok (.persisted tally, db)
      | .error e => .error e
  | load i =>
    if i.atStart then .error .cancelled
    else
      match Store.readRows i db with
      | .ok found => .ok (.loaded found, db)
      | .error e => .error e
  | count => .ok (.counted db.rowCount, db)
  | _ => .ok (.done, db)

variable {db db' : Database} {call : Call} {reply : Reply}

/-- **What a call that went through has done**: it offered a row, or inserted a batch, or it was
none that writes, left the table alone and had nothing to report. -/
theorem onTable_cases (h : call.onTable db = .ok (reply, db')) :
    (∃ r added, call = .insert r ∧ reply = .inserted added ∧
      db.offer (Row.ofRecord r) = .ok (added, db')) ∨
    (∃ snapshot i tally, call = .persist snapshot i ∧ reply = .persisted tally ∧
      Store.insertAll i 0 snapshot.records {} db = .ok (tally, db')) ∨
    call.writes = false ∧ reply.reported = 0 ∧ db' = db := by
  cases call with
  | insert r =>
    rw [onTable] at h
    split at h
    · next added db₁ hoffer =>
      cases h
      exact .inl ⟨r, added, rfl, rfl, hoffer⟩
    · cases h
  | persist snapshot i =>
    rw [onTable] at h
    split at h
    · cases h
    · split at h
      · next tally db₁ hall =>
        cases h
        exact .inr (.inl ⟨snapshot, i, tally, rfl, rfl, hall⟩)
      · cases h
  | load i =>
    rw [onTable] at h
    split at h
    · cases h
    · split at h
      · cases h
        exact .inr (.inr ⟨rfl, rfl, rfl⟩)
      · cases h
  | _ =>
    cases h
    exact .inr (.inr ⟨rfl, rfl, rfl⟩)

theorem onTable_persist {snapshot : Snapshot} {tally : Tally}
    (h : Store.insertAll .never 0 snapshot.records {} db = .ok (tally, db')) :
    (persist snapshot .never).onTable db = .ok (.persisted tally, db') := by
  simp [onTable, Interruption.atStart, h]

theorem onTable_load {found : Store.Loaded} (h : Store.readRows .never db = .ok found) :
    (load .never).onTable db = .ok (.loaded found, db) := by
  simp [onTable, Interruption.atStart, h]

/-- Where there is no table a call changes nothing. -/
theorem onTable_of_not_table (hs : db.shape ≠ .ledger) (h : call.onTable db = .ok (reply, db')) :
    db' = db := by
  obtain ⟨r, added, -, -, hoffer⟩ | ⟨snapshot, i, tally, -, -, hall⟩ | ⟨-, -, hdb⟩ :=
    onTable_cases h
  · obtain ⟨f, hf⟩ := Database.offer_of_not_table hs (Row.ofRecord r)
    rw [hf] at hoffer
    cases hoffer
  · cases hr : snapshot.records with
    | nil =>
      -- a snapshot without records never meets the table
      rw [hr, Store.insertAll] at hall
      cases hall
      rfl
    | cons r rs =>
      obtain ⟨f, hf⟩ := Database.offer_of_not_table hs (Row.ofRecord r)
      rw [hr, Store.insertAll, hf] at hall
      by_cases hstop : i.stops 0 = true <;> simp [hstop] at hall
  · exact hdb

end Call

namespace Store

open Outcome

variable {s : Store} {db : Database}

/-- What a request to write or to read can lead to, when it leaves the store as `s'`. -/
inductive Served (s : Store) (db : Database) (call : Call) (s' : Store) : Outcome Reply → Prop where
  /-- The store is not ready. -/
  | refused (hr : s.ready? = none) : Served s db call s' ⟨.error .notInitialized, s', db⟩
  /-- The table is missing, and that is noticed before anything is done. -/
  | tableless {c : Connection} {e : Error} (hr : s.ready? = some c) (hs : db.shape ≠ .ledger)
      (he : e ≠ .cancelled) : Served s db call s' ⟨.error e, s', db⟩
  /-- It fails as it does on the table. -/
  | failed {c : Connection} {e : Error} (hr : s.ready? = some c)
    (hon : call.onTable db = .error e) :
      Served s db call s' ⟨.error e, s', db⟩
  /-- It succeeds as it does on the table. -/
  | done {c : Connection} {reply : Reply} {db' : Database} (hr : s.ready? = some c)
      (hon : call.onTable db = .ok (reply, db')) : Served s db call s' ⟨.ok reply, s', db'⟩

theorem served_insert (hq : s.Quiet) (db : Database) (r : Record) :
    ∃ s', s'.bare = s.bare ∧ Served s db (.insert r) s' (s.serve db (.insert r)) := by
  rw [serve]
  rcases insert_cases s db r with ⟨hr, h⟩ | ⟨c, s', hr, hb, h⟩
  · rw [h]
    exact ⟨s, rfl, .refused hr⟩
  · refine ⟨s', hb, ?_⟩
    rcases h with ⟨f, hs, h⟩ | ⟨hstop, -⟩ | ⟨f, -, hoffer, h⟩ | ⟨added, db', -, hoffer, h⟩
    · rw [h]
      exact .tableless hr hs (by simp)
    · -- a quiet store has nothing that would stop a statement
      rw [hq c (ready?_eq_some_iff.mp hr).2] at hstop
      cases hstop
    · rw [h]
      exact .failed hr (by rw [Call.onTable, hoffer])
    · rw [h]
      exact .done hr (by rw [Call.onTable, hoffer])

theorem served_persist (hq : s.Quiet) (db : Database) (snapshot : Snapshot) (i : Interruption) :
    ∃ s', s'.bare = s.bare ∧ Served s db (.persist snapshot i) s'
      (s.serve db (.persist snapshot i)) := by
  rw [serve]
  rcases persist_cases hq db snapshot i with ⟨hr, h⟩ | ⟨c, s', hr, hb, h⟩
  · rw [h]
    exact ⟨s, rfl, .refused hr⟩
  · refine ⟨s', hb, ?_⟩
    rcases h with ⟨hstart, h⟩ | ⟨f, -, hs, h⟩ | ⟨e, hstart, hall, h⟩ | ⟨tally, db', hstart, hall, h⟩
    · rw [h]
      exact .failed hr (by rw [Call.onTable, if_pos hstart])
    · rw [h]
      exact .tableless hr hs (by simp)
    · rw [h]
      exact .failed hr (by simp [Call.onTable, hstart, hall])
    · rw [h]
      exact .done hr (by simp [Call.onTable, hstart, hall])

theorem served_load (hq : s.Quiet) (db : Database) (i : Interruption) :
    ∃ s', s'.bare = s.bare ∧ Served s db (.load i) s' (s.serve db (.load i)) := by
  rw [serve]
  rcases load_cases hq db i with ⟨hr, h⟩ | ⟨c, s', hr, hb, h⟩
  · rw [h]
    exact ⟨s, rfl, .refused hr⟩
  · refine ⟨s', hb, ?_⟩
    rcases h with ⟨hstart, h⟩ | ⟨f, -, hs, h⟩ | ⟨hstart, h⟩
    · rw [h]
      exact .failed hr (by rw [Call.onTable, if_pos hstart])
    · rw [h]
      exact .tableless hr hs (by simp)
    · rw [h]
      cases hread : readRows i db with
      | error e => exact .failed hr (by simp [Call.onTable, hstart, hread])
      | ok found => exact .done hr (by simp [Call.onTable, hstart, hread])

theorem served_count (hq : s.Quiet) (db : Database) :
    ∃ s', s'.bare = s.bare ∧ Served s db .count s' (s.serve db .count) := by
  rw [serve]
  rcases count_cases s db with ⟨hr, h⟩ | ⟨c, s', hr, hb, h⟩
  · rw [h]
    exact ⟨s, rfl, .refused hr⟩
  · refine ⟨s', hb, ?_⟩
    rcases h with ⟨hs, h⟩ | ⟨-, hstop, -⟩ | ⟨-, -, h⟩
    · rw [h]
      exact .tableless hr (by simp [hs]) (by simp)
    · -- a quiet store has nothing that would stop a statement
      rw [hq c (ready?_eq_some_iff.mp hr).2] at hstop
      cases hstop
    · rw [h]
      exact .done hr rfl

/-- **What a request to write or to read leads to.**  A store that is not ready refuses it;
where the table is missing it can fail for that; in all other cases it fails or succeeds as it
does on the table. -/
theorem serve_cases (hq : s.Quiet) (db : Database) {call : Call} (hc : call.usesTable = true) :
    ∃ s', s'.bare = s.bare ∧ Served s db call s' (s.serve db call) := by
  cases call with
  | insert r => exact served_insert hq db r
  | persist snapshot i => exact served_persist hq db snapshot i
  | load i => exact served_load hq db i
  | count => exact served_count hq db
  | _ => cases hc

/-- A store without a connection that is ready refuses to write and to read. -/
theorem serve_of_ready?_eq_none (hr : s.ready? = none) (db : Database) {call : Call}
    (hc : call.usesTable = true) : s.serve db call = ⟨.error .notInitialized, s, db⟩ := by
  cases call with
  | ensureSchema i => cases hc
  | close => cases hc
  | insert r => rw [serve, insert, hr]; rfl
  | persist snapshot i => rw [serve, persist, hr]; rfl
  | load i => rw [serve, load, hr]; rfl
  | count => rw [serve, count, hr]; rfl

/-- A store that is ready does on the table what it is asked for, or fails as the table makes it
fail, and then leaves the database alone. -/
theorem serve_onTable (hq : s.Quiet) {c : Connection} (hr : s.ready? = some c) {call : Call}
    (hc : call.usesTable = true) (hs : db.shape = .ledger) :
    (∃ reply, call.onTable db = .ok (reply, (s.serve db call).database) ∧
      (s.serve db call).answer = .ok reply) ∨
    ∃ e, call.onTable db = .error e ∧ (s.serve db call).answer = .error e ∧
      (s.serve db call).database = db := by
  obtain ⟨s', -, hserved⟩ := serve_cases hq db hc
  generalize s.serve db call = o at *
  cases hserved with
  | refused hnone =>
    rw [hr] at hnone
    cases hnone
  | tableless _ hshape => exact absurd hs hshape
  | failed _ hon => exact .inr ⟨_, hon, rfl, rfl⟩
  | done _ hon => exact .inl ⟨_, hon, rfl⟩

theorem serve_of_onTable (hq : s.Quiet) {c : Connection} (hr : s.ready? = some c) {call : Call}
    (hc : call.usesTable = true) (hs : db.shape = .ledger) {reply : Reply} {db' : Database}
    (h : call.onTable db = .ok (reply, db')) :
    (s.serve db call).answer = .ok reply ∧ (s.serve db call).database = db' := by
  rcases serve_onTable hq hr hc hs with ⟨reply', hon, hanswer⟩ | ⟨e, hon, -⟩
  · obtain ⟨rfl, rfl⟩ := Prod.mk.inj (Except.ok.inj (hon.symm.trans h))
    exact ⟨hanswer, rfl⟩
  · rw [h] at hon
    cases hon

/-! ### What is kept -/

/-- A request leaves the database alone, or it went through on the table, or it made sure of it. -/
theorem database_serve_cases (hq : s.Quiet) (db : Database) (call : Call) :
    (s.serve db call).database = db ∨
      (call.usesTable = true ∧
        ∃ reply, call.onTable db = .ok (reply, (s.serve db call).database)) ∨
      ∃ i, call = .ensureSchema i ∧
        (s.serve db call).database = (s.ensureSchema db i).database := by
  cases hc : call.usesTable with
  | true =>
    obtain ⟨s', -, hserved⟩ := serve_cases hq db hc
    generalize s.serve db call = o at *
    cases hserved with
    | done _ hon => exact .inr (.inl ⟨rfl, _, hon⟩)
    -- a request that did not go through is without effect
    | _ => exact .inl rfl
  | false =>
    cases call with
    | ensureSchema i => exact .inr (.inr ⟨i, rfl, rfl⟩)
    | close => exact .inl rfl
    | _ => cases hc

theorem bare_serve (hq : s.Quiet) (db : Database) {call : Call} (hc : call.usesTable = true) :
    (s.serve db call).store.bare = s.bare := by
  obtain ⟨s', hb, hserved⟩ := serve_cases hq db hc
  generalize s.serve db call = o at *
  cases hserved <;> exact hb

theorem database_serve_of_not_table (hq : s.Quiet) (hs : db.shape ≠ .ledger) {call : Call}
    (hc : call.usesTable = true) : (s.serve db call).database = db := by
  rcases database_serve_cases hq db call with hdb | ⟨-, reply, hon⟩ | ⟨i, rfl, -⟩
  · exact hdb
  · exact Call.onTable_of_not_table hs hon
  · cases hc

/-- Making sure of the table makes the store ready, if anything. -/
theorem bare_ensureSchema (hq : s.Quiet) (db : Database) (i : Interruption) :
    (s.ensureSchema db i).store.bare = s.bare ∨
      s.phase = .opened ∧ (s.ensureSchema db i).answer = .ok () ∧
        (s.ensureSchema db i).store.bare = { s with phase := .ready }.bare := by
  rcases ensureSchema_cases hq db i with ⟨-, h⟩ | ⟨-, h, -⟩ | ⟨hphase, -, h⟩
  · exact .inl (by rw [h])
  · exact .inl (by rw [h])
  · rcases h with ⟨-, h⟩ | ⟨s', answer, db', -, hb, -, ⟨-, h⟩ | ⟨e, -, h⟩⟩
    · exact .inl (by rw [h])
    · refine .inr ⟨hphase, by rw [h], ?_⟩
      have hpath := path_eq_of_bare_eq hb
      have hconn := connection_eq_of_bare_eq hb
      rw [h]
      simp [bare, hpath, hconn]
    · exact .inl (by rw [h]; exact hb)

theorem Quiet.close (hq : s.Quiet) : s.close.Quiet := by
  rw [Store.close]
  split
  · intro c hc
    cases hc
  · exact hq

/-- No request leaves an interruption behind that a later one would heed. -/
theorem Quiet.serve (hq : s.Quiet) (db : Database) (call : Call) :
    (s.serve db call).store.Quiet := by
  cases call with
  | ensureSchema i =>
    rcases bare_ensureSchema hq db i with h | ⟨-, -, h⟩
    · exact hq.congr h.symm
    · have hready : ({ s with phase := .ready } : Store).Quiet := hq
      exact hready.congr h.symm
  | close => exact hq.close
  | _ => exact hq.congr (bare_serve hq db rfl).symm

/-- How far a store has come when it did what it was asked for. -/
theorem phase_serve (hq : s.Quiet) (db : Database) (call : Call) :
    (s.serve db call).store.phase = s.phase ∨
      (s.serve db call).store.phase = .closed ∧ call = .close ∨
      (∃ i, call = .ensureSchema i) ∧ s.phase = .opened ∧
        (s.serve db call).answer = .ok .done ∧ (s.serve db call).store.phase = .ready := by
  cases call with
  | ensureSchema i =>
    rcases bare_ensureSchema hq db i with h | ⟨hphase, hok, h⟩
    · exact .inl (phase_eq_of_bare_eq h)
    · refine .inr (.inr ⟨⟨i, rfl⟩, hphase, ?_, phase_eq_of_bare_eq h⟩)
      rw [Store.serve, map_answer, hok]
      rfl
  | close =>
    cases hconn : s.connection with
    | none => exact .inl (by simp [Store.serve, Store.close, hconn])
    | some c => exact .inr (.inl ⟨by simp [Store.serve, Store.close, hconn], rfl⟩)
  | _ => exact .inl (phase_eq_of_bare_eq (bare_serve hq db rfl))

/-- A store holds a connection exactly when it is opened or ready. -/
def Linked (s : Store) : Prop :=
  s.connection.isSome = true ↔ s.phase = .opened ∨ s.phase = .ready

theorem Linked.congr {t : Store} (hl : s.Linked) (h : s.bare = t.bare) : t.Linked := by
  have hsome : s.connection.isSome = t.connection.isSome := by
    simpa using congrArg Option.isSome (connection_eq_of_bare_eq h)
  rw [Linked, ← hsome, ← phase_eq_of_bare_eq h]
  exact hl

theorem Linked.ready? (hl : s.Linked) (hready : s.phase = .ready) : ∃ c, s.ready? = some c := by
  rw [Store.ready?, if_pos hready]
  exact Option.isSome_iff_exists.mp (hl.mpr (.inr hready))

/-- Whatever a store is asked for, it holds a connection exactly when it is opened or ready. -/
theorem Linked.serve (hl : s.Linked) (hq : s.Quiet) (db : Database) (call : Call) :
    (s.serve db call).store.Linked := by
  cases call with
  | ensureSchema i =>
    rcases bare_ensureSchema hq db i with h | ⟨hphase, -, h⟩
    · exact hl.congr h.symm
    · -- the store is prepared on the connection that it was opened with
      have hready : ({ s with phase := .ready } : Store).Linked := by
        have hsome : s.connection.isSome = true := hl.mpr (.inl hphase)
        simp [Linked, hsome]
      exact hready.congr h.symm
  | close =>
    show s.close.Linked
    cases hconn : s.connection with
    | none =>
      rw [Store.close, hconn]
      exact hl
    | some c => simp [Store.close, hconn, Linked]
  | _ => exact hl.congr (bare_serve hq db rfl).symm

/-! ### What does not write -/

theorem rows_ensureSchema (s : Store) (db : Database) (i : Interruption) :
    (s.ensureSchema db i).database.rows = db.rows := by
  rw [ensureSchema]
  split
  · rfl
  · split
    · rw [heeding]
      split
      · rfl
      · have hrows := migrate_rows i Database.migrations 0 db
        dsimp only
        split <;> simp_all
    · rfl

theorem database_load (s : Store) (db : Database) (i : Interruption) :
    (s.load db i).database = db := by
  rw [load]
  split
  · rfl
  · rw [heeding]
    split
    · rfl
    · dsimp only
      split <;> rfl

/-- What a load finds is what the rows hold. -/
theorem readRows_of_load {i : Interruption} {found : Loaded}
    (h : (s.load db i).answer = .ok found) :
    readRows i db = .ok found := by
  rw [load] at h
  split at h
  · cases h
  · next c hc =>
    rw [heeding] at h
    split at h
    · cases h
    · have hbare := Connection.bare_prepare { c with heeds := i } db.shape Shape.checkLoad
      dsimp only at h
      split at h
      · cases h
      · next d hd =>
        rw [hd] at hbare
        -- the rows are read on the connection as it was prepared, which heeds the same
        -- interruption
        have hheeds : d.heeds = i := Connection.heeds_eq_of_bare_eq hbare
        rw [← h, hheeds]

theorem load_of_readRows {c : Connection} (hr : s.ready? = some c) (hs : db.shape = .ledger)
    {found : Loaded} (h : readRows .never db = .ok found) :
    (s.load db .never).answer = .ok found := by
  have hfits := Connection.prepareLoad_of_table { c with heeds := .never }
  have hbare := Connection.bare_prepare { c with heeds := .never } db.shape Shape.checkLoad
  rw [load, hr]
  dsimp only
  rw [heeding_of_not_atStart rfl]
  rw [hs] at hbare ⊢
  generalize Connection.prepare { c with heeds := .never } .ledger Shape.checkLoad = p at *
  obtain ⟨answer, d⟩ := p
  obtain rfl : answer = .ok () := hfits
  have hheeds : d.heeds = .never := Connection.heeds_eq_of_bare_eq hbare
  dsimp only
  rw [hheeds, h]

/-- A request that does not write touches no row. -/
theorem rows_serve_of_not_writes (s : Store) (db : Database) {call : Call}
    (h : call.writes = false) : (s.serve db call).database.rows = db.rows := by
  cases call with
  | ensureSchema i => exact rows_ensureSchema s db i
  | load i => exact congrArg Database.rows (database_load s db i)
  | count =>
    rw [serve, Outcome.map_database, count]
    split
    · rfl
    · dsimp only
      split
      · rfl
      · split <;> rfl
  | close => rfl
  | _ => cases h

theorem mem_rows_insert {s : Store} {db : Database} {r : Record} {row : Row}
    (h : row ∈ (s.insert db r).database.rows) : row ∈ db.rows ∨ row = Row.ofRecord r := by
  rcases insert_cases s db r with ⟨-, ho⟩ | ⟨c, s', -, -, ho⟩
  · rw [ho] at h
    exact .inl h
  · rcases ho with ⟨f, -, ho⟩ | ⟨-, ho⟩ | ⟨f, -, -, ho⟩ | ⟨added, db', -, hoffer, ho⟩ <;>
      rw [ho] at h
    · exact .inl h
    · exact .inl h
    · exact .inl h
    · rw [Database.offer_rows hoffer, List.mem_append] at h
      refine h.imp_right fun hnew => ?_
      cases added <;> simp_all

/-! ### Opening -/

/-- Opening a store touches neither the rows nor the unique index, and the store is as good as
unused. -/
theorem attach_ok {db db' : Database} {path : String} {busyTimeout : Nat} {store : Store}
    (h : attach db path busyTimeout = .ok (store, db')) :
    db'.rows = db.rows ∧ (db.Guarded → db'.Guarded) ∧ store.Quiet ∧ store.Linked ∧
      store.phase = .opened := by
  rw [attach] at h
  split at h
  · cases h
  · simp only [Except.ok.injEq, Prod.mk.injEq] at h
    obtain ⟨rfl, rfl⟩ := h
    refine ⟨rfl, id, ?_, by simp [Linked], rfl⟩
    intro c hc
    cases hc
    rfl

theorem quiet_linked_openPrivate : openPrivate.Quiet ∧ openPrivate.Linked := by
  refine ⟨fun c hc => ?_, by simp [openPrivate, Linked]⟩
  cases hc
  rfl

/-! ### A failed request -/

theorem ensureSchema_error (hq : s.Quiet) {i : Interruption} {e : Error}
    (h : (s.ensureSchema db i).answer = .error e) :
    s.phase ≠ .ready ∧ (s.ensureSchema db i).store.bare = s.bare := by
  rcases ensureSchema_cases hq db i with ⟨-, ho⟩ | ⟨hphase, ho, -⟩ | ⟨hphase, -, ho⟩
  · rw [ho] at h
    cases h
  · exact ⟨hphase, by rw [ho]⟩
  · refine ⟨by simp [hphase], ?_⟩
    rcases ho with ⟨-, ho⟩ | ⟨s', answer, db', -, hb, -, ⟨-, ho⟩ | ⟨e', -, ho⟩⟩
    · rw [ho]
    · rw [ho] at h
      cases h
    · rw [ho, hb]

/-- **A request to a ready store that fails changes nothing.** -/
theorem serve_error (hq : s.Quiet) (hready : s.phase = .ready) {call : Call} {e : Error}
    (h : (s.serve db call).answer = .error e) :
    (s.serve db call).store.bare = s.bare ∧ (s.serve db call).database = db := by
  cases hc : call.usesTable with
  | true =>
    obtain ⟨s', hb, hserved⟩ := serve_cases hq db hc
    generalize s.serve db call = o at *
    cases hserved with
    | refused => exact ⟨hb, rfl⟩
    | tableless => exact ⟨hb, rfl⟩
    | failed => exact ⟨hb, rfl⟩
    | done => cases h
  | false =>
    cases call with
    | ensureSchema i =>
      -- a ready store has nothing to make sure of
      exact absurd hready (ensureSchema_error hq (map_answer_eq_error.mp h)).1
    | close => cases h
    | _ => cases hc

/-! ### What a connection remembers -/

theorem ready?_eq_none_iff_of_bare_eq {t : Store} (h : s.bare = t.bare) :
    s.ready? = none ↔ t.ready? = none := by
  have hmap := ready?_map_bare h
  cases hs : s.ready? <;> cases ht : t.ready? <;> simp_all

/-- Making sure of the table does not depend on what the connection remembers. -/
theorem ensureSchema_congr {t : Store} (h : s.bare = t.bare) (db : Database)
    (i : Interruption) :
    (s.ensureSchema db i).answer = (t.ensureSchema db i).answer ∧
      (s.ensureSchema db i).database = (t.ensureSchema db i).database ∧
      (s.ensureSchema db i).store.bare = (t.ensureSchema db i).store.bare := by
  have hphase := phase_eq_of_bare_eq h
  have hpath := path_eq_of_bare_eq h
  have hconn := connection_eq_of_bare_eq h
  rw [ensureSchema, ensureSchema, hphase]
  split
  · exact ⟨rfl, rfl, h⟩
  · cases t.phase with
    | opened =>
      cases hs : s.connection with
      | none =>
        rw [hs, Option.map_none, eq_comm, Option.map_eq_none_iff] at hconn
        rw [hconn]
        exact ⟨rfl, rfl, h⟩
      | some c =>
        -- the connections differ at most in what they have looked at
        obtain ⟨d, hd, hbare⟩ : ∃ d, t.connection = some d ∧ d.bare = c.bare := by
          rw [hs, Option.map_some, eq_comm, Option.map_eq_some_iff] at hconn
          exact hconn
        rw [hd]
        dsimp only
        cases hstart : i.atStart with
        | true =>
          rw [heeding_of_atStart hstart, heeding_of_atStart hstart]
          exact ⟨rfl, rfl, h⟩
        | false =>
          have hbusy := Connection.busyTimeout_eq_of_bare_eq hbare
          rw [heeding_of_not_atStart hstart, heeding_of_not_atStart hstart]
          dsimp only
          cases migrate i 0 Database.migrations db with
          | mk answer db' =>
            cases answer <;>
              simp [bare, unheeding, withConnection, Connection.look, Connection.bare, hbusy, hpath,
                hphase]
    | _ => exact ⟨rfl, rfl, h⟩

/-- **What a connection remembers does not show.**  Two stores that are equal but for that leave the
same database and stay equal but for that, and while the table is there they answer the same. -/
theorem serve_congr {t : Store} (hq : s.Quiet) (h : s.bare = t.bare) (db : Database) (call : Call) :
    (db.shape = .ledger → (s.serve db call).answer = (t.serve db call).answer) ∧
      (s.serve db call).database = (t.serve db call).database ∧
      (s.serve db call).store.bare = (t.serve db call).store.bare := by
  cases hc : call.usesTable with
  | true =>
    have hqt := hq.congr h
    have hbare : (s.serve db call).store.bare = (t.serve db call).store.bare := by
      rw [bare_serve hq db hc, bare_serve hqt db hc, h]
    have hnone := ready?_eq_none_iff_of_bare_eq h
    by_cases hs : db.shape = .ledger
    · cases hr : s.ready? with
      | none =>
        rw [serve_of_ready?_eq_none hr db hc, serve_of_ready?_eq_none (hnone.mp hr) db hc]
        exact ⟨fun _ => rfl, rfl, h⟩
      | some c =>
        obtain ⟨c', hr'⟩ := Option.ne_none_iff_exists'.mp (mt hnone.mpr (by simp [hr]))
        -- both do what the table makes of the request
        rcases serve_onTable hq hr hc hs with ⟨reply, hon, ha⟩ | ⟨e, hon, ha, hdb⟩
        · obtain ⟨ha', hdb'⟩ := serve_of_onTable hqt hr' hc hs hon
          exact ⟨fun _ => ha.trans ha'.symm, hdb'.symm, hbare⟩
        · rcases serve_onTable hqt hr' hc hs with ⟨reply, hon', -⟩ | ⟨e', hon', ha', hdb'⟩
          · rw [hon] at hon'
            cases hon'
          · obtain rfl := Except.error.inj (hon.symm.trans hon')
            exact ⟨fun _ => ha.trans ha'.symm, hdb.trans hdb'.symm, hbare⟩
    · -- the missing table may be noticed at different times, but neither changes anything
      have hdb := database_serve_of_not_table hq hs hc
      have hdb' := database_serve_of_not_table hqt hs hc
      exact ⟨fun hl => absurd hl hs, hdb.trans hdb'.symm, hbare⟩
  | false =>
    cases call with
    | ensureSchema i =>
      obtain ⟨hanswer, hdb, hbare⟩ := ensureSchema_congr h db i
      exact ⟨fun _ => by rw [serve, serve, map_answer, map_answer, hanswer], hdb, hbare⟩
    | close => exact ⟨fun _ => rfl, rfl, bare_close h⟩
    | _ => cases hc

end Store

/-! ### Requests in a session -/

namespace Session

variable {s : Session} {id : Nat} {st : Store} {call : Call}

/-- **A move leaves the stores quiet and linked**, and those that it opens are so too. -/
theorem quiet_linked_step (hs : ∀ st ∈ s.stores, st.Quiet ∧ st.Linked) (m : Move) :
    ∀ st ∈ (s.step m).2.stores, st.Quiet ∧ st.Linked := by
  intro st hst
  cases m with
  | openStore path busyTimeout =>
    simp only [step] at hst
    split at hst
    · next opened db hattach =>
      obtain ⟨-, -, hquiet, hlinked, -⟩ := Store.attach_ok hattach
      -- the store that was opened stands behind all others
      rcases List.mem_append.mp hst with hst | hst
      · exact hs st hst
      · exact List.mem_singleton.mp hst ▸ ⟨hquiet, hlinked⟩
    · exact hs st hst
  | ask id call =>
    rcases mem_stores_ask hst with hst | ⟨old, hold, rfl, -⟩
    · exact hs st hst
    · obtain ⟨hquiet, hlinked⟩ := hs old hold
      exact ⟨hquiet.serve _ call, hlinked.serve hquiet _ call⟩
  | outside act => exact hs st hst

theorem ready_step (hget : s.stores[id]? = some st) (hq : st.Quiet) (hready : st.phase = .ready)
    (hc : call.usesTable = true) :
    ∃ st', (s.step (.ask id call)).2.stores[id]? = some st' ∧ st'.phase = .ready := by
  simp only [step, hget]
  refine ⟨(st.serve s.database call).store, ?_, ?_⟩
  · rw [List.getElem?_set_self (List.getElem?_eq_some_iff.mp hget).1]
  · rw [Store.phase_eq_of_bare_eq (Store.bare_serve hq s.database hc)]
    exact hready

theorem answer_of_onTable (hget : s.stores[id]? = some st) (hq : st.Quiet) (hl : st.Linked)
    (hready : st.phase = .ready) (hshape : s.database.shape = .ledger) (hc : call.usesTable = true)
    {reply : Reply} {db : Database} (h : call.onTable s.database = .ok (reply, db)) :
    (s.step (.ask id call)).1 = .ok reply ∧ (s.step (.ask id call)).2.database = db := by
  obtain ⟨c, hr⟩ := hl.ready? hready
  simp only [step, hget]
  exact Store.serve_of_onTable hq hr hc hshape h

end Session

end UsageLedger
