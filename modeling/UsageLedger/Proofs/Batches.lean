import UsageLedger.Proofs.Asking
import UsageLedger.Proofs.Founding
import Mathlib.Data.Bool.Count

/-!
# Batches

The records of a snapshot go into the table in one go.  They are put into a copy of the
database, and the tally is made on the way; the plain path writes each record by itself and
answers for each.  The two are walked side by side, record by record: what the batch has made of
its copy is what the single inserts have made of the file, and each record that the batch notes
is noted as the insert is answered.

A record that is in the table stays there while the layout does, so a snapshot that was taken in
once has nothing new later on.

## Main definitions

* `Session.inserting` — the records of a row inserted one by one.
* `Session.Tended` — a session in which no other user takes the layout away.

## Main results

* `Session.run_inserting` — **a batch leaves what the inserts of its records leave, and counts
  their answers.**
* `Session.Tended.guarded` — in a session that is tended, a store is ready only over a unique index.
* `Session.rows_persist_of_known` — a batch of keys that are in the table changes no row.
* `persist_inserts_each` — **a batch is as good as its records one by one, and once is enough.**
-/

namespace UsageLedger

/-! ### Requests that succeed -/

namespace Session

variable {s : Session} {id : Nat}

/-- A request to write or to read succeeds only as it does on the table, for a store that is
ready. -/
theorem Reached.ask_ok (hs : s.Reached) {call : Call} (hc : call.usesTable = true) {reply : Reply}
    (hok : (s.step (.ask id call)).1 = .ok reply) :
    ∃ st, s.stores[id]? = some st ∧ st.phase = .ready ∧
      call.onTable s.database = .ok (reply, (s.step (.ask id call)).2.database) := by
  simp only [Session.step] at hok ⊢
  cases hget : s.stores[id]? with
  | none =>
    rw [hget] at hok
    cases hok
  | some st =>
    rw [hget] at hok
    dsimp only at hok ⊢
    obtain ⟨s', -, hserved⟩ := Store.serve_cases
      (hs.quiet st (List.mem_of_getElem? hget)) s.database hc
    generalize st.serve s.database call = o at *
    -- of all that can come of the request only success is an answer
    cases hserved with
    | done hr hon =>
      cases hok
      exact ⟨st, rfl, (Store.ready?_eq_some_iff.mp hr).1, hon⟩
    | _ => cases hok

/-- A store that is ready counts the rows of whatever has the name of the table. -/
theorem Reached.answer_count (hs : s.Reached) {st : Store} (hget : s.stores[id]? = some st)
    (hready : st.phase = .ready) (hthere : s.database.relation ≠ .absent) :
    (s.step (.ask id .count)).1 = .ok (.counted s.database.rowCount) := by
  have hmem := List.mem_of_getElem? hget
  obtain ⟨c, hr⟩ := (hs.linked st hmem).ready? hready
  simp only [Session.step, hget, Store.serve, Outcome.map_answer]
  rcases Store.count_cases st s.database with ⟨hnone, -⟩ | ⟨c', s', hr', -, hcase⟩
  · rw [hr] at hnone
    cases hnone
  · rcases hcase with ⟨habsent, -⟩ | ⟨-, hstop, -⟩ | ⟨-, -, ho⟩
    · exact absurd (Database.shape_eq_absent_iff.mp habsent) hthere
    · -- a quiet store has nothing that would stop a statement
      rw [hs.quiet st hmem c' (Store.ready?_eq_some_iff.mp hr').2] at hstop
      cases hstop
    · rw [ho]
      rfl

end Session

theorem Call.insertAll_of_onTable {snapshot : Snapshot} {i : Interruption} {t : Tally}
    {db db' : Database} (h : (Call.persist snapshot i).onTable db = .ok (.persisted t, db')) :
    Store.insertAll i 0 snapshot.records {} db = .ok (t, db') := by
  obtain ⟨r, added, hcall, -⟩ | ⟨snapshot', i', t', hcall, hreply, hall⟩ | ⟨hwrites, -⟩ :=
    Call.onTable_cases h
  · cases hcall
  · cases hcall
    cases hreply
    exact hall
  · cases hwrites

/-! ### One by one -/

theorem Tally.added_note (t : Tally) (added : Bool) :
    (t.note added).added = t.added + [added].count true := by
  cases added <;> rfl

theorem Tally.skipped_note (t : Tally) (added : Bool) :
    (t.note added).skipped = t.skipped + [added].count false := by
  cases added <;> rfl

theorem Database.rowCount_offer {db db' : Database} {row : Row} {added : Bool}
    (h : db.offer row = .ok (added, db')) : db'.rowCount = db.rowCount + [added].count true := by
  obtain ⟨l, hl, -, -, hcase⟩ := offer_ok h
  have hshape := shape_of_table hl
  rcases hcase with ⟨rfl, -, -, rfl⟩ | ⟨rfl, -, rfl⟩
  · rfl
  · rw [rowCount_of_table hshape, rows_of_table hl]
    exact List.length_append

/-- The rows that are counted grow by the records that a batch has added. -/
theorem Store.rowCount_insertAll {i : Interruption} {rs : List Record} {step : Nat} {t t' : Tally}
    {db db' : Database} (h : insertAll i step rs t db = .ok (t', db')) :
    db'.rowCount + t.added = db.rowCount + t'.added := by
  induction rs generalizing step t db with
  | nil =>
    cases h
    rfl
  | cons r rs ih =>
    rw [insertAll] at h
    split at h
    · cases h
    · split at h
      · cases h
      · next added db₁ hoffer =>
        -- the row of the first record is counted before those of the others
        have hrest := ih h
        rw [Tally.added_note, Database.rowCount_offer hoffer] at hrest
        omega

theorem Store.exists_ledger_of_insertAll {i : Interruption} {rs : List Record} {step : Nat}
    {t t' : Tally} {db db' : Database} (h : insertAll i step rs t db = .ok (t', db'))
    (hrs : rs ≠ []) :
    ∃ l, db.relation = .ledger l := by
  cases rs with
  | nil => exact absurd rfl hrs
  | cons r rs =>
    rw [insertAll] at h
    split at h
    · cases h
    · split at h
      · cases h
      · next hoffer =>
        obtain ⟨l, hl, -⟩ := Database.offer_ok hoffer
        exact ⟨l, hl⟩

theorem Session.length_log (s : Session) (ms : List Move) : (s.log ms).length = ms.length := by
  induction ms generalizing s with
  | nil => rfl
  | cons m ms ih => rw [log_cons, List.length_cons, List.length_cons, ih]

namespace Session

variable {s : Session} {id : Nat}

/-- The records of a row inserted one by one. -/
def inserting (id : Nat) (rs : List Record) : List Move :=
  rs.map fun r => .ask id (.insert r)

/-- **A batch leaves what the inserts of its records leave**, each of which is answered as the
batch notes it. -/
theorem run_inserting (hs : s.Reached) {st : Store} (hget : s.stores[id]? = some st)
    (hready : st.phase = .ready) {i : Interruption} {rs : List Record} {step : Nat} {t t' : Tally}
    {db : Database} (hall : Store.insertAll i step rs t s.database = .ok (t', db)) :
    (s.run (inserting id rs)).database = db ∧
      ∃ answers : List Bool,
        (s.log (inserting id rs)).map (·.answer) =
          answers.map (fun added => .ok (.inserted added)) ∧
          t'.added = t.added + answers.count true ∧
          t'.skipped = t.skipped + answers.count false := by
  induction rs generalizing s st step t with
  | nil =>
    cases hall
    exact ⟨rfl, [], rfl, rfl, rfl⟩
  | cons r rs ih =>
    rw [Store.insertAll] at hall
    split at hall
    · cases hall
    · split at hall
      · cases hall
      · next added db₁ hoffer =>
        -- the insert of the first record is answered as it is noted, and leaves what the batch
        -- goes on with
        obtain ⟨l, hl, -⟩ := Database.offer_ok hoffer
        have hon : (Call.insert r).onTable s.database = .ok (.inserted added, db₁) := by
          rw [Call.onTable, hoffer]
        have hmem := List.mem_of_getElem? hget
        obtain ⟨hanswer, hdb⟩ := answer_of_onTable hget (hs.quiet st hmem)
          (hs.linked st hmem) hready (Database.shape_of_table hl) rfl hon
        obtain ⟨st', hget', hready'⟩ :
            ∃ st', (s.step (.ask id (.insert r))).2.stores[id]? = some st' ∧
              st'.phase = .ready := ready_step hget (hs.quiet st hmem) hready rfl
        rw [← hdb] at hall
        obtain ⟨hend, answers, hlog, hadded, hskipped⟩ := ih (.step _ hs) hget' hready' hall
        refine ⟨hend, added :: answers, ?_, ?_, ?_⟩
        · rw [inserting, List.map_cons, log_cons, List.map_cons, List.map_cons, hanswer, ← hlog,
            inserting]
        · rw [hadded, Tally.added_note, Nat.add_assoc, ← List.count_append]
          rfl
        · rw [hskipped, Tally.skipped_note, Nat.add_assoc, ← List.count_append]
          rfl

end Session

/-! ### Once is enough -/

/-- A session that comes about without another user taking the layout away, over a file with any
content or over a store with a database of its own. -/
inductive Session.Tended : Session → Prop where
  /-- Nobody has opened a store on the file. -/
  | file (db : Database) : Tended ⟨db, []⟩
  /-- There is one store, with a database of its own. -/
  | own : Tended ⟨.blank, [.openPrivate]⟩
  /-- A move was made. -/
  | step {s : Session} {m : Move} (hm : m.keepsLayout = true) : Tended s → Tended (s.step m).2

namespace Session

variable {s : Session} {ms : List Move}

theorem Tended.reached (hs : s.Tended) : s.Reached := by
  induction hs with
  | file db => exact .file db
  | own => exact .own
  | step hm _ ih => exact .step _ ih

/-- **In a session that is tended, a store is ready only over a table with a unique index.** -/
theorem Tended.guarded (hs : s.Tended) :
    ∀ st ∈ s.stores, st.phase = .ready → s.database.Guarded := by
  induction hs with
  | file db => simp
  | own =>
    intro st hst hready
    obtain rfl := List.mem_singleton.mp hst
    cases hready
  | step hm hs ih =>
    intro st hst hready
    exact guarded_of_ready_step hs.reached.quiet ih (guarded_step hs.reached hm) hst hready

/-- Rows stay where they are, and the unique index with them, as long as nobody takes the layout
away. -/
theorem prefix_run (hs : s.Reached) (hms : ∀ m ∈ ms, m.keepsLayout = true)
    (hg : s.database.Guarded) :
    s.database.rows <+: (s.run ms).database.rows ∧ (s.run ms).database.Guarded := by
  induction ms generalizing s with
  | nil => exact ⟨List.prefix_refl _, hg⟩
  | cons m ms ih =>
    have hm := hms m List.mem_cons_self
    have hguarded := guarded_step hs hm hg
    obtain ⟨hrest, hend⟩ := ih (.step m hs)
      (fun m' hm' => hms m' (List.mem_cons_of_mem _ hm')) hguarded
    exact ⟨(prefix_step hs hm hg).1.trans hrest, hend⟩

end Session

theorem Store.cellKey_mem_keys_of_insertAll {i : Interruption} {rs : List Record} {step : Nat}
    {t t' : Tally} {db db' : Database} (hg : db.Guarded)
    (hall : insertAll i step rs t db = .ok (t', db')) {r : Record} (hr : r ∈ rs) :
    r.cellKey ∈ db'.keys := by
  obtain ⟨-, hrows, -⟩ := insertAll_ok i rs hg hall
  rw [Database.keys_append hrows, List.mem_append]
  exact mem_keys_fresh hr

/-- A batch of records whose keys are in the table takes in none of them, and changes no row. -/
theorem Session.rows_persist_of_known {s : Session} (hs : s.Reached) (hg : s.database.Guarded)
    {id : Nat} {snapshot : Snapshot} {i : Interruption} {t : Tally}
    (hknown : ∀ r ∈ snapshot.records, r.cellKey ∈ s.database.keys)
    (hok : (s.step (.ask id (.persist snapshot i))).1 = .ok (.persisted t)) :
    t = ⟨0, snapshot.recordCount⟩ ∧
      (s.step (.ask id (.persist snapshot i))).2.database.rows = s.database.rows := by
  obtain ⟨st, -, -, hon⟩ := hs.ask_ok rfl hok
  obtain ⟨-, hrows, hadded, htotal⟩ := Store.insertAll_ok i _ hg (Call.insertAll_of_onTable hon)
  rw [fresh_eq_nil_iff.mpr hknown] at hrows hadded
  obtain ⟨added, skipped⟩ := t
  simp only [Tally.total, List.length_nil, Nat.add_zero, Nat.zero_add] at hadded htotal
  refine ⟨?_, by rw [hrows, List.map_nil, List.append_nil]⟩
  rw [Snapshot.recordCount_eq, Tally.mk.injEq]
  omega

/-- **The rows that a store counts grow by those that a batch has added**, wherever there is
something to count. -/
theorem Session.answer_count_persist {s : Session} (hs : s.Reached) {id : Nat} {snapshot : Snapshot}
    {i : Interruption} {t : Tally}
    (hok : (s.step (.ask id (.persist snapshot i))).1 = .ok (.persisted t))
    (hthere : s.database.relation ≠ .absent ∨ snapshot.records ≠ []) :
    ∃ n, (s.step (.ask id .count)).1 = .ok (.counted n) ∧
      ((s.step (.ask id (.persist snapshot i))).2.step (.ask id .count)).1 =
        .ok (.counted (n + t.added)) := by
  obtain ⟨st, hget, hready, hon⟩ := hs.ask_ok rfl hok
  have hall := Call.insertAll_of_onTable hon
  -- a batch that has a record met the table
  have htable : s.database.relation ≠ .absent := by
    rcases hthere with htable | hrecords
    · exact htable
    · obtain ⟨l, hl⟩ := Store.exists_ledger_of_insertAll hall hrecords
      rw [hl]
      nofun
  obtain ⟨st', hget', hready'⟩ :
      ∃ st', (s.step (.ask id (.persist snapshot i))).2.stores[id]? = some st' ∧
        st'.phase = .ready := ready_step hget (hs.quiet st (List.mem_of_getElem? hget)) hready rfl
  -- the store is ready after the batch, and the table is still there
  have hcount := (Reached.step (.ask id (.persist snapshot i)) hs).answer_count hget' hready'
    (Store.has_insertAll (m := .table) htable hall)
  refine ⟨s.database.rowCount, hs.answer_count hget hready htable, ?_⟩
  rw [hcount, ← Store.rowCount_insertAll hall]
  rfl

/-- **A batch is as good as its records one by one, and once is enough.**  If the records of a
snapshot were put into the table in one go, the database is what it would be had they been
inserted one by one; so many of those inserts would have been answered with `true` as were
added, and so many with `false` as were skipped; together they are as many as the snapshot has,
and the rows that are counted have grown by those that were added.  In a session that is tended
the table has its unique index then; and while it has, the same snapshot adds nothing more,
whatever was done in between by any store. -/
theorem persist_inserts_each {s : Session} (hs : s.Reached) {id : Nat} {snapshot : Snapshot}
    {i : Interruption} {t : Tally}
    (hok : (s.step (.ask id (.persist snapshot i))).1 = .ok (.persisted t)) :
    let after := (s.step (.ask id (.persist snapshot i))).2
    let inserts := Session.inserting id snapshot.records
    after.database = (s.run inserts).database ∧
    (∃ answers : List Bool,
      (s.log inserts).map (·.answer) = answers.map (fun added => .ok (.inserted added)) ∧
        t.added = answers.count true ∧ t.skipped = answers.count false) ∧
    t.added + t.skipped = snapshot.recordCount ∧
    (s.database.relation ≠ .absent ∨ snapshot.records ≠ [] →
      ∃ n, (s.step (.ask id .count)).1 = .ok (.counted n) ∧
        (after.step (.ask id .count)).1 = .ok (.counted (n + t.added))) ∧
    (s.Tended → s.database.Guarded) ∧
    (s.database.Guarded → ∀ later, (∀ m ∈ later, m.keepsLayout = true) → ∀ id' j t',
      ((after.run later).step (.ask id' (.persist snapshot j))).1 = .ok (.persisted t') →
        t' = ⟨0, snapshot.recordCount⟩ ∧
          ((after.run later).step (.ask id' (.persist snapshot j))).2.database.rows =
            (after.run later).database.rows) := by
  intro after inserts
  have hafter : after.Reached := .step _ hs
  obtain ⟨st, hget, hready, hon⟩ := hs.ask_ok rfl hok
  have hall := Call.insertAll_of_onTable hon
  obtain ⟨hrun, answers, hlog, hadded, hskipped⟩ := Session.run_inserting hs hget hready hall
  have htrue : t.added = answers.count true := hadded.trans (Nat.zero_add _)
  have hfalse : t.skipped = answers.count false := hskipped.trans (Nat.zero_add _)
  refine ⟨hrun.symm, ⟨answers, hlog, htrue, hfalse⟩, ?_,
    Session.answer_count_persist hs hok, ?_, ?_⟩
  · -- there is an answer for every record
    have hlength := congrArg List.length hlog
    rw [List.length_map, List.length_map, Session.length_log, Session.inserting,
      List.length_map] at hlength
    rw [htrue, hfalse, List.count_true_add_count_false, ← hlength, Snapshot.recordCount_eq]
  · intro htended
    exact htended.guarded st (List.mem_of_getElem? hget) hready
  · intro hg later hlater id' j t' hagain
    obtain ⟨hguarded, -⟩ := Store.insertAll_ok i _ hg hall
    obtain ⟨hkept, hend⟩ := Session.prefix_run hafter hlater hguarded
    apply Session.rows_persist_of_known (hafter.run later) hend ?_ hagain
    intro r hr
    have hmem := Store.cellKey_mem_keys_of_insertAll hg hall hr
    exact (hkept.map _).subset hmem

/-- A request. -/
def plainRequest : Record :=
  ⟨"key", "model", { timestamp := .epoch }⟩

/-- A snapshot in which it comes twice. -/
def doubledSnapshot : Snapshot :=
  Snapshot.ofRecords [plainRequest, plainRequest]

/-- The store is closed, and another one opened. -/
def reopening : List Move :=
  [.ask 0 .close, .openStore "u.db" 0, .ask 1 (.ensureSchema .never)]

/-- Of a request that comes twice in a batch one row is made, and none when the batch comes
again over a store that was opened meanwhile. -/
theorem persist_doubledSnapshot :
    (Session.prepared.step (.ask 0 (.persist doubledSnapshot .never))).1 = .ok (.persisted ⟨1, 1⟩) ∧
    (Session.prepared.step (.ask 0 (.persist doubledSnapshot .never))).2.database =
      (Session.prepared.run (Session.inserting 0 doubledSnapshot.records)).database ∧
    (∃ n, (Session.prepared.step (.ask 0 .count)).1 = .ok (.counted n) ∧
      ((Session.prepared.step (.ask 0 (.persist doubledSnapshot .never))).2.step
        (.ask 0 .count)).1 = .ok (.counted (n + 1))) ∧
    ∀ t, (((Session.prepared.step (.ask 0 (.persist doubledSnapshot .never))).2.run reopening).step
      (.ask 1 (.persist doubledSnapshot .never))).1 = .ok (.persisted t) → t = ⟨0, 2⟩ := by
  have hrecords : doubledSnapshot.records = [plainRequest, plainRequest] := by rfl
  have hanswer := (Session.serves_prepared.persist doubledSnapshot).1
  have hkeys : Session.prepared.database.keys = [] := by rfl
  rw [hkeys, hrecords, fresh_cons_of_notMem List.not_mem_nil,
    fresh_cons_of_mem List.mem_cons_self] at hanswer
  have hreached : Session.prepared.Reached := .step _ (.step _ (.file .blank))
  obtain ⟨hdb, -, -, hcount, -, hagain⟩ := persist_inserts_each hreached hanswer
  refine ⟨hanswer, hdb, hcount (.inl nofun), fun t hok => ?_⟩
  have htwo : doubledSnapshot.recordCount = 2 := by rw [Snapshot.recordCount_eq, hrecords]; rfl
  have hkept : ∀ m ∈ reopening, m.keepsLayout = true := by simp [reopening, Move.keepsLayout]
  rw [(hagain ⟨_, rfl, rfl⟩ reopening hkept 1 .never t hok).1, htwo]

end UsageLedger
