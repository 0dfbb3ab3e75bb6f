import UsageLedger.Proofs.Accounting
import UsageLedger.Proofs.Layout
import UsageLedger.Proofs.Rollback

/-!
# Founding the table

Making sure of the table either founds it or leaves the data as they are.  A founded table has
both indexes and no key twice, and it stays founded whatever stores do, and whatever other users
do who leave the layout in place: so the unique index that a store once made sure of guards the
keys from then on, and making sure of the table again, by this store or another one, does
nothing.

What other users can do is said once, by `Outside.act_cases`: as long as they take no part of
the layout away, they change nothing that matters here, work on a table that is there, or make
something where nothing was.

## Main definitions

* `Outside.keepsLayout`, `Move.keepsLayout` — no part of the layout is taken away.

## Main results

* `Session.has_step`, `Session.prefix_step` — such a move takes no part of the layout away, and
  no row.
* `Session.founded_run` — **a founded table stays founded.**
* `Session.step_ensureSchema` — making sure of the table is what its statements lead to.
* `Session.founded_ensureSchema`, `Session.opened_ensureSchema` — what a store leaves that
  succeeds, and one that fails.
* `Session.ensureSchema_done_iff` — when a store succeeds.
* `ensureSchema_founds` — **making sure of the table founds it, or leaves the data as they are.**
-/

namespace UsageLedger

/-! ### Other users -/

/-- No part of the layout is taken away, and no version noted that is less than the current one. -/
def Outside.keepsLayout : Outside → Bool
  | dropIndexes | dropTable => false
  | setVersion version => Database.currentVersion ≤ version
  | _ => true

/-- No part of the layout is taken away by a move. -/
def Move.keepsLayout : Move → Bool
  | outside act => act.keepsLayout
  | _ => true

/-- A row that another tool put in is behind the others now, and its key was not there where a
unique index is. -/
theorem Database.insertRow_ok {db db' : Database} {values : List (String × Option Cell)}
    (h : db.insertRow values = .ok db') :
    (∃ l row, db.relation = .ledger l ∧ ¬(l.unique = true ∧ row.dedupKey ∈ db.keys) ∧
      db' = { db with relation := .ledger { l with rows := l.rows ++ [row] } }) ∨
    ∃ apiKeys apiKey, db.relation = .narrow apiKeys ∧
      db' = { db with relation := .narrow (apiKeys ++ [apiKey]) } := by
  rw [insertRow] at h
  cases hr : db.relation with
  | ledger l =>
    rw [hr] at h
    obtain ⟨row, -, h⟩ := bind_eq_ok.mp h
    rw [checkWritable_bind_eq_ok] at h
    obtain ⟨-, h⟩ := h
    split at h
    · cases h
    · split at h
      · cases h
      · next hkey =>
        cases h
        -- the statement went through, so no index stood in the way of the key
        refine .inl ⟨l, row, rfl, fun hk => hkey ?_, rfl⟩
        rw [Bool.and_eq_true, hasKey_iff hr]
        exact hk
  | narrow apiKeys =>
    rw [hr] at h
    dsimp only at h
    rw [checkWritable_bind_eq_ok] at h
    obtain ⟨-, h⟩ := h
    split at h
    · cases h
    · cases h
      exact .inr ⟨apiKeys, _, rfl, rfl⟩
  | _ =>
    rw [hr] at h
    cases h

/-- **What another user can do who takes no part of the layout away**: something that does not
touch the table and notes no lesser version, a change of the table but for its indexes, with a
further row at most, a row of a table of one column, or something made where nothing was. -/
theorem Outside.act_cases {a : Outside} (ha : a.keepsLayout = true) {db db' : Database}
    (h : a.act db = .ok db') :
    db'.relation = db.relation ∧
        (db'.version = db.version ∨ Database.currentVersion ≤ db'.version) ∨
    (∃ l l', db.relation = .ledger l ∧ db' = { db with relation := .ledger l' } ∧
      l'.unique = l.unique ∧ l'.lookup = l.lookup ∧
      (l'.rows = l.rows ∨
        ∃ row, l'.rows = l.rows ++ [row] ∧ ¬(l.unique = true ∧ row.dedupKey ∈ db.keys))) ∨
    (∃ apiKeys apiKeys', db.relation = .narrow apiKeys ∧
      db' = { db with relation := .narrow apiKeys' }) ∨
    db.relation = .absent ∧ db'.version = db.version := by
  cases hs : a.sparesTable with
  | true =>
    rcases act_of_spares hs h with ⟨hr, hversion⟩ | ⟨l, l', hl, rfl, hrows, hunique, hlookup⟩
    · refine .inl ⟨hr, hversion.imp_right ?_⟩
      rintro rfl
      exact of_decide_eq_true ha
    · exact .inr (.inl ⟨l, l', hl, rfl, hunique, hlookup, .inl hrows⟩)
  | false =>
    cases a with
    | insertRow values =>
      rcases Database.insertRow_ok h with ⟨l, row, hl, hkey, rfl⟩ | ⟨apiKeys, apiKey, hr, rfl⟩
      · exact .inr (.inl ⟨l, _, hl, rfl, rfl, rfl, .inr ⟨row, rfl, hkey⟩⟩)
      · exact .inr (.inr (.inl ⟨apiKeys, _, hr, rfl⟩))
    | create relation =>
      rw [act, Database.create] at h
      cases hr : db.relation with
      | absent =>
        rw [hr] at h
        dsimp only at h
        rw [Database.checkWritable_bind_eq_ok] at h
        obtain ⟨-, h⟩ := h
        cases h
        exact .inr (.inr (.inr ⟨rfl, rfl⟩))
      | _ =>
        rw [hr] at h
        cases h
    | dropIndexes => cases ha
    | dropTable => cases ha
    | _ => cases hs

namespace Database

variable {db db' : Database} {m : Migration}

/-- A part of the layout depends on what stands there, and on the version. -/
theorem Has.congr (hm : db.Has m) (hr : db'.relation = db.relation)
    (hv : db'.version = db.version ∨ currentVersion ≤ db'.version) : db'.Has m := by
  cases m with
  | version =>
    show currentVersion ≤ db'.version
    rcases hv with hv | hv
    · rw [hv]
      exact hm
    · exact hv
  | table =>
    show db'.relation ≠ .absent
    rw [hr]
    exact hm
  | uniqueIndex =>
    obtain ⟨l, hl, hu⟩ := hm
    exact ⟨l, hr.trans hl, hu⟩
  | lookupIndex =>
    obtain ⟨l, hl, hu⟩ := hm
    exact ⟨l, hr.trans hl, hu⟩

theorem Has.of_narrow (hm : db.Has m) {apiKeys : List (Option Cell)}
    (h : db.relation = .narrow apiKeys) (apiKeys' : List (Option Cell)) :
    ({ db with relation := .narrow apiKeys' } : Database).Has m := by
  cases m with
  | table => nofun
  | version => exact hm
  | _ =>
    obtain ⟨l, hl, -⟩ := hm
    rw [h] at hl
    cases hl

theorem Has.eq_version (hm : db.Has m) (h : db.relation = .absent) : m = .version := by
  cases m with
  | version => rfl
  | table => exact absurd h hm
  | _ =>
    obtain ⟨l, hl, -⟩ := hm
    rw [h] at hl
    cases hl

/-- Other users who leave the layout in place take no part of it away. -/
theorem Has.afterOutside (hm : db.Has m) {a : Outside} (ha : a.keepsLayout = true) :
    (db.afterOutside a).Has m := by
  rw [Database.afterOutside]
  cases hact : a.act db with
  | error f => exact hm
  | ok db' =>
    rcases Outside.act_cases ha hact with
      ⟨hr, hv⟩ | ⟨l, l', hl, rfl, hu, hlookup, -⟩ | ⟨apiKeys, apiKeys', hr, rfl⟩ | ⟨hr, hv⟩
    · exact hm.congr hr hv
    · exact has_of_table hl l' hu hlookup hm
    · exact hm.of_narrow hr apiKeys'
    · obtain rfl := hm.eq_version hr
      show currentVersion ≤ db'.version
      rw [hv]
      exact hm

/-- Other users who leave the layout in place leave the rows in place, and put at most one
behind them. -/
theorem rows_afterOutside {a : Outside} (ha : a.keepsLayout = true) (db : Database) :
    (db.afterOutside a).rows = db.rows ∨ db.relation = .absent ∨
      ∃ row, (db.afterOutside a).rows = db.rows ++ [row] ∧
        (db.Guarded → row.dedupKey ∉ db.keys) := by
  rw [afterOutside]
  cases hact : a.act db with
  | error f => exact .inl rfl
  | ok db' =>
    rcases Outside.act_cases ha hact with
      ⟨hr, -⟩ | ⟨l, l', hl, rfl, -, -, hrows⟩ | ⟨apiKeys, apiKeys', hr, rfl⟩ | ⟨hr, -⟩
    · left
      simp only [rows, hr]
    · rw [rows_of_table hl, rows_of_table rfl]
      rcases hrows with hrows | ⟨row, hrows, hkey⟩
      · exact .inl hrows
      · refine .inr (.inr ⟨row, hrows, ?_⟩)
        -- a guarded table has the index, and the row went in beside it
        rintro ⟨l₀, hl₀, hu⟩
        rw [hl] at hl₀
        cases hl₀
        exact fun hmem => hkey ⟨hu, hmem⟩
    · left
      simp only [rows, hr]
    · -- there was no table, whatever was made
      exact .inr (.inl hr)

end Database

/-! ### Stores -/

namespace Store

variable {s : Store} {db db' : Database} {m : Database.Migration}

theorem has_offer {row : Row} {added : Bool} (hm : db.Has m) (h : db.offer row = .ok (added, db')) :
    db'.Has m := by
  obtain ⟨l, hl, -, -, hcase⟩ := Database.offer_ok h
  rcases hcase with ⟨-, -, -, rfl⟩ | ⟨-, -, rfl⟩
  · exact hm
  · exact Database.has_of_table hl { l with rows := l.rows ++ [row] } rfl rfl hm

theorem has_insertAll {i : Interruption} {rs : List Record} {step : Nat} {t t' : Tally}
    (hm : db.Has m) (h : insertAll i step rs t db = .ok (t', db')) : db'.Has m := by
  induction rs generalizing step t db with
  | nil =>
    cases h
    exact hm
  | cons r rs ih =>
    rw [insertAll] at h
    split at h
    · cases h
    · split at h
      · cases h
      · next hoffer => exact ih (has_offer hm hoffer) h

/-- Making sure of the table takes no part of the layout away. -/
theorem has_ensureSchema (hq : s.Quiet) (hm : db.Has m) (i : Interruption) :
    (s.ensureSchema db i).database.Has m := by
  rcases ensureSchema_cases hq db i with ⟨-, ho⟩ | ⟨-, ho, -⟩ | ⟨-, -, ho⟩
  · rw [ho]
    exact hm
  · rw [ho]
    exact hm
  · rcases ho with ⟨-, ho⟩ | ⟨s', answer, db', -, -, hmig, hcase⟩
    · rw [ho]
      exact hm
    · -- the statements take nothing away, whether they all succeed or not
      have hkept : (migrate i 0 Database.migrations db).2.Has m := has_migrate_of_has hm
      rw [hmig] at hkept
      rcases hcase with ⟨-, ho⟩ | ⟨e, -, ho⟩
      · rw [ho]
        exact hkept
      · rw [ho]
        exact hkept

/-- **No request takes a part of the layout away.** -/
theorem has_serve (hq : s.Quiet) (hm : db.Has m) (call : Call) :
    (s.serve db call).database.Has m := by
  rcases database_serve_cases hq db call with hdb | ⟨-, reply, hon⟩ | ⟨i, -, hdb⟩
  · exact hdb.symm ▸ hm
  · obtain ⟨r, added, -, -, hoffer⟩ | ⟨snapshot, j, tally, -, -, hall⟩ | ⟨-, -, hdb⟩ :=
      Call.onTable_cases hon
    · exact has_offer hm hoffer
    · exact has_insertAll hm hall
    · exact hdb.symm ▸ hm
  · exact hdb.symm ▸ has_ensureSchema hq hm i

end Store

/-! ### Sessions -/

namespace Session

variable {s : Session} {m : Move}

/-- **No move takes a part of the layout away**, unless another user does. -/
theorem has_step (hs : s.Reached) (hm : m.keepsLayout = true) {part : Database.Migration}
    (h : s.database.Has part) : (s.step m).2.database.Has part := by
  cases m with
  | openStore path busyTimeout =>
    simp only [Session.step, Store.attach]
    split
    · next hattach =>
      split at hattach <;> cases hattach
      exact h.congr rfl (.inl rfl)
    · exact h
  | ask id call =>
    simp only [Session.step]
    cases hget : s.stores[id]? with
    | none => exact h
    | some st => exact Store.has_serve (hs.quiet st (List.mem_of_getElem? hget)) h call
  | outside act => exact h.afterOutside hm

theorem guarded_step (hs : s.Reached) (hm : m.keepsLayout = true) (hg : s.database.Guarded) :
    (s.step m).2.database.Guarded :=
  has_step hs hm (show s.database.Has .uniqueIndex from hg)

/-- **The rows that a move leaves**: those that were there, with others behind them whose keys
were not there and differ, as long as the table stands with its unique index. -/
theorem prefix_step (hs : s.Reached) (hm : m.keepsLayout = true) (hg : s.database.Guarded) :
    s.database.rows <+: (s.step m).2.database.rows ∧
      (s.database.keys.Nodup → (s.step m).2.database.keys.Nodup) := by
  cases m with
  | openStore path busyTimeout =>
    simp only [Session.step, Store.attach]
    split
    · next hattach =>
      split at hattach <;> cases hattach
      exact ⟨List.prefix_refl _, id⟩
    · exact ⟨List.prefix_refl _, id⟩
  | ask id call =>
    simp only [Session.step]
    cases hget : s.stores[id]? with
    | none => exact ⟨List.prefix_refl _, fun hdistinct => hdistinct⟩
    | some st =>
      have hrows := Store.rows_serve (hs.quiet st (List.mem_of_getElem? hget)) (fun _ => hg) call
      -- a request puts records behind the rows, and only those whose keys are new
      refine ⟨⟨_, hrows.symm⟩, ?_⟩
      intro hdistinct
      dsimp only
      rw [Database.keys_append hrows]
      cases (st.serve s.database call).answer with
      | error e =>
        rw [Call.added, List.map_nil, List.append_nil]
        exact hdistinct
      | ok reply => exact nodup_append_map_fresh hdistinct call.records
  | outside act =>
    have hrows := Database.rows_afterOutside hm s.database
    simp only [Session.step]
    rcases hrows with hrows | habsent | ⟨row, hrows, hkey⟩
    · refine ⟨hrows ▸ List.prefix_refl _, ?_⟩
      intro hdistinct
      show ((s.database.afterOutside act).rows.map (·.dedupKey)).Nodup
      rw [hrows]
      exact hdistinct
    · -- a table that is guarded is there
      obtain ⟨l, hl, -⟩ := hg
      rw [habsent] at hl
      cases hl
    · refine ⟨hrows ▸ List.prefix_append _ _, ?_⟩
      intro hdistinct
      show ((s.database.afterOutside act).rows.map (·.dedupKey)).Nodup
      rw [hrows, List.map_append, List.map_singleton, List.nodup_append_comm, List.singleton_append,
        List.nodup_cons]
      exact ⟨hkey hg, hdistinct⟩

theorem Reached.run (hs : s.Reached) (ms : List Move) : (s.run ms).Reached := by
  induction ms generalizing s with
  | nil => exact hs
  | cons m ms ih => exact ih (.step m hs)

/-- A founded table stays founded under a move that takes no part of the layout away. -/
theorem founded_step (hs : s.Reached) (hm : m.keepsLayout = true) (h : s.database.Founded) :
    (s.step m).2.database.Founded where
  has := fun part => has_step hs hm (h.has part)
  distinct := (prefix_step hs hm (h.has .uniqueIndex)).2 h.distinct

/-- **A founded table stays founded.** -/
theorem founded_run (hs : s.Reached) (h : s.database.Founded) {ms : List Move}
    (hms : ∀ m ∈ ms, m.keepsLayout = true) : (s.run ms).database.Founded := by
  induction ms generalizing s with
  | nil => exact h
  | cons m ms ih =>
    exact ih (.step m hs) (founded_step hs (hms m List.mem_cons_self) h) fun m' hm' =>
      hms m' (List.mem_cons_of_mem _ hm')

end Session

/-! ### Making sure of the table -/

/-- How far a store has come that made sure of the table, or did not manage to. -/
def Phase.afterMigrate : Except Error Unit → Phase
  | .ok _ => .ready
  | .error _ => .opened

/-- **Making sure of the table is what its statements lead to**, for a store that is opened. -/
theorem Store.ensureSchema_of_opened {s : Store} (hq : s.Quiet) (hl : s.Linked)
    (hopen : s.phase = .opened) (db : Database) (i : Interruption) :
    (s.ensureSchema db i).answer = (migrate i 0 Database.migrations db).1 ∧
      (s.ensureSchema db i).database = (migrate i 0 Database.migrations db).2 ∧
      (s.ensureSchema db i).store.phase = .afterMigrate (migrate i 0 Database.migrations db).1 := by
  rcases ensureSchema_cases hq db i with ⟨hready, -⟩ | ⟨-, -, hnot⟩ | ⟨-, -, ho⟩
  · rw [hopen] at hready
    cases hready
  · have hconn : s.connection.isSome = true := hl.mpr (.inl hopen)
    rcases hnot with hnot | hnone
    · exact absurd hopen hnot
    · rw [hnone] at hconn
      cases hconn
  · rcases ho with ⟨hstart, ho⟩ | ⟨s', answer, db', -, hb, hmig, hcase⟩
    · -- what is called off before it starts is called off in front of its first statement
      have hstop : i.stops 0 = true := by
        cases i with
        | before => rfl
        | _ => cases hstart
      rw [ho, Database.migrations, migrate, if_pos hstop]
      exact ⟨rfl, rfl, hopen⟩
    · rw [hmig]
      rcases hcase with ⟨rfl, ho⟩ | ⟨e, rfl, ho⟩
      · rw [ho]
        exact ⟨rfl, rfl, rfl⟩
      · rw [ho]
        exact ⟨rfl, rfl, (phase_eq_of_bare_eq hb).trans hopen⟩

/-- **What is answered to a store that makes sure of the table**, and what that leaves. -/
theorem Session.step_ensureSchema {s : Session} {id : Nat} {st : Store}
    (hget : s.stores[id]? = some st) (hq : st.Quiet) (hl : st.Linked) (hopen : st.phase = .opened)
    (i : Interruption) :
    (s.step (.ask id (.ensureSchema i))).1 =
        (Store.migrate i 0 Database.migrations s.database).1.map (fun _ => .done) ∧
      (s.step (.ask id (.ensureSchema i))).2.database =
        (Store.migrate i 0 Database.migrations s.database).2 ∧
      ∃ st', (s.step (.ask id (.ensureSchema i))).2.stores[id]? = some st' ∧
        st'.phase = .afterMigrate (Store.migrate i 0 Database.migrations s.database).1 := by
  obtain ⟨hanswer, hdb, hphase⟩ := Store.ensureSchema_of_opened hq hl hopen s.database i
  simp only [Session.step, hget, Store.serve]
  refine ⟨by rw [Outcome.map_answer, hanswer], hdb, _, ?_, hphase⟩
  rw [List.getElem?_set_self (List.getElem?_eq_some_iff.mp hget).1]
  rfl

/-- A store that is opened or ready does nothing when it makes sure of a table that is founded. -/
theorem Session.step_ensureSchema_of_founded {s : Session} (hs : s.Reached)
    (hf : s.database.Founded) {id : Nat} {st : Store} (hget : s.stores[id]? = some st)
    (hphase : st.phase = .opened ∨ st.phase = .ready) (i : Interruption) :
    (s.step (.ask id (.ensureSchema i))).2.database = s.database ∧
      (i = .never → (s.step (.ask id (.ensureSchema i))).1 = .ok .done) := by
  have hmem := List.mem_of_getElem? hget
  rcases hphase with hopen | hready
  · obtain ⟨hanswer, hdb, -⟩ := step_ensureSchema hget (hs.quiet st hmem)
      (hs.linked st hmem) hopen i
    have hnothing : (Store.migrate i 0 Database.migrations s.database).2 = s.database ∧
        (i = .never → (Store.migrate i 0 Database.migrations s.database).1 = .ok ()) :=
      Store.migrate_of_has hf.has
    refine ⟨hdb.trans hnothing.1, ?_⟩
    intro hnever
    rw [hanswer, hnothing.2 hnever]
    rfl
  · simp [Session.step, hget, Store.serve, Store.ensureSchema, hready, Outcome.map, Except.map]

namespace Session

variable {s : Session} {id : Nat} {st : Store} {i : Interruption}

/-- **A store that succeeds founds the table**, notes the version where it was less, and is
ready. -/
theorem founded_ensureSchema (hs : s.Reached) (hi : s.database.relation.Indexed)
    (hget : s.stores[id]? = some st) (hopen : st.phase = .opened)
    (hok : (s.step (.ask id (.ensureSchema i))).1 = .ok .done) :
    (s.step (.ask id (.ensureSchema i))).2.database.Founded ∧
      (s.step (.ask id (.ensureSchema i))).2.database.version = max s.database.version 1 ∧
      ∃ st', (s.step (.ask id (.ensureSchema i))).2.stores[id]? = some st' ∧
        st'.phase = .ready := by
  have hmem := List.mem_of_getElem? hget
  obtain ⟨hanswer, hdb, st', hget', hphase'⟩ :=
    step_ensureSchema hget (hs.quiet st hmem) (hs.linked st hmem) hopen i
  -- the answer is that of the statements, so they have all succeeded
  have hmade : (Store.migrate i 0 Database.migrations s.database).1 = .ok () := by
    rw [hanswer] at hok
    cases hmig : (Store.migrate i 0 Database.migrations s.database).1 with
    | ok u => rfl
    | error e =>
      rw [hmig] at hok
      cases hok
  rw [hdb]
  have hhas : ∀ m, (Store.migrate i 0 Database.migrations s.database).2.Has m := by
    intro m
    exact Store.has_migrate hmade (Store.mem_migrations m)
  refine ⟨⟨hhas, ?_⟩, ?_, st', hget', ?_⟩
  · exact Database.Guarded.nodup_keys (hhas .uniqueIndex) (Store.indexed_migrate i _ 0 hi)
  · rw [Store.version_migrate hmade, if_pos (by decide)]
    rfl
  · rw [hphase', hmade]
    rfl

/-- **A store that fails has not noted the version**, has left alone whatever else has the name
of the table, and is still opened. -/
theorem opened_ensureSchema (hs : s.Reached) (hget : s.stores[id]? = some st)
    (hopen : st.phase = .opened) {e : Error}
    (herror : (s.step (.ask id (.ensureSchema i))).1 = .error e) :
    (s.step (.ask id (.ensureSchema i))).2.database.version = s.database.version ∧
      ((∃ apiKeys, s.database.relation = .narrow apiKeys) ∨ s.database.relation = .view →
        (s.step (.ask id (.ensureSchema i))).2.database = s.database) ∧
      ∃ st', (s.step (.ask id (.ensureSchema i))).2.stores[id]? = some st' ∧
        st'.phase = .opened := by
  have hmem := List.mem_of_getElem? hget
  obtain ⟨hanswer, hdb, st', hget', hphase'⟩ :=
    step_ensureSchema hget (hs.quiet st hmem) (hs.linked st hmem) hopen i
  obtain ⟨e', hfailed⟩ : ∃ e', (Store.migrate i 0 Database.migrations s.database).1 =
      .error e' := by
    rw [hanswer] at herror
    cases hmig : (Store.migrate i 0 Database.migrations s.database).1 with
    | ok u =>
      rw [hmig] at herror
      cases herror
    | error e' => exact ⟨e', rfl⟩
  rw [hdb]
  refine ⟨Store.version_migrate_of_error (by decide) hfailed, Store.migrate_of_other, st',
    hget', ?_⟩
  rw [hphase', hfailed]
  rfl

/-- **When a store that is opened succeeds**: exactly if nothing keeps table and indexes from
being made. -/
theorem ensureSchema_done_iff (hget : s.stores[id]? = some st) (hq : st.Quiet) (hl : st.Linked)
    (hopen : st.phase = .opened) :
    (s.step (.ask id (.ensureSchema .never))).1 = .ok .done ↔ s.database.Preparable := by
  obtain ⟨hanswer, -⟩ := step_ensureSchema hget hq hl hopen .never
  rw [hanswer, ← Store.migrate_ok_iff]
  cases (Store.migrate .never 0 Database.migrations s.database).1 <;> simp [Except.map]

/-- Where it does not succeed, and nobody calls it off, one of its statements was refused. -/
theorem ensureSchema_refused (hget : s.stores[id]? = some st) (hq : st.Quiet) (hl : st.Linked)
    (hopen : st.phase = .opened) (hnot : ¬s.database.Preparable) :
    ∃ f, (s.step (.ask id (.ensureSchema .never))).1 = .error (.schema f) := by
  obtain ⟨hanswer, -⟩ := step_ensureSchema hget hq hl hopen .never
  rw [← Store.migrate_ok_iff] at hnot
  cases hmig : (Store.migrate .never 0 Database.migrations s.database).1 with
  | ok u => exact absurd hmig hnot
  | error e =>
    obtain ⟨f, rfl⟩ := Store.migrate_never_error hmig
    rw [hmig] at hanswer
    exact ⟨f, hanswer⟩

end Session

theorem Database.not_preparable_of_duplicate {db : Database} {l : Ledger}
    (hl : db.relation = .ledger l) (hu : l.unique = false) (hkeys : ¬db.keys.Nodup) :
    ¬db.Preparable := by
  unfold Preparable
  rw [hl]
  rintro ⟨hunique | hnodup, -⟩
  · rw [hu] at hunique
    cases hunique
  · exact hkeys hnodup

/-- **Making sure of the table founds it, or leaves the data as they are.**  An opened store
that nobody calls off succeeds exactly if nothing keeps table and indexes from being made.  If
it succeeds, the table is there with both indexes, a version less than the current one is
replaced by it, and no row is touched; from then on, as long as no other user takes the layout
away, no key is in the table twice, and a store that makes sure of the table again, this one or
another, succeeds and changes nothing.  If it fails, rows and version are as they were, as is
whatever else has the name of the table, and the store is still opened, so that over any content
that the file may have later it succeeds exactly if nothing is in the way.  Two rows with the
same key are, where there is no unique index.  Of the file it is assumed only that no two rows
under a unique index have the same key. -/
theorem ensureSchema_founds {s : Session} (hs : s.Reached) (hi : s.database.relation.Indexed)
    {id : Nat} {st : Store} (hget : s.stores[id]? = some st) (hopen : st.phase = .opened)
    (i : Interruption) :
    let after := (s.step (.ask id (.ensureSchema i))).2
    ((s.step (.ask id (.ensureSchema .never))).1 = .ok .done ↔ s.database.Preparable) ∧
    ((s.step (.ask id (.ensureSchema i))).1 = .ok .done →
      (∃ l, after.database.relation = .ledger l ∧ l.unique = true ∧ l.lookup = true) ∧
      after.database.version = max s.database.version 1 ∧
      after.database.rows = s.database.rows ∧
      (∃ st', after.stores[id]? = some st' ∧ st'.phase = .ready) ∧
      ∀ later, (∀ m ∈ later, m.keepsLayout = true) →
        (after.run later).database.keys.Nodup ∧
        ∀ id' st', (after.run later).stores[id']? = some st' →
          st'.phase = .opened ∨ st'.phase = .ready →
          ((after.run later).step (.ask id' (.ensureSchema .never))).1 = .ok .done ∧
          ∀ j, ((after.run later).step (.ask id' (.ensureSchema j))).2.database =
            (after.run later).database) ∧
    (∀ e, (s.step (.ask id (.ensureSchema i))).1 = .error e →
      after.database.rows = s.database.rows ∧ after.database.version = s.database.version ∧
      ((∃ apiKeys, s.database.relation = .narrow apiKeys) ∨ s.database.relation = .view →
        after.database = s.database) ∧
      (∃ st', after.stores[id]? = some st' ∧ st'.phase = .opened) ∧
      ∀ db, ((Session.mk db after.stores).step (.ask id (.ensureSchema .never))).1 = .ok .done ↔
        db.Preparable) ∧
    (∀ l, s.database.relation = .ledger l → l.unique = false → ¬s.database.keys.Nodup →
      ∃ f, (s.step (.ask id (.ensureSchema .never))).1 = .error (.schema f)) := by
  intro after
  have hmem := List.mem_of_getElem? hget
  have hafter : after.Reached := .step _ hs
  have hrows : after.database.rows = s.database.rows := by
    obtain ⟨-, hdb, -⟩ := Session.step_ensureSchema hget (hs.quiet st hmem)
      (hs.linked st hmem) hopen i
    rw [hdb]
    exact Store.migrate_rows i _ 0 s.database
  refine ⟨Session.ensureSchema_done_iff hget (hs.quiet st hmem) (hs.linked st hmem) hopen, ?_,
    ?_, ?_⟩
  · intro hok
    obtain ⟨hfounded, hversion, hready⟩ := Session.founded_ensureSchema hs hi hget hopen hok
    refine ⟨?_, hversion, hrows, hready, ?_⟩
    · obtain ⟨l, hl, hu⟩ := hfounded.has .uniqueIndex
      obtain ⟨l', hl', hlookup⟩ := hfounded.has .lookupIndex
      rw [hl] at hl'
      cases hl'
      exact ⟨l, hl, hu, hlookup⟩
    · -- what was founded stays so, whatever is done that keeps the layout
      intro later hlater
      have hstill := Session.founded_run hafter hfounded hlater
      have hreached := Session.Reached.run hafter later
      refine ⟨hstill.distinct, ?_⟩
      intro id' st' hget' hphase'
      refine ⟨?_, ?_⟩
      · exact (Session.step_ensureSchema_of_founded hreached hstill hget' hphase' .never).2 rfl
      · intro j
        exact (Session.step_ensureSchema_of_founded hreached hstill hget' hphase' j).1
  · intro e herror
    obtain ⟨hversion, hother, st', hget', hopen'⟩ :=
      Session.opened_ensureSchema hs hget hopen herror
    refine ⟨hrows, hversion, hother, ⟨st', hget', hopen'⟩, ?_⟩
    intro db
    -- the store is as it was, so that another table is all a later attempt depends on
    have hmem' := List.mem_of_getElem? hget'
    exact Session.ensureSchema_done_iff (s := ⟨db, after.stores⟩) hget' (hafter.quiet st' hmem')
      (hafter.linked st' hmem') hopen'
  · intro l hl hu hkeys
    exact Session.ensureSchema_refused hget (hs.quiet st hmem) (hs.linked st hmem) hopen
      (Database.not_preparable_of_duplicate hl hu hkeys)

/-- A table without indexes, of two rows with these keys. -/
def pairTable (first second : String) : Ledger where
  rows := [first, second].map fun key =>
    { Row.ofRecord ⟨"key", "model", { timestamp := .epoch }⟩ with dedupKey := .text key }

/-- A store that is opened on a file with such a table, whose version is that of another tool. -/
def besidePair (first second : String) : Session :=
  ((⟨{ version := -3, relation := .ledger (pairTable first second) }, []⟩ : Session).step
    (.openStore "u.db" 0)).2

/-- A table of two keys is founded, one in which a key comes twice is left as it is. -/
theorem ensureSchema_founds_pairTable :
    ((besidePair "a" "b").step (.ask 0 (.ensureSchema .never))).2.database.version = 1 ∧
    (((besidePair "a" "b").step (.ask 0 (.ensureSchema .never))).2.run
      [.openStore "u.db" 0, .ask 1 (.ensureSchema .never), .ask 0 .close]).database.keys.Nodup ∧
    (∃ f, ((besidePair "a" "a").step (.ask 0 (.ensureSchema .never))).1 = .error (.schema f)) ∧
    ((besidePair "a" "a").step (.ask 0 (.ensureSchema .never))).2.database.version = -3 := by
  have hreached : ∀ first second, (besidePair first second).Reached := fun first second =>
    .step _ (.file _)
  -- neither table has the index yet
  have hindexed : ∀ first second, (besidePair first second).database.relation.Indexed := by
    intro first second l hl hu
    cases hl
    cases hu
  obtain ⟨st, hget, hopen⟩ : ∃ st, (besidePair "a" "b").stores[0]? = some st ∧ st.phase = .opened :=
    ⟨_, rfl, rfl⟩
  obtain ⟨st', hget', hopen'⟩ : ∃ st, (besidePair "a" "a").stores[0]? = some st ∧
      st.phase = .opened :=
    ⟨_, rfl, rfl⟩
  -- two rows of different keys are accepted, two of one key are not
  have hdistinct := ensureSchema_founds (hreached "a" "b") (hindexed "a" "b") hget hopen .never
  have htwice := ensureSchema_founds (hreached "a" "a") (hindexed "a" "a") hget' hopen' .never
  obtain ⟨-, hversion, -, -, hlater⟩ := hdistinct.2.1 rfl
  obtain ⟨f, hf⟩ := htwice.2.2.2 (pairTable "a" "a") rfl rfl (by decide)
  refine ⟨hversion, (hlater _ ?_).1, ⟨f, hf⟩, (htwice.2.2.1 _ hf).2.1⟩
  simp [Move.keepsLayout]

end UsageLedger
