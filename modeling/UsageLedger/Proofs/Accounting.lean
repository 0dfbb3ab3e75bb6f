import UsageLedger.Proofs.Serving
import Mathlib.Algebra.GroupWithZero.Nat

/-!
# The accounts of a session

A table that only stores write to is an account of what they answered: every row is the row of a
record that some request reported as added, every such record has its row, and no record is
reported twice, however the requests of any number of stores alternate and whichever of them
fail.

The proof is one invariant, `Session.Orderly`, kept by every move, and one equation,
`rows_step`, that says which rows a move adds.

## Main definitions

* `Session.Orderly` — whoever is ready works on a table with a unique index and distinct keys.
* `Database.Admits` — neither a lock nor a refused model keeps a record out.
* `Accounts` — a log of answers and a table that agree.

## Main results

* `Session.rows_run` — the rows after a run are those before it and those of the records reported.
* `accounts_of_run` — **the answers of a session account for its rows.**
-/

namespace UsageLedger

namespace Store

variable {s : Store} {db : Database}

/-- A successful call to write or to read adds the records with new keys, keeps the unique
index, and reports how many it added. -/
theorem onTable_effect (hg : db.Guarded) {call : Call} {reply : Reply} {db' : Database}
    (hc : call.usesTable = true) (h : call.onTable db = .ok (reply, db')) :
    db'.Guarded ∧ db'.rows = db.rows ++
      (fresh Record.cellKey db.keys call.records).map Row.ofRecord ∧
      reply.reported = (fresh Record.cellKey db.keys call.records).length := by
  obtain ⟨r, added, rfl, rfl, hoffer⟩ | ⟨snapshot, i, tally, rfl, rfl, hall⟩ | ⟨hw, hzero, rfl⟩ :=
    Call.onTable_cases h
  · -- whether the row was added tells whether its key was new
    have hiff := hg.offer_added hoffer
    rw [Row.dedupKey_ofRecord] at hiff
    refine ⟨hg.offer hoffer, ?_⟩
    rw [Database.offer_rows hoffer, Call.records]
    cases added with
    | true =>
      rw [fresh_cons_of_notMem (hiff.mp rfl)]
      exact ⟨rfl, rfl⟩
    | false =>
      rw [fresh_cons_of_mem (by simpa using hiff)]
      exact ⟨rfl, rfl⟩
  · obtain ⟨hg', hrows, hadded, -⟩ := insertAll_ok i snapshot.records hg hall
    exact ⟨hg', hrows, by simpa [Reply.reported, Call.records] using hadded⟩
  · rw [Call.records_of_not_writes hw, hzero]
    exact ⟨hg, (List.append_nil _).symm, rfl⟩

/-- Making sure of the table leaves the unique index where it is, and if it succeeds the unique
index is there. -/
theorem guarded_ensureSchema (hq : s.Quiet) (hg : s.phase = .ready → db.Guarded) {i : Interruption}
    (h : db.Guarded ∨ (s.ensureSchema db i).answer = .ok ()) :
    (s.ensureSchema db i).database.Guarded := by
  rcases ensureSchema_cases hq db i with ⟨hready, ho⟩ | ⟨-, ho, -⟩ | ⟨-, -, ho⟩
  · -- a store that is ready makes sure of nothing
    rw [ho]
    exact hg hready
  · rw [ho] at h ⊢
    simpa using h
  · rcases ho with ⟨-, ho⟩ | ⟨s', answer, db', -, -, hm, hcase⟩
    · rw [ho] at h ⊢
      simpa using h
    · -- the statements put the index there if they all succeed, and keep it in any case
      have hmig := guarded_migrate i Database.migrations 0 db
      rw [hm] at hmig
      rcases hcase with ⟨hok, ho⟩ | ⟨e, -, ho⟩
      · rw [ho]
        exact hmig (.inr ⟨hok, by decide⟩)
      · rw [ho] at h ⊢
        exact hmig (.inl (by simpa using h))

/-- **Which rows a request adds**: none if it fails, and else those of its records whose keys
are new. -/
theorem rows_serve (hq : s.Quiet) (hg : s.phase = .ready → db.Guarded) (call : Call) :
    (s.serve db call).database.rows =
      db.rows ++ (call.added db (s.serve db call).answer).map Row.ofRecord := by
  cases hc : call.usesTable with
  | true =>
    obtain ⟨s', -, hserved⟩ := serve_cases hq db hc
    generalize s.serve db call = o at *
    cases hserved with
    | refused => simp [Call.added]
    | tableless => simp [Call.added]
    | failed => simp [Call.added]
    | done hr hon => exact (onTable_effect (hg (ready?_eq_some_iff.mp hr).1) hc hon).2.1
  | false =>
    -- a request that does not use the table has no records
    have hrecords : ∀ answer, call.added db answer = [] := by
      intro answer
      cases call with
      | ensureSchema i => cases answer <;> rfl
      | close => cases answer <;> rfl
      | _ => cases hc
    rw [hrecords, List.map_nil, List.append_nil]
    cases call with
    | ensureSchema i => exact rows_ensureSchema s db i
    | close => rfl
    | _ => cases hc

/-- A request reports as many records as it adds. -/
theorem reported_serve (hq : s.Quiet) (hg : s.phase = .ready → db.Guarded) {call : Call}
    {reply : Reply} (h : (s.serve db call).answer = .ok reply) :
    reply.reported = (fresh Record.cellKey db.keys call.records).length := by
  cases hc : call.usesTable with
  | true =>
    obtain ⟨s', -, hserved⟩ := serve_cases hq db hc
    generalize s.serve db call = o at *
    cases hserved with
    | done hr hon =>
      cases h
      -- a ready store is open on a table that has the index
      exact (onTable_effect (hg (ready?_eq_some_iff.mp hr).1) hc hon).2.2
    | _ => cases h
  | false =>
    cases call with
    | ensureSchema i =>
      -- a request that does not use the table reports nothing, and carries no records
      obtain ⟨_, -, rfl⟩ := Outcome.map_answer_eq_ok.mp h
      rfl
    | close => cases h; rfl
    | _ => cases hc

theorem guarded_serve (hq : s.Quiet) (hg : db.Guarded) (call : Call) :
    (s.serve db call).database.Guarded := by
  rcases database_serve_cases hq db call with hdb | ⟨hc, reply, hon⟩ | ⟨i, -, hdb⟩
  · exact hdb.symm ▸ hg
  · exact (onTable_effect hg hc hon).1
  · exact hdb.symm ▸ guarded_ensureSchema hq (fun _ => hg) (.inl hg)

theorem guarded_of_ready_serve (hq : s.Quiet) (hg : s.phase = .ready → db.Guarded) {call : Call}
    (h : (s.serve db call).store.phase = .ready) : (s.serve db call).database.Guarded := by
  rcases phase_serve hq db call with hsame | ⟨hclosed, -⟩ | ⟨⟨i, rfl⟩, -, hok, -⟩
  · exact guarded_serve hq (hg (hsame ▸ h)) call
  · rw [h] at hclosed
    cases hclosed
  · obtain ⟨_, hanswer, -⟩ := Outcome.map_answer_eq_ok.mp hok
    exact guarded_ensureSchema hq hg (.inr hanswer)

end Store

/-! ### The invariant -/

/-- Nothing but a key that is there keeps a record out: nobody else is writing, and records of
its model are not refused. -/
def Database.Admits (db : Database) (r : Record) : Prop :=
  db.locked = false ∧ ∀ l, db.relation = .ledger l → l.rejected ≠ some r.model

/-- A record that nothing but its key could keep out is taken in, or its key is known. -/
theorem Database.Admits.offer {db : Database} {r : Record} (ha : db.Admits r) (hg : db.Guarded) :
    ∃ p, db.offer (Row.ofRecord r) = .ok p := by
  obtain ⟨l, hl, -⟩ := hg
  obtain ⟨hfree, hmodel⟩ := ha
  -- the model of the record is not the one whose rows are refused
  have hrejects : l.rejects (Row.ofRecord r) = false := by
    have hne := hmodel l hl
    rw [Ledger.rejects]
    cases hr : l.rejected with
    | none => rfl
    | some model =>
      rw [hr, ne_eq, Option.some.injEq] at hne
      show (Cell.text r.model == Cell.text model) = false
      simpa using Ne.symm hne
  rw [Database.offer_of_table hl, hfree, hrejects, if_neg (by simp), if_neg (by simp)]
  split
  · exact ⟨_, rfl⟩
  · exact ⟨_, rfl⟩

namespace Session

/-- Whoever is ready works on a table with a unique index, and the keys are distinct. -/
structure Orderly (s : Session) : Prop where
  /-- No store has anything left that would call off a statement. -/
  quiet : ∀ st ∈ s.stores, st.Quiet
  /-- The stores with a connection are those that are opened or ready. -/
  linked : ∀ st ∈ s.stores, st.Linked
  /-- A store is ready only while the table stands with its unique index. -/
  guarded : ∀ st ∈ s.stores, st.phase = .ready → s.database.Guarded
  /-- No two rows have the same key. -/
  distinct : s.database.keys.Nodup

theorem orderly_blank : blank.Orderly := by
  constructor <;> simp [blank, Database.blank, Database.keys, Database.rows]

/-- Together with the keys in the table, the keys of the records that a move reports are
distinct. -/
theorem nodup_append_added (e : Exchange) (h : e.before.database.keys.Nodup) :
    (e.before.database.keys ++ e.added.map Record.cellKey).Nodup := by
  rw [Exchange.added]
  cases e.move with
  | ask id call =>
    dsimp only
    cases e.answer with
    | ok reply => exact nodup_append_map_fresh h call.records
    | error err => simpa [Call.added] using h
  | _ => simpa using h

/-- A store is ready after a move only over a table with its unique index, if that was so before
and the move does not take the index away. -/
theorem guarded_of_ready_step {s : Session} {m : Move} (hq : ∀ st ∈ s.stores, st.Quiet)
    (hg : ∀ st ∈ s.stores, st.phase = .ready → s.database.Guarded)
    (hkept : s.database.Guarded → (s.step m).2.database.Guarded) {st : Store}
    (hst : st ∈ (s.step m).2.stores) (hready : st.phase = .ready) :
    (s.step m).2.database.Guarded := by
  cases m with
  | openStore path busyTimeout =>
    simp only [step] at hst
    split at hst
    · next opened db hattach =>
      rcases List.mem_append.mp hst with hst | hst
      · exact hkept (hg st hst hready)
      · -- the store that was opened is not ready
        rw [List.mem_singleton.mp hst, (Store.attach_ok hattach).2.2.2.2] at hready
        cases hready
    · exact hkept (hg st hst hready)
  | ask id call =>
    rcases mem_stores_ask hst with hst | ⟨old, hold, rfl, hdb⟩
    · exact hkept (hg st hst hready)
    · -- the store that was asked may have become ready just now
      rw [hdb]
      exact Store.guarded_of_ready_serve (hq old hold) (hg old hold) hready
  | outside act => exact hkept (hg st hst hready)

/-- **The rows that a move adds are those of the records that it reports.** -/
theorem rows_step {s : Session} (hs : s.Orderly) {m : Move} (hm : m.sparesTable = true) :
    (s.step m).2.database.rows =
      s.database.rows ++ (Exchange.mk m s (s.step m).1).added.map Row.ofRecord := by
  cases m with
  | openStore path busyTimeout =>
    simp only [step]
    cases h : Store.attach s.database path busyTimeout with
    -- a file that was not opened has no store that could write to it
    | error f => simp [Exchange.added]
    | ok p => simp [Exchange.added, (Store.attach_ok h).1]
  | ask id call =>
    simp only [step, Exchange.added]
    cases hget : s.stores[id]? with
    | none => simp [Call.added]
    | some st =>
      have hmem := List.mem_of_getElem? hget
      exact Store.rows_serve (hs.quiet st hmem) (hs.guarded st hmem) call
  | outside act => simp [step, Exchange.added, (s.database.afterOutside_spares hm).1]

theorem keys_step {s : Session} (hs : s.Orderly) {m : Move} (hm : m.sparesTable = true) :
    (s.step m).2.database.keys =
      s.database.keys ++ (Exchange.mk m s (s.step m).1).added.map Record.cellKey :=
  Database.keys_append (rows_step hs hm)

theorem Orderly.guarded_step {s : Session} (hs : s.Orderly) {m : Move}
    (hm : m.sparesTable = true) (hg : s.database.Guarded) : (s.step m).2.database.Guarded := by
  cases m with
  | openStore path busyTimeout =>
    simp only [Session.step]
    cases hattach : Store.attach s.database path busyTimeout with
    | error f => exact hg
    | ok p => exact (Store.attach_ok hattach).2.1 hg
  | ask id call =>
    simp only [Session.step]
    cases hget : s.stores[id]? with
    | none => exact hg
    | some asked =>
      exact Store.guarded_serve (hs.quiet asked (List.mem_of_getElem? hget)) hg call
  | outside act => exact (s.database.afterOutside_spares hm).2 hg

/-- Every move keeps a session orderly. -/
theorem Orderly.step {s : Session} (hs : s.Orderly) {m : Move} (hm : m.sparesTable = true) :
    (s.step m).2.Orderly where
  quiet st hst := (quiet_linked_step (fun st h => ⟨hs.quiet st h, hs.linked st h⟩) m st hst).1
  linked st hst := (quiet_linked_step (fun st h => ⟨hs.quiet st h, hs.linked st h⟩) m st hst).2
  guarded _ hst hready := guarded_of_ready_step hs.quiet hs.guarded (hs.guarded_step hm) hst hready
  distinct := by
    rw [keys_step hs hm]
    exact nodup_append_added ⟨m, s, (s.step m).1⟩ hs.distinct

/-- **A move reports as many records as it adds.** -/
theorem reported_step {s : Session} (hs : s.Orderly) (m : Move) :
    (Exchange.mk m s (s.step m).1).reported = (Exchange.mk m s (s.step m).1).added.length := by
  cases m with
  | openStore path busyTimeout =>
    simp only [Session.step, Exchange.reported, Exchange.added]
    cases Store.attach s.database path busyTimeout <;> rfl
  | ask id call =>
    simp only [Session.step, Exchange.reported, Exchange.added]
    cases hget : s.stores[id]? with
    | none => rfl
    | some st =>
      have hmem := List.mem_of_getElem? hget
      dsimp only
      cases ha : (st.serve s.database call).answer with
      | error e => rfl
      | ok reply => exact Store.reported_serve (hs.quiet st hmem) (hs.guarded st hmem) ha
  | outside act => rfl

theorem answer_insert {s : Session} (hs : s.Orderly) {id : Nat} {st : Store} {r : Record}
    (hget : s.stores[id]? = some st) (hready : st.phase = .ready) (hadmits : s.database.Admits r) :
    ∃ added, (s.step (.ask id (.insert r))).1 = .ok (.inserted added) := by
  have hmem := List.mem_of_getElem? hget
  have hquiet := hs.quiet st hmem
  have hguard := hs.guarded st hmem hready
  obtain ⟨p, hp⟩ := hadmits.offer hguard
  obtain ⟨c, hc⟩ := (hs.linked st hmem).ready? hready
  have hanswer : (st.serve s.database (.insert r)).answer = .ok (.inserted p.1) :=
    (Store.serve_of_onTable hquiet hc rfl hguard.shape_eq (by rw [Call.onTable, hp])).1
  exact ⟨p.1, by simp only [Session.step, hget, hanswer]⟩

theorem inserted_iff {s : Session} (hs : s.Orderly) {id : Nat} {r : Record} {added : Bool}
    (h : (s.step (.ask id (.insert r))).1 = .ok (.inserted added)) :
    added = false ↔ r.cellKey ∈ s.database.keys := by
  have hreported := reported_step hs (.ask id (.insert r))
  simp only [Exchange.reported, Exchange.added, h, Call.added, Call.records] at hreported
  by_cases hk : r.cellKey ∈ s.database.keys
  · rw [fresh_cons_of_mem hk] at hreported
    cases added <;> simp_all [Reply.reported]
  · rw [fresh_cons_of_notMem hk] at hreported
    cases added <;> simp_all [Reply.reported]

/-! ### Runs -/

variable {s : Session} {ms : List Move}

theorem Orderly.run (hs : s.Orderly) (hms : ∀ m ∈ ms, m.sparesTable = true) : (s.run ms).Orderly :=
  run_induction (fun m hm _ ho => ho.step (hms m hm)) hs

/-- **The rows after a run** are those before it and, in their order, those of the records that were
reported on the way. -/
theorem rows_run (hs : s.Orderly) (hms : ∀ m ∈ ms, m.sparesTable = true) :
    (s.run ms).database.rows =
      s.database.rows ++ ((s.log ms).flatMap Exchange.added).map Row.ofRecord := by
  induction ms generalizing s with
  | nil => simp
  | cons m ms ih =>
    have hm := hms m List.mem_cons_self
    have hrest : ∀ m ∈ ms, m.sparesTable = true := fun m' h => hms m' (List.mem_cons_of_mem _ h)
    rw [run_cons, log_cons, List.flatMap_cons, List.map_append, ih (hs.step hm) hrest,
      rows_step hs hm, List.append_assoc]

end Session

/-- What a move reports as added was put before the database by it. -/
theorem Exchange.added_sublist (e : Exchange) : e.added.Sublist e.move.records := by
  rw [added]
  cases e.move with
  | ask id call =>
    dsimp only
    cases e.answer with
    | ok reply => exact fresh_sublist e.before.database.keys call.records
    | error err => exact List.nil_sublist _
  | _ => exact List.nil_sublist _

/-- Where the rows of a list are distinct, each has one place in the list that it comes from. -/
theorem existsUnique_getElem?_of_nodup_flatMap {α β : Type} {f : α → List β} {as : List α}
    (h : (as.flatMap f).Nodup) {b : β} (hb : b ∈ as.flatMap f) :
    ∃! n : Nat, ∃ a, as[n]? = some a ∧ b ∈ f a := by
  obtain ⟨a, ha, hba⟩ := List.mem_flatMap.mp hb
  obtain ⟨n, hn⟩ := List.mem_iff_getElem?.mp ha
  refine ⟨n, ⟨a, hn, hba⟩, ?_⟩
  rintro m ⟨a', hm, hba'⟩
  have hdisjoint := (List.nodup_flatMap.mp h).2
  rw [List.pairwise_iff_getElem] at hdisjoint
  obtain ⟨hn', rfl⟩ := List.getElem?_eq_some_iff.mp hn
  obtain ⟨hm', rfl⟩ := List.getElem?_eq_some_iff.mp hm
  -- what two different places of the list yield is disjoint
  rcases Nat.lt_trichotomy n m with hlt | rfl | hlt
  · exact absurd hba' (fun hb' => hdisjoint n m hn' hm' hlt hba hb')
  · rfl
  · exact absurd hba (fun hb' => hdisjoint m n hm' hn' hlt hba' hb')

/-- A log and a table that agree about what was added. -/
structure Accounts (log : List Exchange) (db : Database) : Prop where
  /-- No two rows have the same key. -/
  distinct : db.keys.Nodup
  /-- The rows are those of the records that the answers report, in that order. -/
  rows_eq : db.rows = (log.flatMap Exchange.added).map Row.ofRecord
  /-- What a move reports as added was put before the database by it. -/
  added_sublist : ∀ e ∈ log, e.added.Sublist e.move.records
  /-- An insert that succeeds adds its record unless a row has the key. -/
  inserted_iff : ∀ e ∈ log, ∀ id r added, e.move = .ask id (.insert r) →
    e.answer = .ok (.inserted added) → (added = false ↔ r.cellKey ∈ e.before.database.keys)
  /-- An insert of a ready store succeeds where nothing but the key could keep the record out. -/
  insert_succeeds : ∀ e ∈ log, ∀ id r st, e.move = .ask id (.insert r) →
    e.before.stores[id]? = some st → st.phase = .ready → e.before.database.Admits r →
    ∃ added, e.answer = .ok (.inserted added)
  /-- The numbers in the answers are those of the records that they report. -/
  reported_eq : ∀ e ∈ log, e.reported = e.added.length
  /-- There are as many rows as the answers say were added. -/
  length_eq : db.rows.length = (log.map Exchange.reported).sum
  /-- Every key in the table was reported as added once, in one place of the log. -/
  reporter : ∀ key ∈ db.keys,
    ∃! n : Nat, ∃ e, log[n]? = some e ∧ key ∈ e.added.map Record.cellKey

/-- **The answers of a session account for its rows**, whatever the stores of a file are asked
for, in whatever order, and whichever of them fail, as long as only stores write to the table.
-/
theorem accounts_of_run (ms : List Move) (hms : ∀ m ∈ ms, m.sparesTable = true) :
    Accounts (Session.blank.log ms) (Session.blank.run ms).database := by
  have hblank := Session.orderly_blank
  have hend := hblank.run hms
  have hrows := Session.rows_run hblank hms
  rw [show Session.blank.database.rows = [] from rfl, List.nil_append] at hrows
  have hlog : ∀ e ∈ Session.blank.log ms,
      e.before.Orderly ∧ e.move ∈ ms ∧ e.answer = (e.before.step e.move).1 := fun e he =>
    Session.mem_log (fun m hm s hs => hs.step (hms m hm)) hblank he
  have hreported : ∀ e ∈ Session.blank.log ms, e.reported = e.added.length := by
    intro e he
    obtain ⟨hbefore, -, hanswer⟩ := hlog e he
    obtain ⟨move, before, answer⟩ := e
    obtain rfl : answer = (before.step move).1 := hanswer
    exact Session.reported_step hbefore move
  have hkeys : (Session.blank.run ms).database.keys =
      (Session.blank.log ms).flatMap fun e => e.added.map Record.cellKey := by
    rw [Database.keys, hrows, List.map_map, List.map_flatMap]
    rfl
  refine ⟨hend.distinct, hrows, fun e _ => e.added_sublist, ?_, ?_, hreported, ?_, ?_⟩
  · intro e he id r added hmove hok
    obtain ⟨hbefore, -, hanswer⟩ := hlog e he
    rw [hmove, hok] at hanswer
    exact Session.inserted_iff hbefore hanswer.symm
  · intro e he id r st hmove hget hready hadmits
    obtain ⟨hbefore, -, hanswer⟩ := hlog e he
    rw [hanswer, hmove]
    exact Session.answer_insert hbefore hget hready hadmits
  · rw [hrows, List.length_map, List.length_flatMap]
    exact congrArg List.sum (List.map_congr_left fun e he => (hreported e he).symm)
  · -- the keys are those that the moves report, and as they are distinct each comes from one move
    intro key hkey
    have hdistinct := hend.distinct
    rw [hkeys] at hkey hdistinct
    exact existsUnique_getElem?_of_nodup_flatMap hdistinct hkey

/-- Two stores of one file that are given the same record, and a third that is opened after the
first was closed. -/
def rivalMoves (r : Record) : List Move :=
  [.openStore "u.db" 0, .openStore "u.db" 0, .ask 0 (.ensureSchema .never),
    .ask 1 (.ensureSchema .never), .ask 0 (.insert r), .ask 1 (.insert r), .ask 0 .close,
    .openStore "u.db" 0, .outside .acquire,
    .ask 1 (.persist (Snapshot.ofRecords [r, r]) (.during 1)), .outside .release,
    .ask 2 (.ensureSchema .never), .ask 2 (.persist (Snapshot.ofRecords [r, r]) .never),
    .ask 2 .count]

/-- The answers of two rivals account for the rows. -/
theorem accounts_of_rivals :
    (∀ m ∈ rivalMoves ⟨"key", "model", { timestamp := .epoch }⟩, m.sparesTable = true) ∧
      Accounts (Session.blank.log (rivalMoves ⟨"key", "model", { timestamp := .epoch }⟩))
        (Session.blank.run (rivalMoves ⟨"key", "model", { timestamp := .epoch }⟩)).database := by
  have hspares : ∀ m ∈ rivalMoves ⟨"key", "model", { timestamp := .epoch }⟩,
      m.sparesTable = true := by
    simp [rivalMoves, Move.sparesTable, Outside.sparesTable]
  exact ⟨hspares, accounts_of_run _ hspares⟩

end UsageLedger
