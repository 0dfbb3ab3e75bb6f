import UsageLedger.Database.Foreign
import UsageLedger.Proofs.Table
import UsageLedger.Store.Opening

/-!
# Sessions

Any number of stores share one database file, and other users of the file are at work on it too.
A session says what the file holds and which stores are connected to it; it goes on by moves,
one at a time, each of them an opening, a complete operation of one store, or something that
another user does. What happens is written down in a log, from which it can be told who reported
which record as added.

## Main definitions

* `Call`, `Reply`, `Store.serve` — what a store is asked for, and what it answers.
* `Outside`, `Database.afterOutside` — what other users do to the file.
* `Session`, `Move`, `Session.step` — a session, and one move of it.
* `Session.run`, `Session.log` — the session after a row of moves, and what was answered on the way.
* `Exchange.added` — the records that a move reported as added.

## Main results

* `Database.afterOutside_spares`, `Database.mem_rows_afterOutside` — what other users leave of
  the rows.
* `Session.run_induction`, `Session.mem_log` — what each move keeps, a row of moves keeps.
-/

namespace UsageLedger

/-- What a store is asked for. -/
inductive Call where
  /-- To make sure of the table. -/
  | ensureSchema (i : Interruption)
  /-- To insert a record. -/
  | insert (r : Record)
  /-- To insert the records of a snapshot, or none. -/
  | persist (snapshot : Snapshot) (i : Interruption)
  /-- To read all records. -/
  | load (i : Interruption)
  /-- To count the rows. -/
  | count
  /-- To give its connection up. -/
  | close

namespace Call

/-- The records that a call puts before the database. -/
def records : Call → List Record
  | insert r => [r]
  | persist snapshot _ => snapshot.records
  | _ => []

/-- When the call is called off. -/
def interruption : Call → Interruption
  | ensureSchema i | persist _ i | load i => i
  | _ => .never

/-- The call may put rows into the table. -/
def writes : Call → Bool
  | insert _ | persist .. => true
  | _ => false

theorem records_of_not_writes {call : Call} (h : call.writes = false) : call.records = [] := by
  cases call with
  | insert r => cases h
  | persist snapshot i => cases h
  | _ => rfl

end Call

/-- What a store answers when it does what it is asked for. -/
inductive Reply where
  /-- It is done. -/
  | done
  /-- Whether the record was added. -/
  | inserted (added : Bool)
  /-- How many records were added. -/
  | persisted (tally : Tally)
  /-- What was read. -/
  | loaded (found : Store.Loaded)
  /-- How many rows there are. -/
  | counted (rows : Nat)

namespace Outcome

variable {α β : Type}

/-- The outcome with another answer where there is one. -/
def map (f : α → β) (o : Outcome α) : Outcome β :=
  ⟨o.answer.map f, o.store, o.database⟩

@[simp] theorem map_answer (f : α → β) (o : Outcome α) : (o.map f).answer = o.answer.map f := rfl

@[simp] theorem map_database (f : α → β) (o : Outcome α) : (o.map f).database = o.database := rfl

theorem map_answer_eq_error {f : α → β} {o : Outcome α} {e : Error} :
    (o.map f).answer = .error e ↔ o.answer = .error e := by
  rw [map_answer]
  cases o.answer <;> simp [Except.map]

theorem map_answer_eq_ok {f : α → β} {o : Outcome α} {b : β} :
    (o.map f).answer = .ok b ↔ ∃ a, o.answer = .ok a ∧ f a = b := by
  rw [map_answer]
  cases o.answer <;> simp [Except.map]

end Outcome

/-- The records that a call added according to the answer to it: none if it failed, and else
those that it put before the database whose keys were not in the table and did not come earlier
in the call. -/
def Call.added (call : Call) (db : Database) : Except Error Reply → List Record
  | .ok _ => fresh Record.cellKey db.keys call.records
  | .error _ => []

/-- The number of records that an answer reports as added. -/
def Reply.reported : Reply → Nat
  | .inserted true => 1
  | .persisted tally => tally.added
  | _ => 0

/-- A store does what it is asked for. -/
def Store.serve (s : Store) (db : Database) : Call → Outcome Reply
  | .ensureSchema i => (s.ensureSchema db i).map fun _ => .done
  | .insert r => (s.insert db r).map .inserted
  | .persist snapshot i => (s.persist db snapshot i).map .persisted
  | .load i => (s.load db i).map .loaded
  | .count => (s.count db).map .counted
  | .close => ⟨.ok .done, s.close, db⟩

/-- What another user of the file does. -/
inductive Outside where
  /-- It takes the right to write. -/
  | acquire
  /-- It gives the right to write back. -/
  | release
  /-- It has rows of a model refused. -/
  | rejectModel (model : String)
  /-- It has rows of all models let in. -/
  | acceptModels
  /-- It notes a version. -/
  | setVersion (version : Int)
  /-- It puts a row in. -/
  | insertRow (values : List (String × Option Cell))
  /-- It removes the indexes. -/
  | dropIndexes
  /-- It removes the table. -/
  | dropTable
  /-- It makes something of the table's name. -/
  | create (relation : Relation)

namespace Outside

/-- What another user does, done to a database or refused. -/
def act (db : Database) : Outside → Except Fault Database
  | acquire => db.acquire
  | release => .ok db.release
  | rejectModel model => db.rejectModel model
  | acceptModels => db.acceptModels
  | setVersion version => db.setVersion version
  | insertRow values => db.insertRow values
  | dropIndexes => db.dropIndexes
  | dropTable => db.dropTable
  | create relation => db.create relation

/-- The rows and the layout of the table stay as they are. -/
def sparesTable : Outside → Bool
  | acquire | release | rejectModel _ | acceptModels | setVersion _ => true
  | _ => false

end Outside

/-- A database after what another user does, which is without effect where it is refused. -/
def Database.afterOutside (db : Database) (a : Outside) : Database :=
  match a.act db with
  | .ok db => db
  | .error _ => db

namespace Outside

/-- **What another user who spares the table does**: something beside the table, which may note a
version, or a change of the table but for its rows and its indexes. -/
theorem act_of_spares {a : Outside} (ha : a.sparesTable = true) {db db' : Database}
    (h : a.act db = .ok db') :
    db'.relation = db.relation ∧ (db'.version = db.version ∨ a = .setVersion db'.version) ∨
    ∃ l l', db.relation = .ledger l ∧ db' = { db with relation := .ledger l' } ∧
      l'.rows = l.rows ∧ l'.unique = l.unique ∧ l'.lookup = l.lookup := by
  cases a with
  | acquire =>
    rw [act, Database.acquire, Database.checkWritable_bind_eq_ok] at h
    cases h.2
    exact .inl ⟨rfl, .inl rfl⟩
  | release =>
    cases h
    exact .inl ⟨rfl, .inl rfl⟩
  -- which model is refused is noted beside the rows and the indexes
  | rejectModel model =>
    rw [act, Database.rejectModel] at h
    cases hr : db.relation with
    | ledger l =>
      rw [hr] at h
      dsimp only at h
      split at h
      · cases h
        exact .inl ⟨hr, .inl rfl⟩
      · rw [Database.checkWritable_bind_eq_ok] at h
        cases h.2
        exact .inr ⟨l, _, rfl, rfl, rfl, rfl, rfl⟩
    | _ => simp [hr] at h
  | acceptModels =>
    rw [act, Database.acceptModels] at h
    cases hr : db.relation with
    | ledger l =>
      rw [hr] at h
      dsimp only at h
      split at h
      · rw [Database.checkWritable_bind_eq_ok] at h
        cases h.2
        exact .inr ⟨l, _, rfl, rfl, rfl, rfl, rfl⟩
      · cases h
        exact .inl ⟨hr, .inl rfl⟩
    | _ =>
      rw [hr] at h
      cases h
      exact .inl ⟨hr, .inl rfl⟩
  | setVersion version =>
    rw [act, Database.setVersion, Database.checkWritable_bind_eq_ok] at h
    cases h.2
    exact .inl ⟨rfl, .inr rfl⟩
  | _ => cases ha

/-- Another user who spares the table touches neither its rows nor its unique index. -/
theorem act_spares {a : Outside} (ha : a.sparesTable = true) {db db' : Database}
    (h : a.act db = .ok db') : db'.rows = db.rows ∧ (db.Guarded → db'.Guarded) := by
  rcases act_of_spares ha h with ⟨hr, -⟩ | ⟨l, l', hl, rfl, hrows, hunique, -⟩
  · simp [Database.rows, Database.Guarded, hr]
  · exact Database.kept_of_table hl l' hrows hunique

/-- No row is put into the file. -/
def addsNoRow : Outside → Bool
  | insertRow _ | create _ => false
  | _ => true

end Outside

namespace Database

theorem afterOutside_spares {a : Outside} (ha : a.sparesTable = true) (db : Database) :
    (db.afterOutside a).rows = db.rows ∧ (db.Guarded → (db.afterOutside a).Guarded) := by
  rw [afterOutside]
  cases h : a.act db with
  | error f => exact ⟨rfl, id⟩
  | ok db' => exact Outside.act_spares ha h

/-- Removing the indexes touches no row. -/
theorem rows_dropIndexes {db db' : Database} (h : db.dropIndexes = .ok db') :
    db'.rows = db.rows := by
  rw [dropIndexes] at h
  cases hr : db.relation with
  | ledger l =>
    rw [hr] at h
    dsimp only at h
    split at h
    · simp only [checkWritable_bind_eq_ok, pure, Except.pure, Except.ok.injEq] at h
      rw [← h.2]
      simp [rows, hr]
    · cases h
      rfl
  | _ =>
    simp only [hr, pure, Except.pure, Except.ok.injEq] at h
    rw [h]

theorem rows_dropTable {db db' : Database} (h : db.dropTable = .ok db') :
    db'.rows = [] ∨ db' = db := by
  rw [dropTable] at h
  cases hr : db.relation with
  | absent =>
    simp only [hr, pure, Except.pure, Except.ok.injEq] at h
    exact .inr h.symm
  | view => simp [hr] at h
  | _ =>
    simp only [hr, checkWritable_bind_eq_ok, pure, Except.pure, Except.ok.injEq] at h
    rw [← h.2]
    exact .inl rfl

/-- Whatever is done to the file without putting a row in, the rows after it were there before. -/
theorem mem_rows_afterOutside {a : Outside} (ha : a.addsNoRow = true) {db : Database} {row : Row}
    (h : row ∈ (db.afterOutside a).rows) : row ∈ db.rows := by
  cases hs : a.sparesTable with
  | true => exact (db.afterOutside_spares hs).1 ▸ h
  | false =>
    rw [afterOutside] at h
    cases hact : a.act db with
    | error f =>
      rw [hact] at h
      exact h
    | ok db' =>
      rw [hact] at h
      cases a with
      | dropIndexes => exact rows_dropIndexes hact ▸ h
      | dropTable =>
        -- without the table there are no rows, and without a table nothing was dropped
        rcases rows_dropTable hact with hnone | rfl
        · simp [hnone] at h
        · exact h
      | insertRow values => cases ha
      | create relation => cases ha
      | _ => cases hs

end Database

/-- A database file, and the stores that were connected to it, in the order in which they were
opened. -/
structure Session where
  /-- What the file holds. -/
  database : Database
  /-- The stores. -/
  stores : List Store := []

/-- What happens in a session. -/
inductive Move where
  /-- A further store is opened on the file. -/
  | openStore (path : String) (busyTimeout : Nat)
  /-- The store with a number is asked for something. -/
  | ask (id : Nat) (call : Call)
  /-- Another user does something to the file. -/
  | outside (act : Outside)

namespace Move

/-- The records that a move puts before the database on behalf of a store. -/
def records : Move → List Record
  | ask _ call => call.records
  | _ => []

/-- The table is only written to by stores. -/
def sparesTable : Move → Bool
  | outside act => act.sparesTable
  | _ => true

end Move

namespace Session

/-- A file that was never written to, and no stores. -/
def blank : Session :=
  { database := .blank }

/-- A session after one move, and the answer to whoever made it. -/
def step (s : Session) : Move → Except Error Reply × Session
  | .openStore path busyTimeout =>
    match Store.attach s.database path busyTimeout with
    | .ok (store, db) => (.ok .done, ⟨db, s.stores ++ [store]⟩)
    | .error f => (.error (.store (.unconfigured path f)), s)
  | .ask id call =>
    match s.stores[id]? with
    | none => (.error .notInitialized, s)
    | some store =>
      let o := store.serve s.database call
      (o.answer, ⟨o.database, s.stores.set id o.store⟩)
  | .outside act => (.ok .done, { s with database := s.database.afterOutside act })

/-- The session after a row of moves. -/
def run : Session → List Move → Session
  | s, [] => s
  | s, m :: ms => run (s.step m).2 ms

end Session

/-- A move that was made, and what was answered to it. -/
structure Exchange where
  /-- The move. -/
  move : Move
  /-- The session that it was made in. -/
  before : Session
  /-- The answer. -/
  answer : Except Error Reply

/-- What was answered to the moves of a row, one after the other. -/
def Session.log : Session → List Move → List Exchange
  | _, [] => []
  | s, m :: ms => ⟨m, s, (s.step m).1⟩ :: log (s.step m).2 ms

namespace Exchange

/-- The number of records that a move reported as added. -/
def reported (e : Exchange) : Nat :=
  match e.answer with
  | .ok reply => reply.reported
  | .error _ => 0

/-- The records that a move reported as added. -/
def added (e : Exchange) : List Record :=
  match e.move with
  | .ask _ call => call.added e.before.database e.answer
  | _ => []

end Exchange

namespace Session

@[simp] theorem run_nil (s : Session) : s.run [] = s := rfl

@[simp] theorem run_cons (s : Session) (m : Move) (ms : List Move) :
    s.run (m :: ms) = (s.step m).2.run ms := rfl

@[simp] theorem log_nil (s : Session) : s.log [] = [] := rfl

@[simp] theorem log_cons (s : Session) (m : Move) (ms : List Move) :
    s.log (m :: ms) = ⟨m, s, (s.step m).1⟩ :: (s.step m).2.log ms := rfl

variable {P : Session → Prop} {ms : List Move}

/-- What each move of a row keeps, the row keeps. -/
theorem run_induction (hstep : ∀ m ∈ ms, ∀ s, P s → P (s.step m).2) {s : Session} (hs : P s) :
    P (s.run ms) := by
  induction ms generalizing s with
  | nil => exact hs
  | cons m ms ih =>
    exact ih (fun m' hm' => hstep m' (List.mem_cons_of_mem _ hm')) (hstep m List.mem_cons_self s hs)

/-- What each move of a row keeps holds before every move of it, and the log has what the moves were
answered. -/
theorem mem_log (hstep : ∀ m ∈ ms, ∀ s, P s → P (s.step m).2) {s : Session} (hs : P s)
    {e : Exchange} (he : e ∈ s.log ms) :
    P e.before ∧ e.move ∈ ms ∧ e.answer = (e.before.step e.move).1 := by
  induction ms generalizing s with
  | nil => simp at he
  | cons m ms ih =>
    rw [log_cons, List.mem_cons] at he
    rcases he with rfl | he
    · exact ⟨hs, List.mem_cons_self, rfl⟩
    · obtain ⟨hP, hmem, hans⟩ :=
        ih (fun m' hm' => hstep m' (List.mem_cons_of_mem _ hm'))
          (hstep m List.mem_cons_self s hs) he
      exact ⟨hP, List.mem_cons_of_mem _ hmem, hans⟩

/-- A store of the session after a request is the one that was asked, as it is now, or was there. -/
theorem mem_stores_ask {s : Session} {id : Nat} {call : Call} {store : Store}
    (h : store ∈ (s.step (.ask id call)).2.stores) :
    store ∈ s.stores ∨
      ∃ st ∈ s.stores, store = (st.serve s.database call).store ∧
        (s.step (.ask id call)).2.database = (st.serve s.database call).database := by
  simp only [step] at h ⊢
  cases hget : s.stores[id]? with
  | none =>
    rw [hget] at h
    exact .inl h
  | some st =>
    rw [hget] at h
    rcases List.mem_or_eq_of_mem_set h with h | rfl
    · exact .inl h
    · exact .inr ⟨st, List.mem_of_getElem? hget, rfl, rfl⟩

end Session

end UsageLedger
