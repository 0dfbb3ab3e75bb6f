import UsageLedger.Error
import UsageLedger.Snapshot.Merge

/-!
# The store

A store is a user of a database with a connection to it.  It is opened, makes sure of the table,
and then reads and writes until it is closed.  Operations take the store and the database it is
connected to, and give an answer with both as they are afterwards; an operation that fails
leaves the rows alone.

A connection remembers what it saw of the layout, because a statement is first checked against
that: a statement that fits what was seen and not what is there fails when it runs, and one that
does not fit what was seen fails while it is prepared.

An operation that can be called off puts its interruption on the connection while it works, and
every statement that runs on the connection heeds what it finds there; when the operation is
over, however it ended, the connection heeds nothing again.

## Main definitions

* `Phase`, `Connection`, `Store`: how far a store has come, and what it holds.
* `Interruption`: when an operation is called off.
* `Outcome`: an answer with store and database.
* `Store.heeding`: work on a connection that heeds an interruption while it lasts.
* `Store.ensureSchema`, `Store.insert`, `Store.persist`, `Store.load`, `Store.count`, `Store.close`:
  the operations.
-/

namespace UsageLedger

/-- How far a store has come. -/
inductive Phase where
  /-- It never had a connection. -/
  | uninitialized
  /-- It has a connection and did not yet make sure of the table. -/
  | opened
  /-- It reads and writes. -/
  | ready
  /-- It gave its connection up. -/
  | closed
  deriving DecidableEq

/-- When an operation is called off. -/
inductive Interruption where
  /-- Never. -/
  | never
  /-- Before it starts. -/
  | before
  /-- When it has done a number of its steps and is not at its end. -/
  | during (steps : Nat)
  deriving DecidableEq

namespace Interruption

/-- The operation is called off before it starts. -/
def atStart : Interruption → Bool
  | before => true
  | _ => false

/-- The operation is called off in front of the step with a number. -/
def stops (i : Interruption) (step : Nat) : Bool :=
  match i with
  | never => false
  | before => true
  | during steps => steps ≤ step

end Interruption

/-- A connection to a database. -/
structure Connection where
  /-- How long it waits while somebody else is writing, in milliseconds. -/
  busyTimeout : Nat
  /-- What stood under the name of the table when it looked last. -/
  seen : Shape
  /-- The statement that inserts is prepared. -/
  insertPrepared : Bool := false
  /-- What every statement that runs on it heeds. -/
  heeds : Interruption := .never
  deriving DecidableEq

/-- A store. -/
structure Store where
  /-- The path of its database, if that is in a file. -/
  path : Option String := none
  /-- How far it has come. -/
  phase : Phase := .uninitialized
  /-- Its connection. -/
  connection : Option Connection := none
  deriving DecidableEq

/-- An answer, and the store and the database as they are afterwards. -/
structure Outcome (α : Type) where
  /-- The answer. -/
  answer : Except Error α
  /-- The store. -/
  store : Store
  /-- The database. -/
  database : Database

namespace Connection

/-- A statement is prepared: it has to fit what was seen, or else what is there now. -/
def prepare (c : Connection) (now : Shape) (check : Shape → Except Fault Unit) :
    Except Fault Unit × Connection :=
  match check c.seen with
  | .ok () => (.ok (), c)
  | .error _ => (check now, { c with seen := now })

/-- The statement that inserts is prepared, once for all. -/
def prepareInsert (c : Connection) (now : Shape) : Except Fault Unit × Connection :=
  if c.insertPrepared then (.ok (), c)
  else
    match c.prepare now Shape.checkInsert with
    | (.ok (), c) => (.ok (), { c with insertPrepared := true })
    | (.error f, c) => (.error f, c)

/-- The connection after a statement ran. -/
def look (c : Connection) (now : Shape) : Connection :=
  { c with seen := now }

end Connection

namespace Store

/-- The store with its connection in a new state. -/
def withConnection (s : Store) (c : Connection) : Store :=
  { s with connection := some c }

/-- The connection of a store that reads and writes. -/
def ready? (s : Store) : Option Connection :=
  if s.phase = .ready then s.connection else none

/-- The store with a connection that heeds nothing. -/
def unheeding (s : Store) : Store :=
  { s with connection := s.connection.map fun c => { c with heeds := .never } }

/-- Work on the store's connection, which heeds an interruption as long as the work lasts; the
work is not begun when it is called off before. -/
def heeding {α : Type} (s : Store) (db : Database) (c : Connection) (i : Interruption)
    (work : Connection → Outcome α) : Outcome α :=
  if i.atStart then ⟨.error .cancelled, s, db⟩
  else
    let o := work { c with heeds := i }
    { o with store := o.store.unheeding }

/-! ### Making sure of the table -/

/-- Statements done one after the other, from the step with a number on, until one is refused or the
work is called off; what was done before that stays. -/
def migrate (i : Interruption) : Nat → List Database.Migration → Database →
    Except Error Unit × Database
  | _, [], db => (.ok (), db)
  | step, m :: ms, db =>
    if i.stops step then (.error .cancelled, db)
    else
      match db.apply m with
      | .ok db => migrate i (step + 1) ms db
      | .error f => (.error (.schema f), db)

/-- Table and indexes are made where they are missing; a store that is ready has nothing to do. -/
def ensureSchema (s : Store) (db : Database) (i : Interruption) : Outcome Unit :=
  if s.phase = .ready then ⟨.ok (), s, db⟩
  else
    match s.phase, s.connection with
    | .opened, some c =>
      s.heeding db c i fun c =>
        match migrate c.heeds 0 Database.migrations db with
        | (.ok (), db) => ⟨.ok (), { s.withConnection (c.look db.shape) with phase := .ready }, db⟩
        | (.error e, db) => ⟨.error e, s.withConnection (c.look db.shape), db⟩
    | _, _ => ⟨.error .notInitialized, s, db⟩

/-! ### Writing -/

/-- One record is inserted, unless its key is known; the answer tells whether it was. -/
def insert (s : Store) (db : Database) (r : Record) : Outcome Bool :=
  match s.ready? with
  | none => ⟨.error .notInitialized, s, db⟩
  | some c =>
    match c.prepareInsert db.shape with
    | (.error f, c) => ⟨.error (.write .prepare f), s.withConnection c, db⟩
    | (.ok (), c) =>
      if c.heeds.stops 0 then ⟨.error .cancelled, s.withConnection c, db⟩
      else
        match db.offer (Row.ofRecord r) with
        | .error f => ⟨.error (.write .insert f), s.withConnection (c.look db.shape), db⟩
        | .ok (added, db) => ⟨.ok added, s.withConnection (c.look db.shape), db⟩

/-- Records inserted one after the other into a copy of the database, from the step with a
number on, until one is refused or the work is called off. -/
def insertAll (i : Interruption) : Nat → List Record → Tally → Database →
    Except Error (Tally × Database)
  | _, [], tally, db => .ok (tally, db)
  | step, r :: rs, tally, db =>
    if i.stops step then .error .cancelled
    else
      match db.offer (Row.ofRecord r) with
      | .error f => .error (.write .insert f)
      | .ok (added, db) => insertAll i (step + 1) rs (tally.note added) db

/-- All records of a snapshot are inserted, or none: the database changes only when the last one is
in. -/
def persist (s : Store) (db : Database) (snapshot : Snapshot) (i : Interruption) : Outcome Tally :=
  match s.ready? with
  | none => ⟨.error .notInitialized, s, db⟩
  | some c =>
    s.heeding db c i fun c =>
      match c.prepareInsert db.shape with
      | (.error f, c) => ⟨.error (.write .prepare f), s.withConnection c, db⟩
      | (.ok (), c) =>
        let c := if snapshot.records.isEmpty then c else c.look db.shape
        match insertAll c.heeds 0 snapshot.records {} db with
        | .error e => ⟨.error e, s.withConnection c, db⟩
        | .ok (tally, db) => ⟨.ok tally, s.withConnection c, db⟩

/-! ### Reading -/

/-- What a load finds: the records of the rows that can be read, and how many rows were passed over
because of their timestamp. -/
structure Loaded where
  /-- The records, in buckets ordered by instant. -/
  snapshot : Snapshot
  /-- The number of rows passed over. -/
  skipped : Nat

/-- The records of rows, read one after the other from the step with a number on, and the number of
rows whose timestamp cannot be read. -/
def scanAll (i : Interruption) : Nat → List Row → Except Error (List Record × Nat)
  | _, [] => .ok ([], 0)
  | step, r :: rs =>
    if i.stops step then .error .cancelled
    else
      match r.scan with
      | .error f => .error (.read .scan (.scan f))
      | .ok found =>
        match scanAll i (step + 1) rs with
        | .error e => .error e
        | .ok (records, skipped) =>
          match found with
          | some record => .ok (record :: records, skipped)
          | none => .ok (records, skipped + 1)

/-- The rows of the table, read in the order of their timestamps. -/
def readRows (i : Interruption) (db : Database) : Except Error Loaded :=
  match db.relation with
  | .ledger l =>
    match scanAll i 0 l.byTimestamp with
    | .ok (records, skipped) => .ok ⟨(Snapshot.ofRecords records).sortBuckets, skipped⟩
    | .error e => .error e
  | r =>
    match r.shape.checkLoad with
    | .ok () => .ok ⟨.empty, 0⟩
    | .error f => .error (.read .iterate f)

/-- All records are read. -/
def load (s : Store) (db : Database) (i : Interruption) : Outcome Loaded :=
  match s.ready? with
  | none => ⟨.error .notInitialized, s, db⟩
  | some c =>
    s.heeding db c i fun c =>
      match c.prepare db.shape Shape.checkLoad with
      | (.error f, c) => ⟨.error (.read .prepare f), s.withConnection c, db⟩
      | (.ok (), c) => ⟨readRows c.heeds db, s.withConnection (c.look db.shape), db⟩

/-- The rows are counted. -/
def count (s : Store) (db : Database) : Outcome Nat :=
  match s.ready? with
  | none => ⟨.error .notInitialized, s, db⟩
  | some c =>
    let s := s.withConnection (c.look db.shape)
    match db.shape.checkCount with
    | .error f => ⟨.error (.read .count f), s, db⟩
    | .ok () =>
      if c.heeds.stops 0 then ⟨.error .cancelled, s, db⟩ else ⟨.ok db.rowCount, s, db⟩

/-! ### Closing -/

/-- The connection is given up; a store without one stays as it is. -/
def close (s : Store) : Store :=
  match s.connection with
  | some _ => { s with phase := .closed, connection := none }
  | none => s

end Store

end UsageLedger
