import UsageLedger.Database.Row

/-!
# The usage database

A database file holds the usage table, or nothing, or something of the same name that another
tool put there.  The table has a unique index over the keys of its records, which lets a row in
only if its key is new, and an index for searching.  One of its users at a time may write.

## Main definitions

* `Ledger`: the usage table with its rows and indexes.
* `Shape`, `Relation`, `Database`: what a file holds under the name of the table.
* `Fault`: why the database refuses a statement.
* `Ledger.offer`: a row put in unless its key is known.
* `Database.migrate`: the statements that make table and indexes where they are missing.
-/

namespace UsageLedger

/-- The name of the usage table. -/
def tableName : String := "usage_records"

/-- The usage table. -/
structure Ledger where
  /-- The rows in the order of their numbers; a row that is put in is numbered last. -/
  rows : List Row := []
  /-- Keys have a unique index. -/
  unique : Bool := false
  /-- API key, model and timestamp have an index. -/
  lookup : Bool := false
  /-- A model of which no row is let in. -/
  rejected : Option String := none
  deriving DecidableEq

/-- What stands in a file under the name of the usage table, rows apart. -/
inductive Shape where
  /-- Nothing. -/
  | absent
  /-- The usage table. -/
  | ledger
  /-- A table with the column of API keys only. -/
  | narrow
  /-- A view with the column of API keys only. -/
  | view
  deriving DecidableEq

/-- What stands in a file under the name of the usage table. -/
inductive Relation where
  /-- Nothing. -/
  | absent
  /-- The usage table. -/
  | ledger (table : Ledger)
  /-- A table with the column of API keys only, and what its rows hold there, if anything. -/
  | narrow (apiKeys : List (Option Cell))
  /-- A view with the column of API keys only. -/
  | view
  deriving DecidableEq

/-- Why the database refuses a statement. -/
inductive Fault where
  /-- There is no such table. -/
  | noTable
  /-- A column that is read is missing. -/
  | noColumn (name : String)
  /-- A column that is written is missing. -/
  | noTargetColumn (name : String)
  /-- A view cannot be written to. -/
  | viewTarget
  /-- A view cannot have an index. -/
  | viewIndex
  /-- Somebody else is writing. -/
  | locked
  /-- Rows of the model are not let in. -/
  | rejected
  /-- A value that must be there is missing. -/
  | missingValue
  /-- Two rows have the same key. -/
  | duplicateKey
  /-- A cell holds what its column is not read with. -/
  | scan (fault : ScanFault)
  /-- The file is no database. -/
  | notADatabase
  deriving DecidableEq

/-- What a cell holds, as it is called in messages. -/
def Cell.kind : Cell → String
  | .integer _ => "Integer"
  | .real _ => "Real"
  | .text _ | .garbled .. => "Text"
  | .blob _ => "Blob"

/-- The wording of a fault: a text that is read as one is of the right kind, and fails for its
bytes. -/
def ScanFault.message (f : ScanFault) : String :=
  match f.column.affinity, f.found with
  | .texts, .garbled bytes _ =>
    "Conversion error from type Text at index: " ++ Text.ofNat f.column.index ++ ", "
      ++ (Text.utf8Fault bytes).message
  | _, found =>
    "Invalid column type " ++ found.kind ++ " at index: " ++ Text.ofNat f.column.index ++ ", name: "
      ++ f.column.name

/-- The wording of a fault. -/
def Fault.message : Fault → String
  | .noTable => "no such table: " ++ tableName
  | .noColumn name => "no such column: " ++ name
  | .noTargetColumn name => "table " ++ tableName ++ " has no column named " ++ name
  | .viewTarget => "cannot modify " ++ tableName ++ " because it is a view"
  | .viewIndex => "views may not be indexed"
  | .locked => "database is locked"
  | .rejected => "rejected"
  | .missingValue => "NOT NULL constraint failed"
  | .duplicateKey => "UNIQUE constraint failed: " ++ tableName ++ ".dedup_key"
  | .scan fault => fault.message
  | .notADatabase => "file is not a database"

namespace Ledger

/-- A row with this key is there. -/
def hasKey (l : Ledger) (key : Cell) : Bool :=
  l.rows.any fun r => r.dedupKey == key

/-- No two rows have the same key. -/
def keysDistinct (l : Ledger) : Bool :=
  decide (l.rows.map (·.dedupKey)).Nodup

/-- The table does not let in rows of this row's model. -/
def rejects (l : Ledger) (r : Row) : Bool :=
  match l.rejected with
  | some model => r.model == .text model
  | none => false

/-- A row put in at the end, unless the unique index knows its key, in which case nothing
happens; the answer tells whether it was put in. -/
def offer (l : Ledger) (r : Row) : Except Fault (Bool × Ledger) :=
  if l.rejects r then .error .rejected
  else if l.unique && l.hasKey r.dedupKey then .ok (false, l)
  else .ok (true, { l with rows := l.rows ++ [r] })

/-- The rows in the order of their timestamp column, those with the same in the order of their
numbers. -/
def byTimestamp (l : Ledger) : List Row :=
  l.rows.mergeSort Row.stampLE

end Ledger

/-- What stands there, rows apart. -/
def Relation.shape : Relation → Shape
  | .absent => .absent
  | .ledger _ => .ledger
  | .narrow _ => .narrow
  | .view => .view

namespace Shape

/-- Whether rows can be loaded from it. -/
def checkLoad : Shape → Except Fault Unit
  | absent => .error .noTable
  | ledger => .ok ()
  | narrow | view => .error (.noColumn "model")

/-- Whether rows can be put into it. -/
def checkInsert : Shape → Except Fault Unit
  | absent => .error .noTable
  | ledger => .ok ()
  | narrow => .error (.noTargetColumn "model")
  | view => .error .viewTarget

/-- Whether its rows can be counted. -/
def checkCount : Shape → Except Fault Unit
  | absent => .error .noTable
  | _ => .ok ()

end Shape

/-- A database file. -/
structure Database where
  /-- The version of its layout, as its users note it. -/
  version : Int := 0
  /-- What stands under the name of the usage table. -/
  relation : Relation := .absent
  /-- Writers append to a log beside the file. -/
  writeAhead : Bool := false
  /-- Somebody else is writing. -/
  locked : Bool := false
  deriving DecidableEq

namespace Database

/-- The database of a file that was never written to. -/
def blank : Database :=
  {}

instance : Inhabited Database := ⟨blank⟩

/-- What stands under the name of the usage table, rows apart. -/
def shape (db : Database) : Shape :=
  db.relation.shape

/-- The rows of the usage table. -/
def rows (db : Database) : List Row :=
  match db.relation with
  | .ledger l => l.rows
  | _ => []

/-- The number of rows in the table of the name, whichever it is. -/
def rowCount (db : Database) : Nat :=
  match db.relation with
  | .narrow apiKeys => apiKeys.length
  | _ => db.rows.length

/-- The keys of the rows, in their order. -/
def keys (db : Database) : List Cell :=
  db.rows.map (·.dedupKey)

/-- Nothing is written while somebody else is writing. -/
def checkWritable (db : Database) : Except Fault Unit :=
  if db.locked then .error .locked else .ok ()

/-- A row put into the usage table unless its key is known. -/
def offer (db : Database) (r : Row) : Except Fault (Bool × Database) := do
  db.checkWritable
  db.shape.checkInsert
  match db.relation with
  | .ledger l =>
    let (added, l) ← l.offer r
    return (added, { db with relation := .ledger l })
  | _ => return (false, db)

/-! ### Making the table -/

/-- The version that a database gets with its table. -/
def currentVersion : Int := 1

/-- A statement that makes a part of the layout where it is missing. -/
inductive Migration where
  /-- The table. -/
  | table
  /-- The unique index over keys. -/
  | uniqueIndex
  /-- The index over API key, model and timestamp. -/
  | lookupIndex
  /-- The version, where it was less than the current one. -/
  | version
  deriving DecidableEq

/-- The statements in their order. -/
def migrations : List Migration :=
  [.table, .uniqueIndex, .lookupIndex, .version]

/-- The database with one statement done; nothing is written where the part is there already. -/
def apply (db : Database) : Migration → Except Fault Database
  | .table =>
    match db.relation with
    | .absent => do
      db.checkWritable
      return { db with relation := .ledger {} }
    | _ => return db
  | .uniqueIndex =>
    match db.relation with
    | .absent => .error .noTable
    | .narrow _ => .error (.noColumn "dedup_key")
    | .view => .error .viewIndex
    | .ledger l =>
      if l.unique then return db
      else do
        db.checkWritable
        if l.keysDistinct then return { db with relation := .ledger { l with unique := true } }
        else .error .duplicateKey
  | .lookupIndex =>
    match db.relation with
    | .absent => .error .noTable
    | .narrow _ => .error (.noColumn "model")
    | .view => .error .viewIndex
    | .ledger l =>
      if l.lookup then return db
      else do
        db.checkWritable
        return { db with relation := .ledger { l with lookup := true } }
  | .version =>
    if db.version < currentVersion then do
      db.checkWritable
      return { db with version := currentVersion }
    else return db

end Database

end UsageLedger
