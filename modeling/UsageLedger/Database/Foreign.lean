import UsageLedger.Database.Basic

/-!
# Other tools at work on the database

Other tools open the same file and put rows in, change the layout, or hold the right to write.  What
they do takes effect at once or is refused.

## Main definitions

* `Database.insertRow`: a row put in with values for some of its columns.
* `Database.rejectModel`, `Database.dropTable` and others: changes of the layout.
* `Database.acquire`, `Database.release`: the right to write, taken and given back.
* `Database.indexes`, `Database.columns`: the layout as other tools see it.
-/

namespace UsageLedger.Database

/-- The values of a new row, by column: those that are named, and what stands in for the others.  A
value without content is refused, as is a name that no column has. -/
def foreignRow (values : List (String × Option Cell)) : Except Fault Row :=
  match values.find? fun (name, _) => Column.all.all fun c => c.name != name with
  | some (name, _) => .error (.noTargetColumn name)
  | none =>
    let value? := fun c : Column =>
      match values.lookup c.name with
      | some v => v
      | none => c.missing?
    match Row.build? value? with
    | some r => .ok r
    | none => .error .missingValue

/-- A row put in with values for some of its columns; a known key is refused where keys are
unique. -/
def insertRow (db : Database) (values : List (String × Option Cell)) : Except Fault Database := do
  match db.relation with
  | .ledger l =>
    let r ← foreignRow values
    db.checkWritable
    if l.rejects r then .error .rejected
    else if l.unique && l.hasKey r.dedupKey then .error .duplicateKey
    else return { db with relation := .ledger { l with rows := l.rows ++ [r] } }
  | .absent => .error .noTable
  | .view => .error .viewTarget
  | .narrow apiKeys =>
    db.checkWritable
    match values.find? fun (name, _) => name != Column.name .apiKey with
    | some (name, _) => .error (.noTargetColumn name)
    | none =>
      let apiKey := (values.lookup (Column.name .apiKey)).join.map (Column.affinity .apiKey).adapt
      return { db with relation := .narrow (apiKeys ++ [apiKey]) }

/-- The table does not let in rows of a model any more; where one is refused already, that stays. -/
def rejectModel (db : Database) (model : String) : Except Fault Database := do
  match db.relation with
  | .ledger l =>
    match l.rejected with
    | some _ => return db
    | none =>
      db.checkWritable
      return { db with relation := .ledger { l with rejected := some model } }
  | _ => .error .noTable

/-- The table lets in rows of every model. -/
def acceptModels (db : Database) : Except Fault Database := do
  match db.relation with
  | .ledger l =>
    match l.rejected with
    | some _ =>
      db.checkWritable
      return { db with relation := .ledger { l with rejected := none } }
    | none => return db
  | _ => return db

/-- The database with a version noted. -/
def setVersion (db : Database) (version : Int) : Except Fault Database := do
  db.checkWritable
  return { db with version }

/-- The database without the table. -/
def dropTable (db : Database) : Except Fault Database := do
  match db.relation with
  | .absent => return db
  | .view => .error .viewTarget
  | _ =>
    db.checkWritable
    return { db with relation := .absent }

/-- The table without its indexes. -/
def dropIndexes (db : Database) : Except Fault Database := do
  match db.relation with
  | .ledger l =>
    if l.unique || l.lookup then
      db.checkWritable
      return { db with relation := .ledger { l with unique := false, lookup := false } }
    else return db
  | _ => return db

/-- The database with something of the table's name, unless there is such a thing already. -/
def create (db : Database) (relation : Relation) : Except Fault Database := do
  match db.relation with
  | .absent =>
    db.checkWritable
    return { db with relation }
  | _ => .error .duplicateKey

/-- The right to write, taken. -/
def acquire (db : Database) : Except Fault Database := do
  db.checkWritable
  return { db with locked := true }

/-- The right to write, given back. -/
def release (db : Database) : Database :=
  { db with locked := false }

/-! ### The layout as other tools see it -/

/-- The indexes by name, and whether each is unique. -/
def indexes (db : Database) : List (String × Bool) :=
  match db.relation with
  | .ledger l =>
    (if l.unique then [("idx_usage_records_dedup", true)] else [])
      ++ (if l.lookup then [("idx_usage_records_lookup", false)] else [])
  | _ => []

/-- The columns in order, and whether a value must be there. -/
def columns (db : Database) : List (String × Bool) :=
  match db.relation with
  | .ledger _ =>
    ("id", false) :: Column.all.map (fun c => (c.name, true)) ++ [("created_at", true)]
  | .narrow _ | .view => [(Column.name .apiKey, false)]
  | .absent => []

/-- There is a table of the name. -/
def hasTable (db : Database) : Bool :=
  match db.relation with
  | .ledger _ | .narrow _ => true
  | _ => false

/-- How writers proceed, as it is called. -/
def journalMode (db : Database) : String :=
  if db.writeAhead then "wal" else "delete"

end UsageLedger.Database
