import UsageLedger.Store.Basic

/-!
# Opening a store

A store is opened at a path: the tilde is expanded, missing directories are made for the owner
only, a missing file is made, and the connection is told how long to wait and to let readers in
while it writes.

## Main definitions

* `Opening`: what an attempt to open leads to.
* `Store.attach`: a store with a new connection to a database.
* `Store.openAt`: a store opened at a path.
* `Store.openPrivate`: a store with a database of its own, outside of any file.
* `Store.describe`: a store as shown to a reader.
-/

namespace UsageLedger

/-- What an attempt to open a store leads to. -/
inductive Opening where
  /-- A store, connected to the database at a location. -/
  | opened (s : Store) (l : Location)
  /-- No store, for a reason. -/
  | refused (e : Error)
  /-- The process ends, because the time to wait is more than a connection can be told. -/
  | aborted

/-- The longest time that a connection can be told to wait, in milliseconds. -/
def longestTimeout : Nat := 2147483647

/-- The number of bytes in front of the first character without content. -/
def bytesBeforeNul (s : String) : Nat :=
  (String.ofList (s.toList.takeWhile (· ≠ '\x00'))).utf8ByteSize

namespace Store

/-- The directory that a database file lies in, made if it is missing. -/
def makeParent (d : Disk) (path : String) : Disk × Option OpenFault :=
  match Path.parent? path with
  | none => (d, none)
  | some parent =>
    match d.makeDirectories .owner parent with
    | (d, .ok ()) => (d, none)
    | (d, .error f) => (d, some (.directory parent f))

/-- A store at a path with a new connection to the database there, which from then on lets
readers in while it is written to. -/
def attach (db : Database) (path : String) (busyTimeout : Nat) :
    Except Fault (Store × Database) :=
  if db.locked && !db.writeAhead then .error .locked
  else
    let c : Connection := { busyTimeout, seen := db.shape }
    .ok ({ path := some path, phase := .opened, connection := some c },
      { db with writeAhead := true })

/-- A connection to the database of a file that is there. -/
def connect (d : Disk) (path : String) (busyTimeout : Nat) : Disk × Opening :=
  if path.toList.contains '\x00' then
    (d, .refused (.store (.impossiblePath path (bytesBeforeNul path))))
  else
    match d.openDatabase path with
    | none => (d, .refused (.store (.unopened path)))
    | some (d, opened) =>
      if longestTimeout < busyTimeout then (d, .aborted)
      else
        match opened with
        | .other _ => (d, .refused (.store (.unconfigured path .notADatabase)))
        | .database l db =>
          match attach db path busyTimeout with
          | .error f => (d, .refused (.store (.unconfigured path f)))
          | .ok (s, db) => (d.put l (.database db), .opened s l)

/-- A store opened at a path. -/
def openAt (d : Disk) (home path : String) (busyTimeout : Nat) : Disk × Opening :=
  if path = "" then (d, .refused (.config .emptyDatabasePath))
  else
    let path := Path.expandTilde home path
    match makeParent d path with
    | (d, some f) => (d, .refused (.store f))
    | (d, none) => connect d path busyTimeout

/-- How long a connection waits when nothing else is said, in milliseconds. -/
def usualTimeout : Nat := 5000

/-- A store with a database of its own, outside of any file. -/
def openPrivate : Store :=
  { phase := .opened, connection := some { busyTimeout := usualTimeout, seen := .absent } }

end Store

/-- How far a store has come, as it is called. -/
def Phase.name : Phase → String
  | .uninitialized => "Uninitialized"
  | .opened => "Open"
  | .ready => "SchemaReady"
  | .closed => "Closed"

/-- A store as shown to a reader. -/
def Store.describe (s : Store) : String :=
  let path :=
    match s.path with
    | some path => "Some(" ++ Text.quoted path ++ ")"
    | none => "None"
  "UsageStore \x7b path: " ++ path ++ ", state: " ++ s.phase.name ++ " \x7d"

end UsageLedger
