import UsageLedger.Disk
import UsageLedger.Text.Quoted

/-!
# Errors and the log

Why the settings cannot be used or the store does not do what it is asked to; and events that
somebody should look at, which do not fail an operation.

## Main definitions

* `ConfigFault`, `OpenFault`: causes that lie in the settings, and in the file of the database.
* `WriteStage`, `ReadStage`: what the store was doing when the database refused a statement.
* `Error`, `Error.message`: all causes, and their wording.
* `LogEntry`: events that are logged.
* `LogEntry.level`, `LogEntry.message`: how grave an event is, and its wording.
-/

namespace UsageLedger

/-- Why settings cannot be used. -/
inductive ConfigFault where
  /-- The file cannot be read. -/
  | unreadable (path : String) (fault : FileFault)
  /-- The text is no settings file, or a setting is of a wrong kind. -/
  | malformed
  /-- A path of the database is set, and empty. -/
  | emptyPath
  /-- No path of the database is set, and the directory of credentials is empty. -/
  | emptyAuthDir
  /-- A database in use is not waited for. -/
  | zeroTimeout
  /-- The path of a database to open is empty. -/
  | emptyDatabasePath
  deriving DecidableEq

namespace ConfigFault

/-- The wording of a fault. -/
def message : ConfigFault → String
  | unreadable path fault =>
    "failed to read config file " ++ Text.quoted path ++ ": " ++ fault.message
  | malformed => "failed to parse config"
  | emptyPath => "storage.path must not be empty when set"
  | emptyAuthDir => "storage.auth_dir must not be empty"
  | zeroTimeout => "storage.busy_timeout_ms must be greater than 0"
  | emptyDatabasePath => "database path cannot be empty"

end ConfigFault

/-- Why a database file cannot be opened. -/
inductive OpenFault where
  /-- The directory that it lies in cannot be made. -/
  | directory (parent : String) (fault : FileFault)
  /-- The path holds a character that no path can hold, behind a number of bytes. -/
  | impossiblePath (path : String) (position : Nat)
  /-- Nothing can be opened there. -/
  | unopened (path : String)
  /-- What was opened cannot be set up. -/
  | unconfigured (path : String) (fault : Fault)
  deriving DecidableEq

namespace OpenFault

/-- The wording of a fault. -/
def message : OpenFault → String
  | directory parent fault =>
    "failed to create database directory " ++ parent ++ ": " ++ fault.message
  | impossiblePath path position =>
    "failed to open database " ++ path ++ ": nul byte found in provided data at position: "
      ++ Text.ofNat position
  | unopened path =>
    "failed to open database " ++ path ++ ": unable to open database file: " ++ path
  | unconfigured path fault => "failed to configure database " ++ path ++ ": " ++ fault.message

end OpenFault

/-- What the store was doing when the database refused to write. -/
inductive WriteStage where
  /-- It prepared to insert. -/
  | prepare
  /-- It inserted a record. -/
  | insert
  deriving DecidableEq

/-- The wording of a stage. -/
def WriteStage.message : WriteStage → String
  | .prepare => "failed to prepare insert"
  | .insert => "failed to insert record"

/-- What the store was doing when the database refused to read. -/
inductive ReadStage where
  /-- It prepared to load. -/
  | prepare
  /-- It went from row to row. -/
  | iterate
  /-- It read a row. -/
  | scan
  /-- It counted the rows. -/
  | count
  deriving DecidableEq

/-- The wording of a stage. -/
def ReadStage.message : ReadStage → String
  | .prepare => "failed to prepare query"
  | .iterate => "error iterating records"
  | .scan => "failed to scan record"
  | .count => "failed to count records"

/-- Why the program does not do what it is asked to. -/
inductive Error where
  /-- The settings cannot be used. -/
  | config (fault : ConfigFault)
  /-- The database file cannot be opened. -/
  | store (fault : OpenFault)
  /-- The store is not ready for reading and writing. -/
  | notInitialized
  /-- The table cannot be made. -/
  | schema (fault : Fault)
  /-- A record cannot be written. -/
  | write (stage : WriteStage) (fault : Fault)
  /-- The records cannot be read. -/
  | read (stage : ReadStage) (fault : Fault)
  /-- The operation was called off. -/
  | cancelled
  deriving DecidableEq

namespace Error

/-- The wording of an error. -/
def message : Error → String
  | config fault => "configuration error: " ++ fault.message
  | store fault => "store error: " ++ fault.message
  | notInitialized => "store not initialized"
  | schema fault => "schema error: " ++ fault.message
  | write stage fault => "write error: " ++ stage.message ++ ": " ++ fault.message
  | read stage fault => "read error: " ++ stage.message ++ ": " ++ fault.message
  | cancelled => "operation cancelled"

end Error

/-! ### The log -/

/-- An event that somebody should look at. -/
inductive LogEntry where
  /-- A load passed over rows whose timestamp cannot be read. -/
  | rowsSkipped (count : Nat)
  /-- A record was dropped because the backlog is full. -/
  | backlogFull (apiKey model : String) (limit dropped : Nat)
  /-- A record could not be written. -/
  | writeFailed (apiKey model : String) (cause : Error)
  deriving DecidableEq

namespace LogEntry

/-- How grave an event is. -/
def level : LogEntry → String
  | rowsSkipped _ | backlogFull .. => "WARN"
  | writeFailed .. => "ERROR"

/-- The wording of an event. -/
def message : LogEntry → String
  | rowsSkipped _ => "Skipped usage rows with unparsable timestamps"
  | backlogFull .. => "Usage write backlog full, dropping record"
  | writeFailed .. => "Failed to persist usage record to SQLite"

end LogEntry

end UsageLedger
