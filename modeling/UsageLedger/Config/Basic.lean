import UsageLedger.Error
import UsageLedger.Path

/-!
# Settings

The settings say where the database lies and how long to wait for it, whether usage is recorded, and
what is logged.  Every setting has a value when it is not set.

## Main definitions

* `Storage`, `Statistics`, `Logging`, `Config`: the settings.
* `Config.validate`: whether they can be used, and the first reason why not.
* `Config.databasePath`: the path of the database.
-/

namespace UsageLedger

/-- Where the database lies and how long to wait for it. -/
structure Storage where
  /-- The path of the database, if it is set. -/
  path : Option String := none
  /-- The directory of credentials, in which the database lies when its path is not set. -/
  authDir : String := "~/.cli-proxy-api"
  /-- How long to wait while somebody else is writing, in milliseconds. -/
  busyTimeout : Nat := 5000
  deriving DecidableEq

/-- Whether usage is recorded. -/
structure Statistics where
  /-- Usage is recorded. -/
  enabled : Bool := true
  deriving DecidableEq

/-- What is logged. -/
structure Logging where
  /-- The least level of an event that is logged. -/
  level : String := "info"
  /-- How many log files are kept. -/
  maxFiles : Nat := 5
  deriving DecidableEq

/-- The settings. -/
structure Config where
  /-- Where the database lies and how long to wait for it. -/
  storage : Storage := {}
  /-- Whether usage is recorded. -/
  statistics : Statistics := {}
  /-- What is logged. -/
  logging : Logging := {}
  deriving DecidableEq

namespace Config

/-- The first reason why the settings cannot be used. -/
def fault? (c : Config) : Option ConfigFault :=
  if c.storage.path = some "" then some .emptyPath
  else if c.storage.path = none ∧ c.storage.authDir = "" then some .emptyAuthDir
  else if c.storage.busyTimeout = 0 then some .zeroTimeout
  else none

/-- The settings, if they can be used. -/
def validate (c : Config) : Except Error Config :=
  match c.fault? with
  | some f => .error (.config f)
  | none => .ok c

/-- The path of the database: the one that is set, else a file in the directory of credentials. -/
def databasePath (c : Config) : String :=
  c.storage.path.getD (Path.join c.storage.authDir "usage.db")

end Config

end UsageLedger
