import UsageLedger.Cli.Arguments
import UsageLedger.Cli.Report
import UsageLedger.Host
import UsageLedger.Json.Printer
import UsageLedger.Json.Reader
import UsageLedger.Snapshot.Codec

/-!
# Commands carried out

A command loads the settings, prepares the directory of the log, opens the store, makes sure of the
table, does its work and closes the store.  The first step that fails ends it, with a line that says
which one it was.

## Main definitions

* `Exit`: how a run of the program ends, and what it shows.
* `Cli.run`: the program, from its words to its end.
-/

namespace UsageLedger

/-- How a run of the program ends, and what it shows. -/
structure Exit where
  /-- The number that it ends with; zero for success. -/
  code : Nat := 0
  /-- What it shows as its result. -/
  output : String := ""
  /-- What it shows beside that; of an error the first line. -/
  notice : String := ""
  deriving DecidableEq

namespace Exit

/-- The end of a run in which a step failed. -/
def failure (step : String) : Exit :=
  { code := 1, notice := "Error: " ++ step }

/-- The end of a run whose words make no sense. -/
def misuse : Exit :=
  { code := 2 }

/-- The end of a run that breaks off. -/
def abort : Exit :=
  { code := 101 }

end Exit

namespace Cli

/-- The text that tells the version. -/
def versionText : String := "tokenledger 0.1.0\n"

/-- An aggregate is restored from a store, and reported on. -/
def restore (h : Host) (store : Nat) : Exit × Host :=
  let bridge : Bridge :=
    { store := some store, aggregate := some h.aggregates.length, toggle := 0
      backlog := .ofLimit Backlog.usualLimit }
  let id := h.bridges.length
  let aggregate := h.aggregates.length
  let h :=
    { h with aggregates := h.aggregates ++ [Snapshot.empty], bridges := h.bridges ++ [bridge] }
  match h.loadAndMerge id with
  | (.error _, h) => (.failure "failed to restore usage statistics", h)
  | (.ok tally, h) =>
    ({ output := Report.restored (tally.getD {}) (h.aggregate aggregate).totals }, h)

/-- The records of a snapshot file are taken over. -/
def importFrom (h : Host) (store : Nat) (file : String) : Exit × Host :=
  match h.disk.readText file with
  | .error _ => (.failure ("failed to read snapshot " ++ file), h)
  | .ok content =>
    match (Json.parse? content).bind Snapshot.ofJson? with
    | none => (.failure ("failed to parse snapshot " ++ file), h)
    | some snapshot =>
      match h.onStore store fun s db => s.persist db snapshot .never with
      | (.error _, h) => (.failure "failed to persist snapshot", h)
      | (.ok tally, h) => ({ output := Report.imported tally }, h)

/-- All records are written to a snapshot file, or shown. -/
def exportTo (h : Host) (store : Nat) (file : Option String) : Exit × Host :=
  match h.load store .never with
  | (.error _, h) => (.failure "failed to load usage records", h)
  | (.ok snapshot, h) =>
    let content := snapshot.toJson.pretty
    match file with
    | none => ({ output := content ++ "\n" }, h)
    | some file =>
      match h.disk.writeText file content with
      | .error _ => (.failure ("failed to write " ++ file), h)
      | .ok disk => ({ notice := Report.exported snapshot.recordCount file }, { h with disk })

/-- The totals of all records are shown. -/
def stats (h : Host) (store : Nat) : Exit × Host :=
  match h.load store .never with
  | (.error _, h) => (.failure "failed to load usage records", h)
  | (.ok snapshot, h) => ({ output := Report.table (Snapshot.empty.merge snapshot).1 }, h)

/-- A command is carried out with a store that is ready. -/
def perform (h : Host) (store : Nat) : Command → Exit × Host
  | .restore => restore h store
  | .importFrom file => importFrom h store file
  | .exportTo file => exportTo h store file
  | .stats => stats h store

/-- A store is opened and made ready, a command carried out, and the store closed. -/
def withStore (h : Host) (path : String) (busyTimeout : Nat) (command : Command) : Exit × Host :=
  let store := h.stores.length
  match h.openStore path busyTimeout with
  | (.aborted, h) => (.abort, h)
  | (.refused _, h) => (.failure "failed to open usage store", h)
  | (.opened .., h) =>
    match h.onStore store fun s db => s.ensureSchema db .never with
    | (.error _, h) => (.failure "failed to initialize usage schema", h)
    | (.ok (), h) =>
      let (exit, h) := perform h store command
      (exit, h.closeStore store)

/-- A command is carried out, from the settings on. -/
def execute (e : Environment) (d : Disk) (a : Arguments) : Exit × Disk :=
  match Config.loadUsual d e with
  | .error _ => (.failure "failed to load configuration", d)
  | .ok config =>
    match d.makeDirectories .shared e.stateDirectory with
    | (d, .error _) => (.failure "failed to initialize logging", d)
    | (d, .ok ()) =>
      let h : Host :=
        { disk := d, home := e.home, toggles := [config.statistics.enabled] }
      let path := a.database.getD config.databasePath
      let (exit, h) := withStore h path config.storage.busyTimeout a.command
      (exit, h.disk)

/-- The program, from its words to its end. -/
def run (e : Environment) (d : Disk) (words : List String) : Exit × Disk :=
  match Request.ofWords words with
  | .perform a => execute e d a
  | .version => ({ output := versionText }, d)
  | .help => ({}, d)
  | .misuse => (.misuse, d)

end Cli

end UsageLedger
