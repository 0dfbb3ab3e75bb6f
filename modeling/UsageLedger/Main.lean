import UsageLedger.Cli.Run
import UsageLedger.Database.Image

/-!
# The program

The program reads from the disk what the words of its command line point to, works on that, and
writes back what it changed.

## Main definitions

* `main`: the program.
-/

namespace UsageLedger.Program

/-- The path of a location. -/
def pathOf (l : Location) : String :=
  "/" ++ Path.ofSegments l

/-- What stands at a location of the real disk, and nothing if nothing does. -/
def readEntry (l : Location) : IO (Option Entry) := do
  match ← (IO.FS.realPath (pathOf l)).toBaseIO with
  | .error _ => return none
  | .ok path =>
    if ← path.isDir then return some (.directory .shared)
    match ← (IO.FS.readFile path).toBaseIO with
    | .error _ => return some .binary
    | .ok content =>
      match Database.ofImage? content with
      | some db => return some (.database db)
      | none => return some (.text content)

/-- The disk with what the real one has at the end of a path and on the way there. -/
def fetch (d : Disk) (path : String) : IO Disk := do
  let l := d.spell path
  let mut d := d
  for n in List.range l.length do
    if let some e ← readEntry (l.take (n + 1)) then
      d := d.put (l.take (n + 1)) e
  return d

/-- What changed is written to the real disk. -/
def store (before after : Disk) : IO Unit := do
  for (l, e) in after.entries do
    if before.entry? l ≠ some e then
      match e with
      | .directory _ => IO.FS.createDirAll (pathOf l)
      | .text content => IO.FS.writeFile (pathOf l) content
      | .database db => IO.FS.writeFile (pathOf l) db.image
      | .binary => pure ()

/-- The paths that a command line points to, the settings being on the disk already. -/
def pathsOf (e : Environment) (d : Disk) (words : List String) : List String :=
  match Request.ofWords words with
  | .perform a =>
    let database :=
      match a.database, Config.loadUsual d e with
      | some path, _ => [path]
      | none, .ok config => [config.databasePath]
      | none, .error _ => []
    let file :=
      match a.command with
      | .importFrom file => [file]
      | .exportTo (some file) => [file]
      | _ => []
    e.stateDirectory :: database.map (Path.expandTilde e.home) ++ file
  | _ => []

end UsageLedger.Program

open UsageLedger in
/-- The program, from the words behind its name to the number that it ends with. -/
def main (words : List String) : IO UInt32 := do
  let e : Environment :=
    { home := (← IO.getEnv "HOME").getD "."
      configHome := ← IO.getEnv "XDG_CONFIG_HOME"
      stateHome := ← IO.getEnv "XDG_STATE_HOME" }
  let here := (Path.segments (← IO.currentDir).toString).filter (¬ Path.isIdle ·)
  let d ← Program.fetch { here, entries := [] } (Path.join (← IO.currentDir).toString ".")
  let d ← Program.fetch d e.configFile
  let d ← (Program.pathsOf e d words).foldlM Program.fetch d
  let (exit, after) := Cli.run e d words
  Program.store d after
  IO.print exit.output
  IO.eprint exit.notice
  if exit.code = 1 then IO.eprintln ""
  return exit.code.toUInt32
