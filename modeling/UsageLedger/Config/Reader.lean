import UsageLedger.Config.Basic
import UsageLedger.Toml.Reader

/-!
# Reading settings

The settings of a file stand in three sections.  A section is a table of settings by name, of which
unknown ones are passed over, or a row of them in order.  A section that is a moment in time has no
settings.

## Main definitions

* `Config.ofText`: the settings of a text.
* `Config.load`: the settings of a file.
* `Config.loadUsual`: the settings of the usual file, or the usual settings if there is none.
-/

namespace UsageLedger

open Toml

namespace Toml

/-- A text. -/
def asText? : Toml → Option String
  | text s => some s
  | _ => none

/-- A truth value. -/
def asBool? : Toml → Option Bool
  | bool b => some b
  | _ => none

/-- A whole number that is not negative. -/
def asNat? : Toml → Option Nat
  | whole n => if 0 ≤ n then some n.toNat else none
  | _ => none

/-- A setting, read if it is there. -/
def setting {α : Type} (read : Toml → Option α) (missing : α) : Option Toml → Option α
  | some v => read v
  | none => some missing

/-- The settings of a section by name: those of a table by name, those of a row in order. -/
def settings? (names : List String) : Toml → Option (List (Option Toml))
  | table fields => some (names.map fun name => fields.lookup name)
  | array items => some ((List.range names.length).map fun i => items[i]?)
  | moment => some (names.map fun _ => none)
  | _ => none

end Toml

namespace Storage

/-- The path: a row of settings has to name it. -/
def pathOf? (holder : Toml) : Option Toml → Option (Option String)
  | some v => v.asText?.map some
  | none =>
    match holder with
    | .array _ => none
    | _ => some none

/-- Where the database lies, from its section. -/
def ofToml? (v : Toml) : Option Storage := do
  match ← v.settings? ["path", "auth_dir", "busy_timeout_ms"] with
  | [path, authDir, busyTimeout] =>
    let usual : Storage := {}
    some {
      path := ← pathOf? v path
      authDir := ← setting asText? usual.authDir authDir
      busyTimeout := ← setting asNat? usual.busyTimeout busyTimeout }
  | _ => none

end Storage

/-- Whether usage is recorded, from its section. -/
def Statistics.ofToml? (v : Toml) : Option Statistics := do
  match ← v.settings? ["enabled"] with
  | [enabled] => some { enabled := ← setting asBool? true enabled }
  | _ => none

/-- What is logged, from its section. -/
def Logging.ofToml? (v : Toml) : Option Logging := do
  match ← v.settings? ["level", "max_files"] with
  | [level, maxFiles] =>
    let usual : Logging := {}
    some {
      level := ← setting asText? usual.level level
      maxFiles := ← setting asNat? usual.maxFiles maxFiles }
  | _ => none

namespace Config

/-- The settings of a file's named values. -/
def ofFields? (fields : List (String × Toml)) : Option Config := do
  some {
    storage := ← setting Storage.ofToml? {} (fields.lookup "storage")
    statistics := ← setting Statistics.ofToml? {} (fields.lookup "statistics")
    logging := ← setting Logging.ofToml? {} (fields.lookup "logging") }

/-- The settings of a text, if it is a settings file and they can be used. -/
def ofText (text : String) : Except Error Config :=
  match (Toml.parse? text).bind ofFields? with
  | some c => c.validate
  | none => .error (.config .malformed)

/-- The settings of a file. -/
def load (d : Disk) (path : String) : Except Error Config :=
  match d.readText path with
  | .ok content => ofText content
  | .error f => .error (.config (.unreadable path f))

/-- The settings of the usual file; where there is none, every setting has its usual value. -/
def loadUsual (d : Disk) (e : Environment) : Except Error Config :=
  match d.find e.configFile with
  | .ok _ => load d e.configFile
  | .error _ => .ok {}

end Config

end UsageLedger
