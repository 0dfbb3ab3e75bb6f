import UsageLedger.Database.Basic
import UsageLedger.Path

/-!
# Files and directories

What a disk holds: directories, text files and database files, each under the row of names that
leads to it from the root.  Paths are followed from the working directory, and directories are
made on the way where that is asked for.

## Main definitions

* `Entry`, `Disk`: what stands under a row of names, and all of it.
* `FileFault`: why a file cannot be reached, and its wording.
* `Disk.locate`: the row of names that a path leads to.
* `Disk.makeDirectories`, `Disk.readText`, `Disk.writeText`, `Disk.openDatabase`: what is done
  there. -/

namespace UsageLedger

/-- Who may enter a directory. -/
inductive Privacy where
  /-- Everybody may look. -/
  | shared
  /-- The owner only. -/
  | owner
  deriving DecidableEq

/-- The permissions in octal digits. -/
def Privacy.octal : Privacy → String
  | .shared => "755"
  | .owner => "700"

/-- What stands under a row of names. -/
inductive Entry where
  /-- A directory. -/
  | directory (privacy : Privacy)
  /-- A file with a text. -/
  | text (content : String)
  /-- A file with a database. -/
  | database (db : Database)
  /-- A file with neither. -/
  | binary
  deriving DecidableEq

/-- The names that lead to an entry from the root. -/
abbrev Location := List String

/-- Why a file or directory cannot be reached. -/
inductive FileFault where
  /-- Nothing is there. -/
  | missing
  /-- Something is there already. -/
  | present
  /-- A file stands where a directory is needed. -/
  | notADirectory
  /-- A directory stands where a file is needed. -/
  | isADirectory
  /-- A name is longer than names can be. -/
  | nameTooLong
  /-- A name holds a character that no name can hold. -/
  | impossibleName
  /-- The file does not hold a text. -/
  | notText
  deriving DecidableEq

/-- The wording of a fault. -/
def FileFault.message : FileFault → String
  | .missing => "No such file or directory (os error 2)"
  | .present => "File exists (os error 17)"
  | .notADirectory => "Not a directory (os error 20)"
  | .isADirectory => "Is a directory (os error 21)"
  | .nameTooLong => "File name too long (os error 36)"
  | .impossibleName => "file name contained an unexpected NUL byte"
  | .notText => "stream did not contain valid UTF-8"

/-- A disk. -/
structure Disk where
  /-- The working directory. -/
  here : Location := ["work"]
  /-- What stands where; the root is a directory without being listed. -/
  entries : List (Location × Entry) := [(["work"], .directory .shared)]

namespace Disk

/-- What stands at a location. -/
def entry? (d : Disk) (l : Location) : Option Entry :=
  if l.isEmpty then some (.directory .shared) else d.entries.lookup l

/-- There is a directory at a location. -/
def isDirectory (d : Disk) (l : Location) : Bool :=
  match d.entry? l with
  | some (.directory _) => true
  | _ => false

/-- The disk with an entry at a location. -/
def put (d : Disk) (l : Location) (e : Entry) : Disk :=
  if d.entries.any fun (k, _) => k == l then
    { d with entries := d.entries.map fun (k, old) => if k = l then (k, e) else (k, old) }
  else { d with entries := d.entries ++ [(l, e)] }

/-- Follows names from a location; all but the last have to lead to directories. -/
def follow (d : Disk) (l : Location) : List String → Except FileFault Location
  | [] => .ok l
  | s :: rest =>
    match d.entry? l with
    | none => .error .missing
    | some (.directory _) =>
      if Path.isIdle s then follow d l rest
      else if s = ".." then follow d l.dropLast rest
      else if 255 < s.utf8ByteSize then .error .nameTooLong
      else follow d (l ++ [s]) rest
    | some _ => .error .notADirectory

/-- The location that a path leads to; the last name need not exist. -/
def locate (d : Disk) (path : String) : Except FileFault Location :=
  if path.toList.contains '\x00' then .error .impossibleName
  else if path = "" then .error .missing
  else if Path.isAbsolute path then follow d [] (Path.segments path)
  else follow d d.here (Path.segments path)

/-- What a path leads to. -/
def find (d : Disk) (path : String) : Except FileFault (Location × Entry) := do
  let l ← d.locate path
  match d.entry? l with
  | some e => return (l, e)
  | none => .error .missing

/-- A directory made at the end of a path, in a directory that is there. -/
def makeDirectory (d : Disk) (privacy : Privacy) (path : String) : Except FileFault Disk := do
  let l ← d.locate path
  match d.entry? l with
  | some _ => .error .present
  | none => return d.put l (.directory privacy)

/-- A path leads to a directory. -/
def hasDirectory (d : Disk) (path : String) : Bool :=
  match d.find path with
  | .ok (_, .directory _) => true
  | _ => false

/-- A directory made at the end of a path, and the missing directories on the way; `fuel` bounds the
number of those.  A directory that is there already will do. -/
def makeAll (d : Disk) (privacy : Privacy) : Nat → String → Disk × Except FileFault Unit
  | fuel, path =>
    if path = "" then (d, .ok ())
    else
      match d.makeDirectory privacy path with
      | .ok d => (d, .ok ())
      | .error .missing =>
        match fuel, Path.parent? path with
        | fuel + 1, some parent =>
          match makeAll d privacy fuel parent with
          | (d, .error f) => (d, .error f)
          | (d, .ok ()) =>
            match d.makeDirectory privacy path with
            | .ok d => (d, .ok ())
            | .error f => (d, if d.hasDirectory path then .ok () else .error f)
        | _, _ => (d, .error .missing)
      | .error f => (d, if d.hasDirectory path then .ok () else .error f)

/-- A directory made at the end of a path, and the missing directories on the way. -/
def makeDirectories (d : Disk) (privacy : Privacy) (path : String) :
    Disk × Except FileFault Unit :=
  d.makeAll privacy path.length path

/-- The text of a file. -/
def readText (d : Disk) (path : String) : Except FileFault String := do
  match ← d.find path with
  | (_, .text content) => return content
  | (_, .directory _) => .error .isADirectory
  | _ => .error .notText

/-- A path that can only be that of a directory. -/
def namesDirectory (path : String) : Bool :=
  match (Path.segments path).getLast? with
  | some last => Path.isIdle last || last == ".."
  | none => false

/-- A text written to a file, which is made if it is missing. -/
def writeText (d : Disk) (path content : String) : Except FileFault Disk := do
  let l ← d.locate path
  match d.entry? l with
  | some (.directory _) => .error .isADirectory
  | none => if namesDirectory path then .error .isADirectory else return d.put l (.text content)
  | some _ => return d.put l (.text content)

/-- What opening a database file leads to. -/
inductive Opened where
  /-- A database at a location. -/
  | database (l : Location) (db : Database)
  /-- A file that holds something else. -/
  | other (l : Location)

/-- The location that a path spells: a name in front of two dots is struck out with them, whatever
stands there. -/
def spell (d : Disk) (path : String) : Location :=
  (Path.segments path).foldl
    (fun l s => if Path.isIdle s then l else if s = ".." then l.dropLast else l ++ [s])
    (if Path.isAbsolute path then [] else d.here)

/-- A database file opened at the location that a path spells, and made if it is missing; a file
without content is a database that was never written to. -/
def openDatabase (d : Disk) (path : String) : Option (Disk × Opened) :=
  let l := d.spell path
  if path.toList.contains '\x00' || !d.isDirectory l.dropLast || l.any (255 < ·.utf8ByteSize) then
    none
  else
    match d.entry? l with
    | some (.directory _) => none
    | some (.database db) => some (d, .database l db)
    | some (.text content) =>
      if content = "" then some (d.put l (.database .blank), .database l .blank)
      else some (d, .other l)
    | some .binary => some (d, .other l)
    | none => some (d.put l (.database .blank), .database l .blank)

/-- The database at a location. -/
def database? (d : Disk) (l : Location) : Option Database :=
  match d.entry? l with
  | some (.database db) => some db
  | _ => none

end Disk

end UsageLedger
