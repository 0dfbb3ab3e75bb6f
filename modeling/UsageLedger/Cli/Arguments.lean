/-!
# The command line

The words behind the program's name choose a command and say what it works on.  The option for
the path of the database may stand before and behind the command; the one behind it counts.  No
option may come twice in one of the two places, and a word that starts with a hyphen is an
option, unless it is a lone hyphen or two hyphens came before.

## Main definitions

* `Command`, `Arguments`, `Request`: what the words ask for.
* `Request.ofWords`: the request of a row of words.
-/

namespace UsageLedger

/-- What the program is asked to do with the database. -/
inductive Command where
  /-- Restore an aggregate and report on it. -/
  | restore
  /-- Take over the records of a snapshot file. -/
  | importFrom (file : String)
  /-- Write all records to a snapshot file, or show them. -/
  | exportTo (file : Option String)
  /-- Show totals. -/
  | stats
  deriving DecidableEq

/-- A command and the path of the database, if that is named. -/
structure Arguments where
  /-- The path of the database. -/
  database : Option String
  /-- The command. -/
  command : Command
  deriving DecidableEq

/-- What a row of words asks for. -/
inductive Request where
  /-- A command carried out. -/
  | perform (a : Arguments)
  /-- The version shown. -/
  | version
  /-- Help shown. -/
  | help
  /-- Nothing that makes sense. -/
  | misuse
  deriving DecidableEq

namespace Cli

/-- A word of the command line, by its looks. -/
inductive Word where
  /-- Two hyphens alone. -/
  | divider
  /-- A long option, with the value behind its equals sign, if there is one. -/
  | long (name : String) (value : Option String)
  /-- Short options, by their letters. -/
  | short (letters : List Char)
  /-- Anything else. -/
  | plain (s : String)

/-- The looks of a word. -/
def Word.ofText (s : String) : Word :=
  match s.toList with
  | ['-', '-'] => .divider
  | '-' :: '-' :: cs =>
    let name := String.ofList (cs.takeWhile (· ≠ '='))
    match cs.dropWhile (· ≠ '=') with
    | _ :: value => .long name (some (String.ofList value))
    | [] => .long name none
  | '-' :: c :: cs => .short (c :: cs)
  | _ => .plain s

/-- The value of an option: the one given with it, else the next word, unless that looks like an
option; with the words that are left. -/
def takeValue (given : Option String) (words : List String) : Option (String × List String) :=
  match given, words with
  | some "", _ => none
  | some v, words => some (v, words)
  | none, [] => none
  | none, w :: words =>
    match Word.ofText w with
    | .plain "" => none
    | .plain v => some (v, words)
    | _ => none

/-- The value given with a short option: what follows its letter, without an equals sign. -/
def shortValue : List Char → Option String
  | [] => none
  | '=' :: cs => some (String.ofList cs)
  | cs => some (String.ofList cs)

/-- What has been found behind a command. -/
structure Found where
  /-- The path of the database. -/
  database : Option String := none
  /-- The value of the option for the file to write. -/
  output : Option String := none
  /-- The file to read. -/
  file : Option String := none

/-- The words behind a command, read one after the other: whether the command takes an option for a
file to write, and whether it takes a file to read. -/
def readRest (takesOutput takesFile : Bool) : Nat → Found → List String → Except Request Found
  | _, found, [] => .ok found
  | 0, _, _ => .error .misuse
  | fuel + 1, found, w :: words =>
    let setOutput := fun (given : Option String) =>
      match takesOutput, found.output, takeValue given words with
      | true, none, some (v, words) =>
        readRest takesOutput takesFile fuel { found with output := some v } words
      | _, _, _ => .error .misuse
    let setFile := fun (v : String) (words : List String) =>
      match takesFile, found.file with
      | true, none =>
        if v = "" then .error .misuse
        else readRest takesOutput takesFile fuel { found with file := some v } words
      | _, _ => .error .misuse
    match Word.ofText w with
    | .divider =>
      match words with
      | [] => .ok found
      | [v] => setFile v []
      | _ => .error .misuse
    | .long "db" given =>
      match found.database, takeValue given words with
      | none, some (v, words) =>
        readRest takesOutput takesFile fuel { found with database := some v } words
      | _, _ => .error .misuse
    | .long "output" given => setOutput given
    | .long "help" none => .error .help
    | .short ('o' :: cs) => setOutput (shortValue cs)
    | .short ('h' :: _) => .error .help
    | .plain v => setFile v words
    | _ => .error .misuse

/-- The words behind a command that takes only the option for the path of the database. -/
def readCommand (database : Option String) (name : String) (words : List String) : Request :=
  let finish := fun (found : Found) (command : Command) =>
    Request.perform ⟨found.database.or database, command⟩
  match name with
  | "restore" =>
    match readRest false false (words.length + 1) {} words with
    | .ok found => finish found .restore
    | .error r => r
  | "stats" =>
    match readRest false false (words.length + 1) {} words with
    | .ok found => finish found .stats
    | .error r => r
  | "export" =>
    match readRest true false (words.length + 1) {} words with
    | .ok found => finish found (.exportTo found.output)
    | .error r => r
  | "import" =>
    match readRest false true (words.length + 1) {} words with
    | .ok found =>
      match found.file with
      | some file => finish found (.importFrom file)
      | none => .misuse
    | .error r => r
  | "help" =>
    match words with
    | [] => .help
    | [w] =>
      if w ∈ ["restore", "import", "export", "stats", "help"] then .help else .misuse
    | _ => .misuse
  | _ => .misuse

/-- The words in front of a command, and the command. -/
def readFront : Nat → Option String → List String → Request
  | _, _, [] => .misuse
  | 0, _, _ => .misuse
  | fuel + 1, database, w :: words =>
    match Word.ofText w with
    | .long "db" given =>
      match database, takeValue given words with
      | none, some (v, words) => readFront fuel (some v) words
      | _, _ => .misuse
    | .long "help" none => .help
    | .long "version" none => .version
    | .short ('h' :: _) => .help
    | .short ('V' :: _) => .version
    | .plain name => readCommand database name words
    | _ => .misuse

end Cli

/-- What a row of words asks for. -/
def Request.ofWords (words : List String) : Request :=
  Cli.readFront (words.length + 1) none words

end UsageLedger
