import UsageLedger.Toml.Scalar

/-!
# Reading settings files

A settings file is read line by line.  A line is empty, opens a table, opens the next table of a
row, or assigns a value to a name; a comment may end it.  Values may hold other values up to a
depth.

## Main definitions

* `Toml.takeValue`: a value.
* `Toml.takeLine`: a line and what it does.
* `Toml.parse?`: the named values of a file.
-/

namespace UsageLedger.Toml

/-- The characters left when the blanks of the line in front are gone. -/
def dropSpaces (cs : List Char) : List Char :=
  cs.dropWhile isSpace

/-- A character of a name without quotation marks. -/
def isNameChar (c : Char) : Bool :=
  c.isAlphanum || c == '-' || c == '_'

/-- Takes a name, bare or as a text on one line. -/
def takeName (cs : List Char) : Option (String × List Char) :=
  match cs with
  | [] => none
  | c :: _ =>
    if c = '"' ∨ c = '\'' then takeLineText cs
    else
      let name := cs.takeWhile isNameChar
      if name.isEmpty then none else some (String.ofList name, cs.dropWhile isNameChar)

/-- Takes names with dots between them and blanks around each. -/
def takeNames : Nat → List Char → Option (List String × List Char)
  | 0, _ => none
  | fuel + 1, cs => do
    let (name, cs) ← takeName (dropSpaces cs)
    match dropSpaces cs with
    | '.' :: cs => do
      let (names, cs) ← takeNames fuel cs
      some (name :: names, cs)
    | cs => some ([name], cs)

/-- The number of tables and arrays that may lie in each other, and of names in a dotted one. -/
def depthLimit : Nat := 79

/-- Takes a dotted name: the path that it leads through and its last name. -/
def takePath (cs : List Char) : Option ((List String × String) × List Char) := do
  let (names, cs) ← takeNames depthLimit cs
  match names.reverse with
  | last :: path => some ((path.reverse, last), cs)
  | [] => none

/-- Takes the end of a line: a line feed, with or without a carriage return, or the end of the
file. -/
def takeLineEnd : List Char → Option (List Char)
  | [] => some []
  | '\n' :: cs => some cs
  | '\r' :: '\n' :: cs => some cs
  | _ => none

/-- The characters left when a comment in front is gone. -/
def dropComment : List Char → List Char
  | '#' :: cs => cs.dropWhile isPlain
  | cs => cs

/-- Takes the rest of a line: blanks, a comment, and the end of the line. -/
def takeLineRest (cs : List Char) : Option (List Char) :=
  takeLineEnd (dropComment (dropSpaces cs))

/-- The characters left when blanks, comments and line ends in front are gone. -/
def dropGap : Nat → List Char → List Char
  | 0, cs => cs
  | fuel + 1, cs =>
    match dropSpaces cs with
    | '#' :: cs =>
      match takeLineEnd (dropComment ('#' :: cs)) with
      | some rest => dropGap fuel rest
      | none => '#' :: cs
    | '\n' :: cs => dropGap fuel cs
    | '\r' :: '\n' :: cs => dropGap fuel cs
    | cs => cs

/-- Takes the items of an array and its closing bracket; `takeItem` reads an item. -/
def takeItems (takeItem : List Char → Option (Toml × List Char)) :
    Nat → List Char → Option (List Toml × List Char)
  | 0, _ => none
  | fuel + 1, cs =>
    match dropGap cs.length cs with
    | ']' :: cs => some ([], cs)
    | cs => do
      let (v, cs) ← takeItem cs
      match dropGap cs.length cs with
      | ',' :: cs => do
        let (vs, cs) ← takeItems takeItem fuel cs
        some (v :: vs, cs)
      | ']' :: cs => some ([v], cs)
      | _ => none

/-- Takes a dotted name, an equals sign and a value; `takeItem` reads the value. -/
def takeAssignment (takeItem : List Char → Option (Toml × List Char)) (cs : List Char) :
    Option (((List String × String) × Toml) × List Char) := do
  let (target, cs) ← takePath cs
  match cs with
  | '=' :: cs => do
    let (v, cs) ← takeItem (dropSpaces cs)
    some ((target, v), cs)
  | _ => none

/-- Takes the assignments of a table on one line and its closing brace, adding them to a table. -/
def takeMembers (takeItem : List Char → Option (Toml × List Char)) :
    Nat → Fields → List Char → Option (Fields × List Char)
  | 0, _, _ => none
  | fuel + 1, fields, cs => do
    let (((path, name), v), cs) ← takeAssignment takeItem cs
    let fields ← assign path name v fields
    match dropSpaces cs with
    | ',' :: cs => takeMembers takeItem fuel fields cs
    | '\x7d' :: cs => some (fields, cs)
    | _ => none

/-- Takes a value that holds others to at most a depth. -/
def takeValue : Nat → List Char → Option (Toml × List Char)
  | depth + 1, '[' :: cs =>
    (takeItems (takeValue depth) cs.length cs).map fun (vs, cs) => (.array vs, cs)
  | depth + 1, '\x7b' :: cs =>
    match dropSpaces cs with
    | '\x7d' :: cs => some (.table [], cs)
    | cs =>
      (takeMembers (takeValue depth) cs.length [] cs).map
        fun (fields, cs) => (.table (closeFields fields), cs)
  | _, cs => takeScalar cs

/-- What a line does. -/
inductive Line where
  /-- Nothing. -/
  | idle
  /-- It opens a table. -/
  | header (path : List String) (name : String)
  /-- It opens the next table of a row. -/
  | rowHeader (path : List String) (name : String)
  /-- It assigns a value. -/
  | assignment (path : List String) (name : String) (v : Toml)

/-- Takes a line and its end. -/
def takeLine (cs : List Char) : Option (Line × List Char) :=
  match dropSpaces cs with
  | '[' :: '[' :: cs => do
    let ((path, name), cs) ← takePath cs
    let cs ← takeMark ']' cs
    let cs ← takeMark ']' cs
    let cs ← takeLineRest cs
    some (.rowHeader path name, cs)
  | '[' :: cs => do
    let ((path, name), cs) ← takePath cs
    let cs ← takeMark ']' cs
    let cs ← takeLineRest cs
    some (.header path name, cs)
  | cs =>
    match takeLineRest cs with
    | some cs => some (.idle, cs)
    | none => do
      let (((path, name), v), cs) ← takeAssignment (takeValue depthLimit) cs
      let cs ← takeLineRest cs
      some (.assignment path name v, cs)

/-- Takes all lines; `here` is the path of the table that the last header opened. -/
def takeLines : Nat → List String → Fields → List Char → Option Fields
  | _, _, fields, [] => some fields
  | 0, _, _, _ => none
  | fuel + 1, here, fields, cs => do
    let (line, cs) ← takeLine cs
    match line with
    | .idle => takeLines fuel here fields cs
    | .header path name => do
      let fields ← openTable path name fields
      takeLines fuel (path ++ [name]) fields cs
    | .rowHeader path name => do
      let fields ← openRow path name fields
      takeLines fuel (path ++ [name]) fields cs
    | .assignment path name v => do
      let fields ← within (assign path name v) here fields
      takeLines fuel here fields cs

/-- The named values of a settings file; a byte order mark in front counts for nothing. -/
def parse? (text : String) : Option (List (String × Toml)) :=
  let cs :=
    match text.toList with
    | '\ufeff' :: cs => cs
    | cs => cs
  (takeLines cs.length [] [] cs).map closeFields

end UsageLedger.Toml
