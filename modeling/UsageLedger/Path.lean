/-!
# Path texts

A path is a text whose segments are divided by slashes.  It is kept as it was written: nothing is
made of `.`, `..` or doubled slashes until a file is looked for.

## Main definitions

* `Path.join`: a path followed by another one.
* `Path.parent?`: the path of the directory that a path lies in.
* `Path.expandTilde`: a path with the home directory in place of its tilde.
* `Environment`: where home, settings and state are; `Environment.configFile` and
  `Environment.stateDirectory` lie there.
-/

namespace UsageLedger.Path

/-- A text cut at its slashes. -/
def segments (path : String) : List String :=
  cut [] path.toList
where
  /-- The segments of the characters left, the current one read so far last character first. -/
  cut (read : List Char) : List Char → List String
    | [] => [String.ofList read.reverse]
    | c :: cs =>
      if c = '/' then String.ofList read.reverse :: cut [] cs else cut (c :: read) cs

/-- Segments with a slash between each two. -/
def ofSegments (segments : List String) : String :=
  String.intercalate "/" segments

/-- A path that starts at the root. -/
def isAbsolute (path : String) : Bool :=
  path.toList.head? == some '/'

/-- A path followed by another one, with a slash between unless there is one; an absolute path
stands alone. -/
def join (base path : String) : String :=
  if isAbsolute path then path
  else if base = "" ∨ base.toList.getLast? = some '/' then base ++ path
  else base ++ "/" ++ path

/-- A segment that leads nowhere. -/
def isIdle (segment : String) : Bool :=
  segment == "" || segment == "."

/-- Segments, last segment first, without the idle ones at the end of the path; a dot that starts a
path is not idle. -/
def dropIdle : List String → List String
  | [] => []
  | [first] => if first = "" then [] else [first]
  | s :: rest => if isIdle s then dropIdle rest else s :: rest

/-- The path of the directory that a path lies in: the path without its last segment, and
nothing for the root and the empty path. -/
def parent? (path : String) : Option String :=
  match dropIdle (segments path).reverse with
  | [] => none
  | _ :: rest =>
    match dropIdle rest with
    | [] => some (if isAbsolute path then "/" else "")
    | rest => some (ofSegments rest.reverse)

/-- Segments without the idle ones at both ends. -/
def trimIdle (segments : List String) : List String :=
  ((segments.dropWhile isIdle).reverse.dropWhile isIdle).reverse

/-- A path with the home directory in place of its tilde, which has to stand alone or before the
first slash; what follows is taken as a path inside the home directory. -/
def expandTilde (home path : String) : String :=
  match segments path with
  | "~" :: rest => join home (ofSegments (trimIdle rest))
  | _ => path

end UsageLedger.Path

namespace UsageLedger

/-- The directories that a process is told of. -/
structure Environment where
  /-- The home directory. -/
  home : String
  /-- The directory of settings, if it is not the usual one. -/
  configHome : Option String := none
  /-- The directory of state, if it is not the usual one. -/
  stateHome : Option String := none

namespace Environment

/-- The file that holds the settings. -/
def configFile (e : Environment) : String :=
  Path.join (Path.join (e.configHome.getD (Path.join e.home ".config")) "tokenledger") "config.toml"

/-- The directory that holds the log. -/
def stateDirectory (e : Environment) : String :=
  Path.join (e.stateHome.getD (Path.join e.home ".local/state")) "tokenledger"

end Environment

end UsageLedger
