/-!
# Values of settings files

A settings file assigns values to names, in tables that lie in each other.  Names are unique within
their table once the file is read.

## Main definitions

* `Toml`: values.
* `Toml.Fields`, `Toml.Node`: the tables of a file while it is read, which remember how they came
  about, because a table may be continued only in the way in which it was begun.
* `Toml.assign`, `Toml.openTable`, `Toml.openRow`: the three ways in which a line adds to them.
-/

namespace UsageLedger

/-- A value of a settings file. -/
inductive Toml where
  /-- A text. -/
  | text (s : String)
  /-- A whole number. -/
  | whole (n : Int)
  /-- A number with a fraction or an exponent; no setting has one, so the number is not kept. -/
  | decimal
  /-- A date or a time; no setting has one, so the moment is not kept. -/
  | moment
  /-- A truth value. -/
  | bool (b : Bool)
  /-- A row of values. -/
  | array (items : List Toml)
  /-- Named values. -/
  | table (fields : List (String × Toml))

namespace Toml

/-- How a table came about. -/
inductive Origin where
  /-- Its own header opened it. -/
  | header
  /-- The header of a table inside it implied it. -/
  | implied
  /-- A dotted name implied it. -/
  | dotted
  deriving DecidableEq

/-- What a name stands for while the file is read. -/
inductive Node where
  /-- A value, closed to additions. -/
  | value (v : Toml)
  /-- A table. -/
  | table (origin : Origin) (fields : List (String × Node))
  /-- A row of tables, each opened by a header; the last one is open to additions. -/
  | rows (done : List (List (String × Node))) (last : List (String × Node))

/-- The names of a table while the file is read. -/
abbrev Fields := List (String × Node)

/-- A table with what one name stands for changed, unless that is refused. -/
def alter (name : String) (change : Option Node → Option Node) : Fields → Option Fields
  | [] => (change none).map fun n => [(name, n)]
  | (k, n) :: rest =>
    if k = name then (change (some n)).map fun n => (k, n) :: rest
    else (alter name change rest).map ((k, n) :: ·)

/-- A change made at the end of a path of names.  Missing tables on the way are made; a value
cannot be entered, and by a dotted name neither can a table with a header.  The change is told
whether it is made in a table that a dotted name implied. -/
def descend (dotted : Bool) (change : Bool → Fields → Option Fields) :
    List String → Bool → Fields → Option Fields
  | [], here, fields => change here fields
  | name :: path, _, fields =>
    alter name
      (fun
        | none =>
          (descend dotted change path dotted []).map
            (.table (if dotted then .dotted else .implied))
        | some (.value _) => none
        | some (.table origin inner) =>
          if dotted && origin == .header then none
          else (descend dotted change path (origin == .dotted) inner).map (.table origin)
        | some (.rows done last) =>
          (descend dotted change path false last).map (.rows done))
      fields

/-- A value assigned to a name at the end of a dotted path: the name must be new, and the table that
the path leads to must come from dotted names. -/
def assign (path : List String) (name : String) (v : Toml) (fields : Fields) : Option Fields :=
  descend true
    (fun here fields =>
      if here == path.isEmpty then none
      else alter name (fun | none => some (.value v) | some _ => none) fields)
    path false fields

/-- A table opened by a header at the end of a path: it must be new, or implied by headers only. -/
def openTable (path : List String) (name : String) (fields : Fields) : Option Fields :=
  descend false
    (fun _ fields =>
      alter name
        (fun
          | none => some (.table .header [])
          | some (.table .implied inner) => some (.table .header inner)
          | some _ => none)
        fields)
    path false fields

/-- A further table of a row of tables, opened by a header at the end of a path. -/
def openRow (path : List String) (name : String) (fields : Fields) : Option Fields :=
  descend false
    (fun _ fields =>
      alter name
        (fun
          | none => some (.rows [] [])
          | some (.rows done last) => some (.rows (done ++ [last]) [])
          | some _ => none)
        fields)
    path false fields

/-- A change made in the table that the last header opened. -/
def within (change : Fields → Option Fields) : List String → Fields → Option Fields
  | [], fields => change fields
  | name :: path, fields =>
    alter name
      (fun
        | some (.table origin inner) => (within change path inner).map (.table origin)
        | some (.rows done last) => (within change path last).map (.rows done)
        | _ => none)
      fields

mutual

/-- What a name stands for once the file is read. -/
def Node.close : Node → Toml
  | .value v => v
  | .table _ fields => .table (closeFields fields)
  | .rows done last => .array (closeRows done ++ [.table (closeFields last)])

/-- The named values of a table once the file is read. -/
def closeFields : List (String × Node) → List (String × Toml)
  | [] => []
  | (name, n) :: rest => (name, n.close) :: closeFields rest

/-- The tables of a row once the file is read. -/
def closeRows : List (List (String × Node)) → List Toml
  | [] => []
  | fields :: rest => .table (closeFields fields) :: closeRows rest

end

end Toml

end UsageLedger
