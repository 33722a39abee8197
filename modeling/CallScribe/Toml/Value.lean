import CallScribe.Json.Basic

/-!
# CallScribe.Toml.Value

TOML values, and tables while a document is still adding to them.

* `Toml`: finished values.
* `TomlNode`: what a key of an unfinished table leads to. A table that only stands on the way to
  another one is implicit; one that a dotted key made is dotted as well.
* `TomlNode.extend`: changes the table at the end of a path.
* `Toml.toJson`: the value as settings are read from it.
-/

namespace CallScribe

/-- A TOML value. Floats and dates keep their text. -/
inductive Toml
  | string (s : String)
  | int (n : Int)
  | float (text : String)
  | bool (b : Bool)
  | date (text : String)
  | array (items : List Toml)
  | table (fields : List (String × Toml))

namespace Toml

/-- The one key of the object that stands for a date. -/
def dateKey : String := "date"

mutual

/-- The value as settings are read from it. No setting is a float, so that its size does not
matter; a date is an object with one member that no setting has. -/
def toJson : Toml → Json
  | .string s => .string s
  | .int n => .int n
  | .float _ => .real (Decimal.zero false)
  | .bool b => .bool b
  | .date text => .object [(dateKey, .string text)]
  | .array items => .array (itemsJson items)
  | .table fields => .object (fieldsJson fields)

def itemsJson : List Toml → List Json
  | [] => []
  | v :: rest => toJson v :: itemsJson rest

def fieldsJson : List (String × Toml) → Fields Json
  | [] => []
  | (k, v) :: rest => (fieldsJson rest).insert k (toJson v)

end

end Toml

/-- What a key of an unfinished table leads to. -/
inductive TomlNode
  | value (v : Toml)
  | table (implicit dotted : Bool) (entries : List (String × TomlNode))
  | tables (items : List (List (String × TomlNode)))

/-- The keys of an unfinished table. -/
abbrev TomlEntries := List (String × TomlNode)

namespace TomlNode

mutual

def freeze : TomlNode → Toml
  | .value v => v
  | .table _ _ entries => .table (freezeEntries entries)
  | .tables items => .array (freezeTables items)

def freezeEntries : TomlEntries → List (String × Toml)
  | [] => []
  | (k, n) :: rest => (k, freeze n) :: freezeEntries rest

def freezeTables : List TomlEntries → List Toml
  | [] => []
  | entries :: rest => .table (freezeEntries entries) :: freezeTables rest

end

/-- Puts a node under a key, in the place of the node that the key had. -/
def set (key : String) (n : TomlNode) : TomlEntries → TomlEntries
  | [] => [(key, n)]
  | (k, m) :: rest => if k = key then (k, n) :: rest else (k, m) :: set key n rest

/-- Changes the table at the end of a path. `change` learns whether that table is dotted. Tables
on the way are made where they are missing; the last of an array of tables stands for all. A
dotted key must not enter a table that a header has defined. -/
def extend (dotted : Bool) (change : Bool → TomlEntries → Option TomlEntries) :
    List String → Bool → TomlEntries → Option TomlEntries
  | [], tableDotted, entries => change tableDotted entries
  | key :: path, _, entries =>
    match entries.lookup key with
    | none => (extend dotted change path dotted []).map fun inner =>
        entries ++ [(key, .table true dotted inner)]
    | some (.value _) => none
    | some (.table isImplicit isDotted inner) =>
      if dotted && !isImplicit then none
      else (extend dotted change path isDotted inner).map fun inner =>
        set key (.table isImplicit isDotted inner) entries
    | some (.tables items) =>
      match items.reverse with
      | [] => none
      | last :: before => (extend dotted change path false last).map fun inner =>
          set key (.tables (before.reverse ++ [inner])) entries

/-- The table at the end of a path, empty if it is yet to be made. -/
def tableAt (entries : TomlEntries) : List String → Option TomlEntries
  | [] => some entries
  | key :: path =>
    match entries.lookup key with
    | none => some []
    | some (.value _) => none
    | some (.table _ _ inner) => tableAt inner path
    | some (.tables items) => tableAt (items.getLastD []) path

/-- Adds a key with its value; the key may be dotted. No key is given twice, and a table is either
written with dotted keys or not. -/
def addValue (path : List String) (key : String) (v : Toml) (entries : TomlEntries) :
    Option TomlEntries :=
  extend true (fun tableDotted inner =>
    if tableDotted = path.isEmpty then none
    else if (inner.lookup key).isSome then none
    else some (inner ++ [(key, .value v)])) path false entries

end TomlNode
end CallScribe
