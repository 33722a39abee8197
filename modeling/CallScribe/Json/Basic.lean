import CallScribe.Decimal.Basic

/-!
# CallScribe.Json.Basic

JSON values. The members of an object are kept in ascending order of their keys, each key once.

* `Json`: the values; a number is an integer or a decimal.
* `Fields`: ordered key-value lists, with `get?` and `insert`.
* `Json.ofFields`, `Json.ordered`: an object from members in any order, and all objects of a value.
* `Json.at?`: a value inside another one, by a path of keys and positions.
-/

namespace CallScribe

/-- A JSON value. -/
inductive Json
  | null
  | bool (b : Bool)
  | int (n : Int)
  | real (d : Decimal)
  | string (s : String)
  | array (items : List Json)
  | object (fields : List (String × Json))
deriving Repr, BEq, Inhabited

/-- Key-value lists in ascending order of keys. -/
abbrev Fields (α : Type) := List (String × α)

namespace Fields

def get? {α : Type} (key : String) : Fields α → Option α
  | [] => none
  | (k, v) :: rest => if k = key then some v else get? key rest

/-- Puts a value in its place, instead of the one that the key had. -/
def insert {α : Type} (key : String) (value : α) : Fields α → Fields α
  | [] => [(key, value)]
  | (k, v) :: rest =>
    if k = key then (key, value) :: rest
    else if key < k then (key, value) :: (k, v) :: rest
    else (k, v) :: insert key value rest

/-- Puts members in order; of two with one key the later counts. -/
def ofList {α : Type} (members : List (String × α)) : Fields α :=
  members.foldl (fun fs m => fs.insert m.1 m.2) []

def contains {α : Type} (key : String) (fs : Fields α) : Bool := (fs.get? key).isSome

end Fields

namespace Json

/-- An object from members in any order. -/
def ofFields (members : List (String × Json)) : Json := .object (Fields.ofList members)

mutual

/-- The value with the members of every object in order. -/
def ordered : Json → Json
  | .null => .null
  | .bool b => .bool b
  | .int n => .int n
  | .real d => .real d
  | .string s => .string s
  | .array items => .array (orderedItems items)
  | .object fields => ofFields (orderedFields fields)

def orderedItems : List Json → List Json
  | [] => []
  | v :: rest => ordered v :: orderedItems rest

def orderedFields : List (String × Json) → List (String × Json)
  | [] => []
  | (k, v) :: rest => (k, ordered v) :: orderedFields rest

end

def isNull : Json → Bool
  | .null => true
  | _ => false

/-- The text or null. -/
def ofString? : Option String → Json
  | some s => .string s
  | none => .null

def asString? : Json → Option String
  | .string s => some s
  | _ => none

/-- A member of an object. -/
def get? (key : String) : Json → Option Json
  | .object fs => Fields.get? key fs
  | _ => none

/-- A step of a path: a key of an object, or the number of an array's element in its decimal
text without leading zeros. -/
def step? (key : String) : Json → Option Json
  | .object fs => Fields.get? key fs
  | .array items =>
    match key.toNat? with
    | some n => if Decimal.digitChars n = key.toList then items[n]? else none
    | none => none
  | _ => none

/-- The value that a path leads to. -/
def at? (v : Json) : List String → Option Json
  | [] => some v
  | key :: path => (v.step? key).bind fun w => w.at? path

/-- The number, if it is an integer from 0 to 2^64 - 1. -/
def asNatural? : Json → Option Nat
  | .int n => if 0 ≤ n && n < pow2 64 then some n.toNat else none
  | _ => none

end Json
end CallScribe
