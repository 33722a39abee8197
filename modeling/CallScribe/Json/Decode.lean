import CallScribe.Json.Basic

/-!
# CallScribe.Json.Decode

Reading typed values from JSON values.

* `Decode.bool`, `Decode.natural`, `Decode.string`, `Decode.optional`, `Decode.list`,
  `Decode.object`: single values.
* `Decode.variant`: one of a list of names, alone or as the only key of an object.
* `Decode.record`: the fields of a record, by name from an object or by position from an array.
* `Decode.field`: one field, with the default that it takes when it is not there.
-/

namespace CallScribe
namespace Decode

def bool : Json → Option Bool
  | .bool b => some b
  | _ => none

/-- An integer from 0 to 2^64 - 1. -/
def natural (v : Json) : Option Nat := v.asNatural?

def string (v : Json) : Option String := v.asString?

/-- Null stands for absence. -/
def optional {α : Type} (read : Json → Option α) : Json → Option (Option α)
  | .null => some none
  | v => (read v).map some

/-- Reads every element. -/
def all {α : Type} (read : Json → Option α) : List Json → Option (List α)
  | [] => some []
  | v :: rest =>
    match read v with
    | none => none
    | some x => (all read rest).map (x :: ·)

def list {α : Type} (read : Json → Option α) : Json → Option (List α)
  | .array items => all read items
  | _ => none

def object (v : Json) : Option (Fields Json) :=
  match v.ordered with
  | .object fs => some fs
  | _ => none

/-- Any value. -/
def value (v : Json) : Option Json := some v.ordered

/-- One of several names: as a string, or as the only key of an object whose value says nothing. -/
def variant {α : Type} (isUnit : Json → Bool) (names : List (String × α)) : Json → Option α
  | .string s => names.lookup s
  | .object [(k, v)] => if isUnit v then names.lookup k else none
  | _ => none

/-- Whether more than one member has the key. -/
def repeated (fs : List (String × Json)) (key : String) : Bool := 1 < fs.countP (·.1 = key)

/-- The fields of a record in the order of `keys`. An object has each at most once, and may have
other members; an array has no more elements than there are keys. -/
def record (keys : List String) : Json → Option (List (Option Json))
  | .object fs =>
    if keys.any (repeated fs) then none else some (keys.map fun k => Fields.get? k fs)
  | .array items =>
    if items.length ≤ keys.length then
      some (items.map some ++ List.replicate (keys.length - items.length) none)
    else none
  | _ => none

/-- A field; one that is not there takes the default, if it has one. -/
def field {α : Type} (default : Option α) (read : Json → Option α) : Option Json → Option α
  | none => default
  | some v => read v

end Decode
end CallScribe
