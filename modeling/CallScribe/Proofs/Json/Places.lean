import CallScribe.Json.Basic

/-!
# CallScribe.Proofs.Json.Places

The places within a value. A path says for every level which of the parts it takes; what it leads
to contains exactly the places to which it can be continued.

* `Json.parts`: the elements of an array, or the members of an object with their keys.
* `Json.within?`: the part that a path leads to.
* `Json.frame`: a value apart from its parts.
-/

namespace CallScribe
namespace Json

/-- The parts of a value, each with its key if it is a member of an object. -/
def parts : Json → List (Option String × Json)
  | .array items => items.map fun v => (none, v)
  | .object fields => fields.map fun f => (some f.1, f.2)
  | .null | .bool _ | .int _ | .real _ | .string _ => []

/-- The part of a value that a path leads to. -/
def within? (v : Json) : List Nat → Option Json
  | [] => some v
  | i :: path => v.parts[i]?.bind fun part => part.2.within? path

/-- What there is of a value apart from its parts. -/
inductive Frame
  | null
  | bool (b : Bool)
  | int (n : Int)
  | real (d : Decimal)
  | string (s : String)
  | array (size : Nat)
  | object (keys : List String)

def frame : Json → Frame
  | .null => .null
  | .bool b => .bool b
  | .int n => .int n
  | .real d => .real d
  | .string s => .string s
  | .array items => .array items.length
  | .object fields => .object (fields.map Prod.fst)

theorem within?_append (v : Json) (p q : List Nat) :
    v.within? (p ++ q) = (v.within? p).bind fun w => w.within? q := by
  induction p generalizing v with
  | nil => rfl
  | cons i p ih =>
    rw [List.cons_append, within?, within?, Option.bind_assoc]
    congr 1
    funext part
    exact ih part.2

end Json
end CallScribe
