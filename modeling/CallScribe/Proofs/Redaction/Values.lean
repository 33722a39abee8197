import CallScribe.Proofs.Json.Strings
import CallScribe.Proofs.Redaction.Clean

/-!
# CallScribe.Proofs.Redaction.Values

Redaction of structured values.

* `Json.Clean`: no built-in family recognises anything in a string of the value.
* `Redactor.redactValue_clean`: a redacted value is clean, and so are its parts.
-/

namespace CallScribe

open Redactor

/-- No built-in family recognises anything in a string of the value. -/
def Json.Clean (v : Json) : Prop := ∀ s ∈ v.strings, builtin.Clean s.toList

instance (v : Json) : Decidable v.Clean :=
  inferInstanceAs (Decidable (∀ s ∈ v.strings, builtin.Clean s.toList))

namespace Json

theorem clean_of_strings_nil {v : Json} (h : v.strings = []) : v.Clean := by
  intro s hs
  rw [h] at hs
  cases hs

theorem clean_string {s : String} : (Json.string s).Clean ↔ builtin.Clean s.toList := by
  simp [Clean, strings]

theorem Clean.of_at? {path : List String} {v w : Json} (h : v.Clean) (hw : v.at? path = some w) :
    w.Clean := fun s hs => h s (strings_of_at? hw hs)

theorem Clean.insert {fs : Fields Json} (h : (Json.object fs).Clean) (key : String) {v : Json}
    (hv : v.Clean) : (Json.object (fs.insert key v)).Clean := by
  intro s hs
  obtain ⟨f, hf, hs⟩ := mem_fieldStrings.mp hs
  rcases Fields.mem_of_mem_insert hf with rfl | hf
  · exact hv s hs
  · exact h s (mem_fieldStrings.mpr ⟨f, hf, hs⟩)

end Json

namespace Redactor

theorem marker_clean : builtin.Clean (String.ofList marker).toList := by
  rw [String.toList_ofList]
  decide

mutual

theorem redactValue_clean (v : Json) : (builtin.redactValue v).Clean := by
  cases v with
  | null => exact Json.clean_of_strings_nil rfl
  | bool b => exact Json.clean_of_strings_nil rfl
  | int n => exact Json.clean_of_strings_nil rfl
  | real d => exact Json.clean_of_strings_nil rfl
  | string s => exact Json.clean_string.mpr (redact_clean s)
  | array items => exact redactItems_clean items
  | object fields => exact redactFields_clean fields

theorem redactItems_clean (vs : List Json) :
    ∀ s ∈ Json.itemStrings (redactItems builtin vs), builtin.Clean s.toList := by
  cases vs with
  | nil => simp [redactItems, Json.itemStrings]
  | cons v rest =>
    intro s hs
    rw [redactItems, Json.itemStrings, List.mem_append] at hs
    rcases hs with hs | hs
    · exact redactValue_clean v s hs
    · exact redactItems_clean rest s hs

theorem redactFields_clean (fs : List (String × Json)) :
    ∀ s ∈ Json.fieldStrings (redactFields builtin fs), builtin.Clean s.toList := by
  cases fs with
  | nil => simp [redactFields, Json.fieldStrings]
  | cons f rest =>
    obtain ⟨k, v⟩ := f
    intro s hs
    rw [redactFields, Json.fieldStrings, List.mem_append] at hs
    rcases hs with hs | hs
    · split at hs
      · exact Json.clean_string.mpr marker_clean s hs
      · exact redactValue_clean v s hs
    · exact redactFields_clean rest s hs

end

end Redactor
end CallScribe
