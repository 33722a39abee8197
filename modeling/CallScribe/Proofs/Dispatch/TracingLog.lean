import CallScribe.Dispatch.TracingLog
import CallScribe.Proofs.Dispatch.Isolation
import CallScribe.Proofs.Json.Printed
import CallScribe.Proofs.Redaction.Values

/-!
# CallScribe.Proofs.Dispatch.TracingLog

What is left to be recognised in the metadata of a log line.

* `Redactor.redactValue_members`: under a key that announces a secret there is null or the marker.
* `TracingLog.Leak`: the three ways in which the text of a redacted value shows a secret.
* `TracingLog.metadata_unchanged_iff`: redaction leaves the logged metadata unchanged if and only
  if there is none of the three.
-/

namespace CallScribe

namespace Redactor

open Json

/-- What redaction puts under a key that announces a secret. -/
def Hidden (m : String × Json) : Prop :=
  isSensitiveKey m.1 = true → m.2 = .null ∨ m.2 = .string (String.ofList marker)

mutual

theorem redactValue_members (r : Redactor) (v : Json) :
    ∀ m ∈ (r.redactValue v).members, Hidden m := by
  cases v with
  | null | bool | int | real | string => simp [redactValue, members]
  | array items => exact redactItems_members r items
  | object fields => exact redactFields_members r fields

theorem redactItems_members (r : Redactor) (vs : List Json) :
    ∀ m ∈ itemMembers (redactItems r vs), Hidden m := by
  cases vs with
  | nil => simp [redactItems, itemMembers]
  | cons v rest =>
    rw [redactItems, itemMembers, List.forall_mem_append]
    exact ⟨redactValue_members r v, redactItems_members r rest⟩

theorem redactFields_members (r : Redactor) (fs : List (String × Json)) :
    ∀ m ∈ fieldMembers (redactFields r fs), Hidden m := by
  cases fs with
  | nil => simp [redactFields, fieldMembers]
  | cons f rest =>
    obtain ⟨k, v⟩ := f
    rw [redactFields, fieldMembers, List.cons_append, List.forall_mem_cons, List.forall_mem_append]
    refine ⟨fun hkey => ?_, ?_, redactFields_members r rest⟩
    · change isSensitiveKey k = true at hkey
      simp only [hkey, Bool.true_and]
      cases v with
      | null => exact .inl rfl
      | _ => exact .inr rfl
    · split
      · simp [members]
      · exact redactValue_members r v

end

end Redactor

namespace TracingLog

open Redactor Json

/-- The text of a redacted value shows a secret. -/
inductive Leak (shown : Json) : Prop
  /-- The escape of a control character begins a word that the string does not have. -/
  | control {t : String} (ht : t ∈ shown.strings) {c : Char} (hc : c ∈ t.toList)
    (hlow : c.toNat < 32) (h : ¬ builtin.Clean (quote t))
  /-- A key shows a secret. Keys are printed as they are. -/
  | key {m : String × Json} (hm : m ∈ shown.members) (h : ¬ builtin.Clean (quote m.1))
  /-- A key ends in the name of a credential, but does not announce a secret. -/
  | member {m : String × Json} (hm : m ∈ shown.members) (hkey : isSensitiveKey m.1 = false)
    (hname : Family.EndsInName (escaped m.1)) (hvalue : Family.StartsValue m.2.chars)

theorem not_startsValue_hidden {m : String × Json} (hm : Hidden m)
    (hkey : isSensitiveKey m.1 = true) : ¬ Family.StartsValue m.2.chars := by
  rcases hm hkey with hnull | hmarker
  · rw [hnull]
    decide
  · rw [hmarker, chars, quote, String.toList_ofList]
    decide

/-- There is no other way: strings without control characters are printed clean, and null and the
marker are no values of a credential. -/
theorem partsClean_redacted_iff (v : Json) :
    PartsClean (builtin.redactValue v).strings (builtin.redactValue v).members ↔
      ¬ Leak (builtin.redactValue v) := by
  constructor
  · rintro ⟨hstrings, hmembers⟩ hleak
    cases hleak with
    | control ht hc hlow h => exact h (hstrings _ ht)
    | key hm h => exact h (hmembers _ hm).1
    | member hm hkey hname hvalue => exact (hmembers _ hm).2 ⟨hname, hvalue⟩
  · intro hleak
    refine ⟨fun t ht => ?_, fun m hm => ⟨?_, ?_⟩⟩
    · by_cases hplain : ∀ c ∈ t.toList, 32 ≤ c.toNat
      · exact clean_quote hplain (redactValue_clean v t ht)
      · simp only [not_forall, Nat.not_le] at hplain
        obtain ⟨c, hc, hlow⟩ := hplain
        exact Decidable.byContradiction fun h => hleak (.control ht hc hlow h)
    · exact Decidable.byContradiction fun h => hleak (.key hm h)
    · rintro ⟨hname, hvalue⟩
      cases hkey : isSensitiveKey m.1 with
      | true => exact not_startsValue_hidden (redactValue_members builtin v m hm) hkey hvalue
      | false => exact hleak (.member hm hkey hname hvalue)

theorem metadataText_clean_iff (p : Payload) (s : MetadataStore) :
    builtin.Clean (metadataText builtin p s).toList ↔
      ¬ Leak (builtin.redactValue (.object (p.metadata s))) := by
  have htext : ∀ v : Json, v.compact.toList = v.chars := fun _ => String.toList_ofList
  rw [← partsClean_redacted_iff, metadataText, Payload.metadata]
  cases p.params.metadata with
  | none =>
    have hnull : builtin.Clean Json.null.compact.toList := by decide
    exact iff_of_true hnull partsClean_nil
  | some h =>
    dsimp only
    rw [htext, chars_clean_iff]

/-- Redaction leaves the metadata of a log line unchanged if and only if no built-in family
recognises anything in it, which is so if and only if the redacted mapping does not leak. -/
theorem metadata_unchanged_iff (p : Payload) (s : MetadataStore) :
    (line builtin p s).fields.get? "metadata" = some (.string (metadataText builtin p s)) ∧
      (builtin.redact (metadataText builtin p s) = metadataText builtin p s ↔
        ∀ f ∈ Family.builtin, f.occursIn (metadataText builtin p s).toList = false) ∧
      ((∀ f ∈ Family.builtin, f.occursIn (metadataText builtin p s).toList = false) ↔
        ¬ Leak (builtin.redactValue (.object (p.metadata s)))) := by
  refine ⟨?_, ⟨fun h => ?_, redact_of_clean⟩, metadataText_clean_iff p s⟩
  · unfold line
    cases p.event <;> rfl
  · rw [← h]
    exact redact_clean _

/-- A token under a name that the family of assignments knows, but redaction of values does not. -/
def tokenMetadata : MetadataStore := ⟨[[("auth_token", .string "abcdefghijklmnop")]]⟩

def tokenPayload : Payload := { Dispatcher.greeting with params := { metadata := some ⟨0⟩ } }

theorem authToken_shown :
    metadataText builtin tokenPayload tokenMetadata =
        "\x7b\"auth_token\":\"abcdefghijklmnop\"\x7d" ∧
      Family.assignment.occursIn (metadataText builtin tokenPayload tokenMetadata).toList = true ∧
      builtin.redact (metadataText builtin tokenPayload tokenMetadata) ≠
        metadataText builtin tokenPayload tokenMetadata := by
  decide +kernel

end TracingLog
end CallScribe
