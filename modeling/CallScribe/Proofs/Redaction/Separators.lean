import CallScribe.Proofs.Pattern.Greedy
import CallScribe.Proofs.Redaction.Clean

/-!
# CallScribe.Proofs.Redaction.Separators

Redaction of texts that consist of fields.

* `isSeparator`: the ASCII characters that no built-in family can read and that are no word
  characters; `isBarrier_iff_isSeparator` says that there are no others.
* `Redactor.redactChars_fields`: a text of fields is redacted field by field.
* `Redactor.redact_separated`: what is recognised on one side of a separator does not depend on
  the other side.
-/

namespace CallScribe

/-- ASCII characters that are no word characters, no white space, no quotes, and none of the marks
that a secret or the name in front of it may contain. -/
def isSeparator (c : Char) : Bool :=
  c.toNat < 128 && !c.isAlphanum && !isBlank c &&
    !(['_', '"', '\x27', '.', '~', '+', '/', '*', '-', '=', ':'].contains c)

theorem isBarrier_iff_isSeparator {c : Char} (hc : c.toNat < 128) :
    Family.isBarrier c = isSeparator c :=
  holds_of_ascii (P := fun c => Family.isBarrier c = isSeparator c) (by decide +kernel) hc

theorem isBarrier_of_isSeparator {c : Char} (hc : isSeparator c = true) :
    Family.isBarrier c = true := by
  have hascii : c.toNat < 128 := by
    simp only [isSeparator, Bool.and_eq_true, decide_eq_true_eq] at hc
    exact hc.1.1.1
  rw [isBarrier_iff_isSeparator hascii, hc]

namespace Redactor

/-- A text of fields with a separator between each two is redacted field by field. -/
theorem redactChars_fields {c : Char} (hc : isSeparator c = true) (fields : List (List Char)) :
    builtin.redactChars ([c].intercalate fields) =
      [c].intercalate (fields.map builtin.redactChars) := by
  induction fields with
  | nil =>
    rw [List.map_nil, List.intercalate_nil]
    decide
  | cons u fields ih =>
    by_cases hn : fields = []
    · simp [hn]
    · have hn' : fields.map builtin.redactChars ≠ [] := by simpa using hn
      rw [List.map_cons, List.intercalate_cons_of_ne_nil hn, List.intercalate_cons_of_ne_nil hn',
        List.append_assoc, List.append_assoc, List.singleton_append, List.singleton_append,
        redactChars_barrier (isBarrier_of_isSeparator hc), ih]

/-- The two sides of a separator are redacted like two texts, and every family finds on each side
what it finds there alone. -/
theorem redact_separated {c : Char} (hc : isSeparator c = true) (a b : String) :
    builtin.redact (a ++ String.singleton c ++ b) =
        builtin.redact a ++ String.singleton c ++ builtin.redact b ∧
      ∀ f ∈ Family.builtin, f.edits (a ++ String.singleton c ++ b).toList =
        f.edits a.toList ++ .keep 1 :: f.edits b.toList := by
  have hbarrier := isBarrier_of_isSeparator hc
  have hchars : ∀ s t : String, (s ++ String.singleton c ++ t).toList =
      s.toList ++ c :: t.toList := by
    intro s t
    simp
  refine ⟨String.toList_inj.mp ?_, fun f hf => ?_⟩
  · rw [redact_toList, hchars, hchars, redactChars_barrier hbarrier, redact_toList, redact_toList]
  · rw [hchars]
    exact Family.scan_shut hf (Family.shuts_of_isBarrier hf hbarrier) none a.toList b.toList

/-- With a blank in place of the semicolon the name of the credential would be taken for a token. -/
theorem redact_separated_bearer :
    isSeparator ';' = true ∧ builtin.redact "Bearer;password=0123456789abcdef" =
      "Bearer;password=[REDACTED_API_KEY]" := by
  have hc : isSeparator ';' = true := by decide
  obtain ⟨hredact, -⟩ := redact_separated hc "Bearer" "password=0123456789abcdef"
  have ha : builtin.redact "Bearer" = "Bearer" := by decide +kernel
  have hb : builtin.redact "password=0123456789abcdef" = "password=[REDACTED_API_KEY]" := by
    decide +kernel
  rw [ha, hb] at hredact
  exact ⟨hc, hredact⟩

end Redactor
end CallScribe
