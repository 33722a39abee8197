import CallScribe.Proofs.Redaction.Stretches

/-!
# CallScribe.Proofs.Redaction.Clean

What redaction leaves is clean, and clean texts are left alone.

* `Redactor.Clean`: no family of the redactor recognises anything in a text.
* `Family.stretches_quiet`: the stretches that several passes leave have no match of any of the
  families, whichever pass came last.
* `Redactor.redact_clean`, `Redactor.redact_of_clean`: the redactor's output is clean, and what is
  clean stays as it is.
-/

namespace CallScribe

namespace Family

variable {α : Type} {char : α → Char}

theorem uncut_quiet {f : Family} (hf : f ∈ builtin) {xs g : List α} (hg : g ∈ f.uncut char xs) :
    f.occursIn (g.map char) = false :=
  (steady hf).gapsFrom_quiet_self (parts hf hf) (lead_quiet hf) hg

theorem uncut_stays_quiet {f f' : Family} (hf : f ∈ builtin) (hf' : f' ∈ builtin)
    {xs g : List α} (h : f.occursIn (xs.map char) = false) (hg : g ∈ f'.uncut char xs) :
    f.occursIn (g.map char) = false :=
  (steady hf').gapsFrom_quiet_other (steady hf) (parts hf' hf) h hg

theorem stretches_stay_quiet {f : Family} (hf : f ∈ builtin) {fs : List Family}
    (hfs : fs ⊆ builtin) {gs : List (List α)} (h : ∀ g ∈ gs, f.occursIn (g.map char) = false) :
    ∀ g ∈ stretches fs char gs, f.occursIn (g.map char) = false := by
  induction fs generalizing gs with
  | nil => exact h
  | cons f' fs ih =>
    obtain ⟨hf', hfs⟩ := List.cons_subset.mp hfs
    refine ih hfs fun g hg => ?_
    obtain ⟨g', hg', hg⟩ := List.mem_flatMap.mp hg
    exact uncut_stays_quiet hf hf' (h g' hg') hg

/-- A pass leaves nothing of its own family, and no later pass brings anything of it back. -/
theorem stretches_quiet {fs : List Family} (hfs : fs ⊆ builtin) {f : Family} (hf : f ∈ fs)
    (gs : List (List α)) : ∀ g ∈ stretches fs char gs, f.occursIn (g.map char) = false := by
  induction fs generalizing gs with
  | nil => cases hf
  | cons f' fs ih =>
    obtain ⟨hf', hfs'⟩ := List.cons_subset.mp hfs
    rcases List.mem_cons.mp hf with rfl | hf
    · rw [stretches_cons]
      have hfirst : ∀ g ∈ gs.flatMap (f.uncut char), f.occursIn (g.map char) = false := by
        intro g hg
        obtain ⟨g', _, hg⟩ := List.mem_flatMap.mp hg
        exact uncut_quiet hf' hg
      exact stretches_stay_quiet hf' hfs' hfirst
    · exact ih hfs' hf _

theorem occursIn_marker {f : Family} (hf : f ∈ builtin) : f.occursIn markerName = false := by
  revert f
  decide

theorem occursIn_intercalate {f : Family} (hf : f ∈ builtin) {gs : List (List Char)}
    (h : ∀ g ∈ gs, f.occursIn g = false) : f.occursIn (marker.intercalate gs) = false := by
  induction gs with
  | nil => exact (steady hf).occursAfter_nil none
  | cons g gs ih =>
    have hg := h g List.mem_cons_self
    have hgs := ih fun g' hg' => h g' (List.mem_cons_of_mem _ hg')
    by_cases hn : gs = []
    · rw [hn, List.intercalate_singleton]
      exact hg
    · have hparts : marker.intercalate (g :: gs) =
          g ++ '[' :: (markerName ++ ']' :: marker.intercalate gs) := by
        rw [List.intercalate_cons_of_ne_nil hn, marker_eq]
        simp
      rw [hparts]
      exact occursAfter_barrier hf (by decide) hg
        (occursAfter_barrier hf (by decide) (occursIn_marker hf) hgs)

end Family

namespace Redactor

/-- No family of the redactor recognises anything in the text. -/
def Clean (r : Redactor) (text : List Char) : Prop := ∀ f ∈ r.families, f.occursIn text = false

instance (r : Redactor) (text : List Char) : Decidable (r.Clean text) :=
  inferInstanceAs (Decidable (∀ f ∈ r.families, f.occursIn text = false))

theorem redactChars_eq_intercalate (text : List Char) : builtin.redactChars text =
    marker.intercalate (Family.stretches Family.builtin id [text]) := by
  rw [← Family.rewriteAll_builtin,
    ← Family.rewriteAll_intercalate (List.Subset.refl _) (List.map_id marker),
    List.intercalate_singleton]

theorem redactChars_clean (text : List Char) : builtin.Clean (builtin.redactChars text) := by
  intro f hf
  rw [redactChars_eq_intercalate]
  refine Family.occursIn_intercalate hf fun g hg => ?_
  have := Family.stretches_quiet (List.Subset.refl _) hf [text] g hg
  rwa [List.map_id] at this

theorem maskAll_of_quiet {f : Family} (hf : f ∈ Family.builtin) {text : List Char}
    (h : f.occursIn text = false) : f.maskAll text = text := by
  rw [Family.occursIn, Pattern.occursIn, (Family.steady hf).occursAfter_eq_false_iff] at h
  rw [Family.maskAll, Family.edits, Pattern.edits, h, Edit.run_replicate_keep]

theorem redactChars_of_clean {text : List Char} (h : builtin.Clean text) :
    builtin.redactChars text = text := by
  have hfold : ∀ fs : List Family, (∀ f ∈ fs, f.maskAll text = text) →
      fs.foldl (fun t f => f.maskAll t) text = text := by
    intro fs hfs
    induction fs with
    | nil => rfl
    | cons f fs ih =>
      rw [List.foldl_cons, hfs f List.mem_cons_self]
      exact ih fun f' hf' => hfs f' (List.mem_cons_of_mem _ hf')
  exact hfold _ fun f hf => maskAll_of_quiet hf (h f hf)

theorem redact_toList (r : Redactor) (t : String) :
    (r.redact t).toList = r.redactChars t.toList := String.toList_ofList

theorem redact_clean (t : String) : builtin.Clean (builtin.redact t).toList := by
  rw [redact_toList]
  exact redactChars_clean t.toList

theorem redact_of_clean {t : String} (h : builtin.Clean t.toList) : builtin.redact t = t := by
  rw [redact, redactChars_of_clean h, String.ofList_toList]

/-- Redaction leaves no match of any built-in family, and so redacting twice is redacting once. -/
theorem builtin_redact_clean_idempotent (t : String) :
    (∀ f ∈ Family.builtin, f.occursIn (builtin.redact t).toList = false) ∧
      builtin.redact (builtin.redact t) = builtin.redact t := by
  have hclean : builtin.Clean (builtin.redact t).toList := redact_clean t
  exact ⟨hclean, redact_of_clean hclean⟩

end Redactor
end CallScribe
