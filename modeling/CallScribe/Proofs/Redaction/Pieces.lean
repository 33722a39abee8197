import CallScribe.Json.Printer
import CallScribe.Proofs.Redaction.Members

/-!
# CallScribe.Proofs.Redaction.Pieces

What redaction leaves of a text are pieces of it, with markers between them.

* `Edit.gaps_pieces`: edits that take nothing away without a marker leave pieces of a text.
* `Redactor.LeadsFirst`: no family of a redactor keeps the middle of a match.
* `Redactor.infix_of_redactChars`: such a redactor puts no word into a text, printed as it is
  between quotes, that is not in it before, the marker and its brackets apart.
-/

namespace CallScribe

theorem infix_of_not_mem {α : Type} {w u v : List α} {x : α} (hx : x ∉ w) :
    w <:+: u ++ x :: v ↔ w <:+: u ∨ w <:+: v := by
  rw [infix_around_iff]
  refine or_congr_right (or_iff_left ?_)
  rintro ⟨a, b, rfl, -⟩
  exact hx (by simp)

namespace Edit

variable {α : Type}

/-- What is left in front of the first marker begins the text, and all else that is left is a piece
of it. -/
theorem gaps_pieces {es : List Edit} (hes : Dropless es) (xs : List α) :
    ∃ g gs, gaps es xs = g :: gs ∧ g <+: xs ∧ ∀ g' ∈ gs, g' <:+: xs := by
  induction es generalizing xs with
  | nil => exact ⟨xs, [], rfl, List.prefix_rfl, by simp⟩
  | cons e es ih =>
    have hrest : Dropless es := fun n hn => hes n (List.mem_cons_of_mem _ hn)
    cases e with
    | keep n =>
      obtain ⟨g, gs, hgaps, hg, hgs⟩ := ih hrest (xs.drop n)
      refine ⟨xs.take n ++ g, gs, by rw [gaps, hgaps]; rfl, ?_, fun g' hg' => ?_⟩
      · have hfront := (List.prefix_append_right_inj (xs.take n)).mpr hg
        rwa [List.take_append_drop] at hfront
      · exact (hgs g' hg').trans (List.drop_suffix n xs).isInfix
    | drop n =>
      obtain rfl := hes n List.mem_cons_self
      exact ih hrest xs
    | mask n =>
      obtain ⟨g, gs, hgaps, hg, hgs⟩ := ih hrest (xs.drop n)
      have hdrop := (List.drop_suffix n xs).isInfix
      refine ⟨[], g :: gs, by rw [gaps, hgaps], List.nil_prefix, ?_⟩
      exact List.forall_mem_cons.mpr
        ⟨hg.isInfix.trans hdrop, fun g' hg' => (hgs g' hg').trans hdrop⟩

theorem infix_of_mem_gaps {es : List Edit} (hes : Dropless es) {xs g : List α}
    (hg : g ∈ gaps es xs) : g <:+: xs := by
  obtain ⟨g₀, gs, hgaps, hfirst, hrest⟩ := gaps_pieces hes xs
  rw [hgaps] at hg
  rcases List.mem_cons.mp hg with rfl | hg
  · exact hfirst.isInfix
  · exact hrest g hg

end Edit

/-- The printed text of a piece is a piece of the printed text. -/
theorem infix_flatMap {α β : Type} (f : α → List β) {u v : List α} (h : u <:+: v) :
    u.flatMap f <:+: v.flatMap f := by
  obtain ⟨front, back, rfl⟩ := h
  rw [List.flatMap_append, List.flatMap_append]
  exact ⟨_, _, rfl⟩

namespace Redactor

/-- No family of the redactor has a lead that can stand elsewhere than at the beginning of a
match. -/
def LeadsFirst (r : Redactor) : Prop := ∀ f ∈ r.families, f.pattern.leadsFirst = true

instance (r : Redactor) : Decidable r.LeadsFirst :=
  inferInstanceAs (Decidable (∀ f ∈ r.families, f.pattern.leadsFirst = true))

theorem builtin_leadsFirst : builtin.LeadsFirst := by decide +kernel

theorem markerName_infix : Family.markerName <:+: marker :=
  ⟨['['], [']'], by rw [Family.marker_eq, List.append_assoc, List.singleton_append]⟩

theorem printed_marker_append (text : List Char) : (marker ++ text).flatMap Json.escapeChar =
    '[' :: (Family.markerName ++ ']' :: text.flatMap Json.escapeChar) := by
  have hname : Family.markerName.flatMap Json.escapeChar = Family.markerName := by decide
  have hopen : Json.escapeChar '[' = ['['] := by decide
  have hclose : Json.escapeChar ']' = [']'] := by decide
  simp only [Family.marker_eq, List.cons_append, List.append_assoc, List.flatMap_cons, hopen,
    List.flatMap_append, hname, List.nil_append, hclose]

section Pieces

variable {w : List Char} (hopen : '[' ∉ w) (hclose : ']' ∉ w) (hmarker : ¬ w <:+: marker)
include hopen hclose hmarker

theorem infix_of_intercalate {gs : List (List Char)}
    (h : w <:+: (marker.intercalate gs).flatMap Json.escapeChar) :
    ∃ g ∈ gs, w <:+: g.flatMap Json.escapeChar := by
  induction gs with
  | nil =>
    obtain rfl := List.infix_nil.mp h
    exact absurd List.nil_infix hmarker
  | cons g gs ih =>
    by_cases hn : gs = []
    · rw [hn, List.intercalate_singleton] at h
      exact ⟨g, List.mem_cons_self, h⟩
    · have hparts : (marker.intercalate (g :: gs)).flatMap Json.escapeChar =
          g.flatMap Json.escapeChar ++ '[' :: (Family.markerName ++
            ']' :: (marker.intercalate gs).flatMap Json.escapeChar) := by
        rw [List.intercalate_cons_of_ne_nil hn, List.append_assoc, List.flatMap_append,
          printed_marker_append]
      rw [hparts, infix_of_not_mem hopen, infix_of_not_mem hclose] at h
      rcases h with h | h | h
      · exact ⟨g, List.mem_cons_self, h⟩
      · exact absurd (h.trans markerName_infix) hmarker
      · obtain ⟨g', hg', h⟩ := ih h
        exact ⟨g', List.mem_cons_of_mem _ hg', h⟩

theorem infix_of_maskAll {f : Family} (hf : f.pattern.leadsFirst = true) {text : List Char}
    (h : w <:+: (f.maskAll text).flatMap Json.escapeChar) :
    w <:+: text.flatMap Json.escapeChar := by
  rw [Family.maskAll, Edit.run_eq_intercalate] at h
  obtain ⟨g, hg, h⟩ := infix_of_intercalate hopen hclose hmarker h
  exact h.trans (infix_flatMap _ (Edit.infix_of_mem_gaps (Pattern.dropless_edits hf text) hg))

/-- What is in the printed text after all passes was there before. -/
theorem infix_of_redactChars {r : Redactor} (hr : r.LeadsFirst) {text : List Char}
    (h : w <:+: (r.redactChars text).flatMap Json.escapeChar) :
    w <:+: text.flatMap Json.escapeChar := by
  obtain ⟨fs⟩ := r
  induction fs generalizing text with
  | nil => exact h
  | cons f fs ih =>
    obtain ⟨hf, hfs⟩ := List.forall_mem_cons.mp hr
    have hrest : w <:+: ((Redactor.mk fs).redactChars (f.maskAll text)).flatMap Json.escapeChar := h
    exact infix_of_maskAll hopen hclose hmarker hf (ih hfs hrest)

end Pieces

open Pattern in
/-- A family that keeps the middle of its match can put a word together. -/
example : redact ⟨[⟨"middle", seqAll [word "#", lead (word "b"), word "!"]⟩]⟩ "a#b!" =
    "ab[REDACTED_API_KEY]" := by decide +kernel

end Redactor
end CallScribe
