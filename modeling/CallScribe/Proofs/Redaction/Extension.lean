import CallScribe.Pattern.Compiler
import CallScribe.Proofs.Config.Validation
import CallScribe.Proofs.Except
import CallScribe.Proofs.Pattern.Extent
import CallScribe.Proofs.Redaction.Clean
import CallScribe.Proofs.Redaction.Coverage

/-!
# CallScribe.Proofs.Redaction.Extension

Redactors with families of any pattern behind the built-in ones.

* `Edit.positions_run_sublist`: a pass brings no character back and keeps the order of those that
  it copies, whatever its edits are.
* `Redactor.copied_append_sublist`: more passes copy less.
* `Redactor.build_extends`: what configured families do to a text that the built-in ones redact.
-/

namespace CallScribe

namespace Edit

theorem mem_run {α : Type} {mark xs : List α} {es : List Edit} {x : α}
    (hx : x ∈ run mark es xs) : x ∈ mark ∨ x ∈ xs := by
  induction es generalizing xs with
  | nil => exact .inr hx
  | cons e es ih =>
    cases e with
    | keep n =>
      rcases List.mem_append.mp hx with hx | hx
      · exact .inr (List.mem_of_mem_take hx)
      · exact (ih hx).imp_right List.mem_of_mem_drop
    | drop n => exact (ih hx).imp_right List.mem_of_mem_drop
    | mask n =>
      rcases List.mem_append.mp hx with hx | hx
      · exact .inl hx
      · exact (ih hx).imp_right List.mem_of_mem_drop

end Edit

theorem positions_append (xs ys : List (Char × Option Nat)) :
    positions (xs ++ ys) = positions xs ++ positions ys := List.filterMap_append

theorem positions_unnumbered : positions unnumbered = [] := by decide

/-- Edits take every element from behind those that they took before. -/
theorem Edit.positions_run_sublist (es : List Edit) (xs : List (Char × Option Nat)) :
    (positions (run unnumbered es xs)).Sublist (positions xs) := by
  induction es generalizing xs with
  | nil => exact .refl _
  | cons e es ih =>
    have hrest : ∀ n, (positions (run unnumbered es (xs.drop n))).Sublist (positions xs) :=
      fun n => (ih _).trans ((List.drop_sublist n xs).filterMap _)
    cases e with
    | keep n =>
      have hsplit : positions xs = positions (xs.take n) ++ positions (xs.drop n) := by
        rw [← positions_append, List.take_append_drop]
      rw [run, positions_append, hsplit]
      exact (List.Sublist.refl _).append (ih _)
    | drop n => exact hrest n
    | mask n =>
      rw [run, positions_append, positions_unnumbered, List.nil_append]
      exact hrest n

namespace Family

theorem mem_rewriteAll {α : Type} {char : α → Char} {mark xs : List α} {fs : List Family} {x : α}
    (hx : x ∈ rewriteAll fs char mark xs) : x ∈ mark ∨ x ∈ xs := by
  induction fs generalizing xs with
  | nil => exact .inr hx
  | cons f fs ih =>
    rcases ih hx with hx | hx
    · exact .inl hx
    · exact Edit.mem_run hx

theorem positions_rewriteAll_sublist (fs : List Family) (xs : List (Char × Option Nat)) :
    (positions (rewriteAll fs Prod.fst unnumbered xs)).Sublist (positions xs) := by
  induction fs generalizing xs with
  | nil => exact .refl _
  | cons f fs ih => exact (ih _).trans (Edit.positions_run_sublist _ xs)

end Family

namespace Redactor

theorem redactChars_append (fs gs : List Family) (text : List Char) :
    (Redactor.mk (fs ++ gs)).redactChars text =
      (Redactor.mk gs).redactChars ((Redactor.mk fs).redactChars text) := List.foldl_append

theorem redact_append (fs gs : List Family) (t : String) :
    (Redactor.mk (fs ++ gs)).redact t = (Redactor.mk gs).redact ((Redactor.mk fs).redact t) := by
  rw [redact, redact, redact_toList, redactChars_append]

/-- More passes copy less. -/
theorem copied_append_sublist (fs gs : List Family) (text : List Char) :
    ((Redactor.mk (fs ++ gs)).copied text).Sublist ((Redactor.mk fs).copied text) := by
  have hsplit : (Redactor.mk (fs ++ gs)).trace (numbered text) =
      (Redactor.mk gs).trace ((Redactor.mk fs).trace (numbered text)) := List.foldl_append
  rw [copied, hsplit]
  exact Family.positions_rewriteAll_sublist gs _

theorem copied_pairwise (r : Redactor) (text : List Char) :
    (r.copied text).Pairwise (· < ·) := by
  have hall : (positions (numbered text)).Pairwise (· < ·) := by
    rw [positions_numbered, List.zipIdx_map_snd]
    exact List.pairwise_lt_range'
  exact hall.sublist (Family.positions_rewriteAll_sublist r.families _)

theorem build_eq_ok [PatternCompiler] {entries : List FamilyEntry} {fs : List Family}
    (h : readEntries entries = .ok fs) (withBuiltin : Bool) :
    build entries withBuiltin = .ok ⟨(if withBuiltin then Family.builtin else []) ++ fs⟩ := by
  rw [build, h]

/-- Configured families whose patterns compile, by whatever compiler and to whatever patterns, only
add protection. With them the redactor does what the families alone do to the text that the built-in
ones leave. Every character of its result is one of a marker or a copy of one character of the text,
the copies stand in their order, and no character is copied that the built-in families do not copy.
Every pass tells of each character once what happens to it, so that a lead never reaches beyond its
match. -/
theorem build_extends [PatternCompiler] {entries : List FamilyEntry}
    (h : ∀ e ∈ entries, e.Compiles) :
    ∃ r extras, build entries true = .ok r ∧ build entries false = .ok extras ∧
      (∀ f ∈ r.families, ∀ cs, Edit.widths (f.edits cs) = cs.length) ∧
      ∀ t : String, r.redact t = extras.redact (builtin.redact t) ∧
        (r.trace (numbered t.toList)).map Prod.fst = (r.redact t).toList ∧
        (∀ x ∈ r.trace (numbered t.toList), x ∈ unnumbered ∨ x ∈ numbered t.toList) ∧
        (r.copied t.toList).Pairwise (· < ·) ∧ r.copied t.toList ⊆ builtin.copied t.toList := by
  obtain ⟨fs, hfs⟩ : ∃ fs, readEntries entries = .ok fs := by
    rcases readEntries_cases entries with ⟨fs, hfs, -⟩ | ⟨before, e, reason, -, hfirst⟩
    · exact ⟨fs, hfs⟩
    · obtain ⟨after, hsplit⟩ := hfirst.split
      obtain ⟨p, hp⟩ := h e (hsplit ▸ List.mem_append_right _ List.mem_cons_self)
      rw [hfirst.fails] at hp
      cases hp
  refine ⟨⟨Family.builtin ++ fs⟩, ⟨fs⟩, build_eq_ok hfs true, build_eq_ok hfs false,
    fun f _ => f.pattern.widths_edits, fun t => ?_⟩
  refine ⟨redact_append _ _ t, ?_, fun x hx => Family.mem_rewriteAll hx, copied_pairwise _ _,
    (copied_append_sublist _ _ _).subset⟩
  rw [trace_chars, redact_toList]

/-- A pattern that can match nothing, one that keeps the middle of its match, and one that matches
within the marker. -/
def oddEntries : List FamilyEntry :=
  [⟨"digits", "[0-9]*"⟩, ⟨"user", "user=(?P<prefix>[a-z])[a-z]*"⟩, ⟨"marker", "REDACTED"⟩]

theorem oddEntries_extend : (∀ e ∈ oddEntries, e.Compiles) ∧
    ∃ r extras, build oddEntries true = .ok r ∧ build oddEntries false = .ok extras ∧
      r.redact "user=ann sk-12345678" = extras.redact (builtin.redact "user=ann sk-12345678") := by
  have hcompile : ∀ e ∈ oddEntries, e.Compiles := by
    intro e he
    refine exists_ok_of_isOk ?_
    revert e
    decide +kernel
  obtain ⟨r, extras, hr, hextras, -, hall⟩ := build_extends hcompile
  exact ⟨hcompile, r, extras, hr, hextras, (hall _).1⟩

end Redactor
end CallScribe
