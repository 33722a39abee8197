import CallScribe.Proofs.Pattern.Extent
import CallScribe.Proofs.Redaction.Families

/-!
# CallScribe.Proofs.Redaction.Stretches

A text under redaction, as stretches with markers between them.

* `Family.shuts`: a family does not read the character, and it is no word character.
  `Family.isBarrier`: this is so for every built-in family. The brackets of the marker are barriers.
* `Family.rewrite_shut`, `Family.rewrite_barrier`: a pass treats the two sides of such a character
  as two texts.
* `Family.rewrite_intercalate`: a pass over stretches joined by markers is a pass over each of the
  stretches.
* `Family.rewriteAll_intercalate`: so are several passes.

Passes run on lists whose elements have a character, `char`; `mark` is the marker in such a list.
-/

namespace CallScribe
namespace Family

open Pattern

/-- The family does not read the character, and it is no word character. -/
def shuts (f : Family) (c : Char) : Bool := !f.pattern.mayRead c && !CharSet.word.contains c

/-- No built-in family reads the character, and it is no word character. -/
def isBarrier (c : Char) : Bool :=
  (builtin.all fun f => !f.pattern.mayRead c) && !CharSet.word.contains c

theorem shuts_of_isBarrier {f : Family} (hf : f ∈ builtin) {c : Char} (hc : isBarrier c = true) :
    f.shuts c = true := by
  rw [isBarrier, Bool.and_eq_true, List.all_eq_true] at hc
  rw [shuts, Bool.and_eq_true]
  exact ⟨hc.1 f hf, hc.2⟩

theorem mayRead_shut {f : Family} {c : Char} (hc : f.shuts c = true) :
    f.pattern.mayRead c = false := by
  rw [shuts, Bool.and_eq_true] at hc
  simpa using hc.1

theorem first?_shut {f : Family} (hf : f ∈ builtin) {c : Char} (hc : f.shuts c = true)
    (cs : List Char) : f.pattern.first? (some c) cs = f.pattern.first? none cs := by
  refine first?_congr hf ?_ cs
  rw [shuts, Bool.and_eq_true] at hc
  simpa [memberAt] using hc.2

theorem scan_shut {f : Family} (hf : f ∈ builtin) {c : Char} (hc : f.shuts c = true)
    (behind : Option Char) (u v : List Char) :
    f.pattern.scan behind 0 true (u ++ c :: v) =
      f.pattern.scan behind 0 true u ++ .keep 1 :: f.pattern.scan none 0 true v := by
  have hout : c ∉ f.pattern.matchedFrom id behind (u ++ c :: v) := by
    intro hmem
    have hread := mayRead_of_mem_matched hf hmem
    rw [id, mayRead_shut hc] at hread
    cases hread
  have hsplit := (steady hf).scan_split hout
  simp only [List.map_id, id] at hsplit
  rw [hsplit, scan_congr (first?_shut hf hc v)]

/-- Nothing is recognised across such a character. -/
theorem occursAfter_shut_iff {f : Family} (hf : f ∈ builtin) {c : Char} (hc : f.shuts c = true)
    {behind : Option Char} {u v : List Char} :
    f.pattern.occursAfter behind (u ++ c :: v) = false ↔
      f.pattern.occursAfter behind u = false ∧ f.occursIn v = false := by
  constructor
  · intro h
    have hleft := (steady hf).occursAfter_append_left h
    rw [← List.singleton_append, ← List.append_assoc] at h
    have hright := occursAfter_append_right h
    rw [List.getLast?_append, List.getLast?_singleton] at hright
    exact ⟨hleft, (occursAfter_congr (first?_shut hf hc v)).symm.trans hright⟩
  · rintro ⟨hu, hv⟩
    rw [occursIn, Pattern.occursIn] at hv
    rw [(steady hf).occursAfter_eq_false_iff] at hu hv ⊢
    rw [scan_shut hf hc, hu, hv, List.length_append, List.length_cons, ← List.replicate_succ,
      List.replicate_append_replicate]

theorem occursAfter_barrier {f : Family} (hf : f ∈ builtin) {c : Char} (hc : isBarrier c = true)
    {behind : Option Char} {u v : List Char} (hu : f.pattern.occursAfter behind u = false)
    (hv : f.occursIn v = false) : f.pattern.occursAfter behind (u ++ c :: v) = false :=
  (occursAfter_shut_iff hf (shuts_of_isBarrier hf hc)).mpr ⟨hu, hv⟩

variable {α : Type} {char : α → Char} {mark : List α}

/-- One pass of a family. -/
def rewrite (f : Family) (char : α → Char) (mark xs : List α) : List α :=
  Edit.run mark (f.edits (xs.map char)) xs

theorem rewrite_id (f : Family) (cs : List Char) : f.rewrite id marker cs = f.maskAll cs := by
  rw [rewrite, maskAll, List.map_id]

theorem rewrite_shut {f : Family} (hf : f ∈ builtin) {y : α} (hy : f.shuts (char y) = true)
    (u v : List α) : f.rewrite char mark (u ++ y :: v) =
      f.rewrite char mark u ++ y :: f.rewrite char mark v := by
  have hw := f.pattern.widths_scan none true (Nat.zero_le (u.map char).length)
  rw [List.length_map] at hw
  simp only [rewrite, edits, Pattern.edits]
  rw [List.map_append, List.map_cons, scan_shut hf hy, Edit.run_append hw]
  rfl

theorem rewrite_barrier {f : Family} (hf : f ∈ builtin) {y : α}
    (hy : isBarrier (char y) = true) (u v : List α) :
    f.rewrite char mark (u ++ y :: v) =
      f.rewrite char mark u ++ y :: f.rewrite char mark v :=
  rewrite_shut hf (shuts_of_isBarrier hf hy) u v

/-- The text of the marker between its brackets. -/
def markerName : List Char := "REDACTED_API_KEY".toList

theorem marker_eq : marker = '[' :: (markerName ++ [']']) := by decide

theorem scan_markerName {f : Family} (hf : f ∈ builtin) :
    f.pattern.scan none 0 true markerName = List.replicate 16 (.keep 1) := by
  revert f
  decide

theorem parts_of_mark (hm : mark.map char = marker) :
    ∃ y n z, mark = y :: (n ++ [z]) ∧ isBarrier (char y) = true ∧ n.map char = markerName ∧
      isBarrier (char z) = true := by
  rw [marker_eq] at hm
  obtain ⟨y, m, rfl, hy, hm⟩ := List.map_eq_cons_iff.mp hm
  obtain ⟨n, e, rfl, hn, he⟩ := List.map_eq_append_iff.mp hm
  obtain ⟨z, l, rfl, hz, hl⟩ := List.map_eq_cons_iff.mp he
  rw [List.map_eq_nil_iff.mp hl]
  exact ⟨y, n, z, rfl, by rw [hy]; decide, hn, by rw [hz]; decide⟩

theorem rewrite_mark {f : Family} (hf : f ∈ builtin) (hm : mark.map char = marker)
    (u v : List α) : f.rewrite char mark (u ++ mark ++ v) =
      f.rewrite char mark u ++ mark ++ f.rewrite char mark v := by
  obtain ⟨y, n, z, hmark, hy, hn, hz⟩ := parts_of_mark hm
  have hname : f.rewrite char mark n = n := by
    rw [rewrite, edits, Pattern.edits, hn, scan_markerName hf, Edit.run_replicate_keep]
  have hparts : u ++ mark ++ v = u ++ y :: (n ++ z :: v) := by simp [hmark]
  rw [hparts, rewrite_barrier hf hy, rewrite_barrier hf hz, hname]
  simp [hmark]

/-- What a pass leaves of a stretch between its masks. -/
def uncut (f : Family) (char : α → Char) (xs : List α) : List (List α) :=
  f.pattern.gapsFrom char none xs

theorem rewrite_eq_intercalate (f : Family) (xs : List α) :
    f.rewrite char mark xs = mark.intercalate (f.uncut char xs) :=
  Edit.run_eq_intercalate mark _ xs

theorem uncut_ne_nil (f : Family) (xs : List α) : f.uncut char xs ≠ [] :=
  f.pattern.gapsFrom_ne_nil char none xs

theorem intercalate_append {gs hs : List (List α)} (hg : gs ≠ []) (hh : hs ≠ []) :
    mark.intercalate (gs ++ hs) = mark.intercalate gs ++ mark ++ mark.intercalate hs := by
  induction gs with
  | nil => exact absurd rfl hg
  | cons g gs ih =>
    by_cases hn : gs = []
    · rw [hn, List.singleton_append, List.intercalate_cons_of_ne_nil hh,
        List.intercalate_singleton]
    · rw [List.cons_append, List.intercalate_cons_of_ne_nil (by simp [hn]),
        List.intercalate_cons_of_ne_nil hn, ih hn]
      simp only [List.append_assoc]

/-- A pass over stretches joined by markers is a pass over each of the stretches. -/
theorem rewrite_intercalate {f : Family} (hf : f ∈ builtin) (hm : mark.map char = marker)
    (gs : List (List α)) : f.rewrite char mark (mark.intercalate gs) =
      mark.intercalate (gs.flatMap (f.uncut char)) := by
  induction gs with
  | nil =>
    rw [List.intercalate_nil, f.rewrite_eq_intercalate, uncut, (steady hf).gapsFrom_nil]
    rfl
  | cons g gs ih =>
    by_cases hn : gs = []
    · rw [hn, List.intercalate_singleton, List.flatMap_singleton]
      exact f.rewrite_eq_intercalate g
    · have hrest : gs.flatMap (f.uncut char) ≠ [] := by
        obtain ⟨g', gs, rfl⟩ := List.exists_cons_of_ne_nil hn
        simp [uncut_ne_nil]
      rw [List.intercalate_cons_of_ne_nil hn, rewrite_mark hf hm, ih, List.flatMap_cons,
        intercalate_append (f.uncut_ne_nil g) hrest, f.rewrite_eq_intercalate g]

/-- Several passes, one after the other. -/
def rewriteAll (fs : List Family) (char : α → Char) (mark xs : List α) : List α :=
  fs.foldl (fun xs f => f.rewrite char mark xs) xs

/-- What several passes leave of some stretches. -/
def stretches (fs : List Family) (char : α → Char) (gs : List (List α)) : List (List α) :=
  fs.foldl (fun gs f => gs.flatMap (f.uncut char)) gs

theorem stretches_cons (f : Family) (fs : List Family) (gs : List (List α)) :
    stretches (f :: fs) char gs = stretches fs char (gs.flatMap (f.uncut char)) := rfl

theorem rewriteAll_intercalate {fs : List Family} (hfs : fs ⊆ builtin)
    (hm : mark.map char = marker) (gs : List (List α)) :
    rewriteAll fs char mark (mark.intercalate gs) =
      mark.intercalate (stretches fs char gs) := by
  induction fs generalizing gs with
  | nil => rfl
  | cons f fs ih =>
    obtain ⟨hf, hfs⟩ := List.cons_subset.mp hfs
    simp only [rewriteAll, stretches, List.foldl_cons] at ih ⊢
    rw [rewrite_intercalate hf hm, ih hfs]

theorem rewriteAll_shut {fs : List Family} (hfs : fs ⊆ builtin) {y : α}
    (hy : ∀ f ∈ fs, f.shuts (char y) = true) (u v : List α) :
    rewriteAll fs char mark (u ++ y :: v) =
      rewriteAll fs char mark u ++ y :: rewriteAll fs char mark v := by
  induction fs generalizing u v with
  | nil => rfl
  | cons f fs ih =>
    obtain ⟨hf, hfs⟩ := List.cons_subset.mp hfs
    obtain ⟨hyf, hyfs⟩ := List.forall_mem_cons.mp hy
    simp only [rewriteAll, List.foldl_cons] at ih ⊢
    rw [rewrite_shut hf hyf, ih hfs hyfs]

theorem rewriteAll_barrier {fs : List Family} (hfs : fs ⊆ builtin) {y : α}
    (hy : isBarrier (char y) = true) (u v : List α) :
    rewriteAll fs char mark (u ++ y :: v) =
      rewriteAll fs char mark u ++ y :: rewriteAll fs char mark v :=
  rewriteAll_shut hfs (fun _ hf => shuts_of_isBarrier (hfs hf) hy) u v

theorem rewriteAll_builtin (cs : List Char) :
    rewriteAll builtin id marker cs = Redactor.builtin.redactChars cs := by
  simp only [rewriteAll, rewrite_id]
  rfl

end Family

/-- The built-in families together treat the two sides of a barrier as two texts. -/
theorem Redactor.redactChars_barrier {c : Char} (hc : Family.isBarrier c = true)
    (u v : List Char) : builtin.redactChars (u ++ c :: v) =
      builtin.redactChars u ++ c :: builtin.redactChars v := by
  have hc' : Family.isBarrier (id c) = true := hc
  simp only [← Family.rewriteAll_builtin]
  exact Family.rewriteAll_barrier (List.Subset.refl _) hc' u v

end CallScribe
