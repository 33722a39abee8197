import CallScribe.Url.Parser

/-!
# CallScribe.Proofs.Url.Path

Paths as segments and as texts.

* `Url.Plain`: segments without slashes, so that their text shows where each of them ends.
* `Url.addSegments_plain`, `Url.readPath_plain`: a path that is read consists of such segments.
* `Url.readPath_ne_nil`: there is at least one, if only an empty one.
* `Url.segmentsText_concat`: what follows the last slash is the last segment.
-/

namespace CallScribe

theorem splitChars_ne_nil (sep : Char) (cs : List Char) : splitChars sep cs ≠ [] := by
  cases cs with
  | nil => simp [splitChars]
  | cons c cs =>
    rw [splitChars]
    split
    · simp
    · split <;> simp

theorem sep_not_mem_of_mem_splitChars {sep : Char} {cs : List Char} :
    ∀ part ∈ splitChars sep cs, sep ∉ part := by
  induction cs with
  | nil => simp [splitChars]
  | cons c cs ih =>
    rw [splitChars]
    split
    · exact List.forall_mem_cons.mpr ⟨List.not_mem_nil, ih⟩
    · next hc =>
      split
      · next first others hsplit =>
        rw [hsplit] at ih
        obtain ⟨hfirst, hothers⟩ := List.forall_mem_cons.mp ih
        exact List.forall_mem_cons.mpr ⟨by simp [Ne.symm hc, hfirst], hothers⟩
      · simp [Ne.symm hc]

namespace Url

/-- No segment contains a slash. -/
def Plain (ss : List String) : Prop := ∀ s ∈ ss, '/' ∉ s.toList

theorem Plain.append {ss ts : List String} (h : Plain ss) (h' : Plain ts) : Plain (ss ++ ts) :=
  List.forall_mem_append.mpr ⟨h, h'⟩

theorem Plain.of_subset {ss ts : List String} (h : Plain ss) (hsub : ts ⊆ ss) : Plain ts :=
  fun s hs => h s (hsub hs)

theorem plain_nil : Plain [] := List.forall_mem_nil _

theorem plain_empty : Plain [""] := by simp [Plain]

/-- An escape has a percent sign and two digits. -/
theorem slash_not_mem_percentByte (b : UInt8) : '/' ∉ percentByte b := by
  have hdigit : ∀ n < 16,
      (if n < 10 then Char.ofNat (48 + n) else Char.ofNat (55 + n)) ≠ '/' := by decide
  have hhigh := hdigit (b.toNat / 16) (by have := b.toNat_lt; omega)
  have hlow := hdigit (b.toNat % 16) (Nat.mod_lt _ (by decide))
  simp only [percentByte, List.mem_cons, List.not_mem_nil, or_false, not_or]
  exact ⟨by decide, hhigh.symm, hlow.symm⟩

theorem slash_not_mem_percentEncode {set : Char → Bool} {cs : List Char} (h : '/' ∉ cs) :
    '/' ∉ percentEncode set cs := by
  unfold percentEncode percentChar
  rw [List.mem_flatMap]
  rintro ⟨c, hc, hmem⟩
  split at hmem
  · obtain ⟨b, -, hb⟩ := List.mem_flatMap.mp hmem
    exact slash_not_mem_percentByte b hb
  · rw [List.mem_singleton] at hmem
    exact h (hmem ▸ hc)

theorem shorten_subset (scheme : String) (ss : List String) : shorten scheme ss ⊆ ss := by
  unfold shorten
  split
  · split
    · exact List.Subset.refl _
    · exact List.nil_subset _
  · exact List.dropLast_subset _

section Segments

variable {scheme : String} {ss : List String} {segment : List Char}

theorem addSegment_plain (hss : Plain ss) (hsegment : '/' ∉ segment) (isLast : Bool) :
    Plain (addSegment scheme ss segment isLast) := by
  have hlast : Plain (if isLast then [""] else []) := by
    split
    · exact plain_empty
    · exact plain_nil
  unfold addSegment
  dsimp only
  split
  · exact (hss.of_subset (shorten_subset scheme ss)).append hlast
  · split
    · exact hss.append hlast
    · split
      · -- a drive letter stays, the sign behind it becomes a colon
        refine hss.append fun s hs => ?_
        rw [List.mem_singleton] at hs
        subst hs
        simp only [String.toList_ofList, List.mem_append, List.mem_singleton, not_or]
        exact ⟨fun h => hsegment (List.mem_of_mem_take h), by decide⟩
      · refine hss.append fun s hs => ?_
        rw [List.mem_singleton] at hs
        subst hs
        rw [String.toList_ofList]
        exact slash_not_mem_percentEncode hsegment

theorem addSegment_ne_nil : addSegment scheme ss segment true ≠ [] := by
  unfold addSegment
  dsimp only
  split
  · simp
  · split
    · simp
    · split <;> simp

theorem addSegments_plain (hss : Plain ss) {parts : List (List Char)}
    (hparts : ∀ part ∈ parts, '/' ∉ part) : Plain (addSegments scheme ss parts) := by
  induction parts generalizing ss with
  | nil => exact hss
  | cons part parts ih =>
    obtain ⟨hpart, hrest⟩ := List.forall_mem_cons.mp hparts
    cases parts with
    | nil => exact addSegment_plain hss hpart true
    | cons next parts => exact ih (addSegment_plain hss hpart false) hrest

/-- Whatever the last segment is, it leaves one behind. -/
theorem addSegments_ne_nil {parts : List (List Char)} (h : parts ≠ []) :
    addSegments scheme ss parts ≠ [] := by
  induction parts generalizing ss with
  | nil => exact absurd rfl h
  | cons part parts ih =>
    cases parts with
    | nil => exact addSegment_ne_nil
    | cons next parts => exact ih (List.cons_ne_nil _ _)

theorem trimFile_plain (h : Plain ss) : Plain (trimFile scheme ss) := by
  unfold trimFile
  split
  · split
    · exact plain_empty
    · exact h.of_subset (List.dropWhile_sublist _).subset
  · exact h

theorem trimFile_ne_nil (h : ss ≠ []) : trimFile scheme ss ≠ [] := by
  unfold trimFile
  split
  · split
    · simp
    · assumption
  · exact h

end Segments

theorem readPath_plain (scheme : String) (cs : List Char) : Plain (readPath scheme cs).1 :=
  trimFile_plain (addSegments_plain plain_nil sep_not_mem_of_mem_splitChars)

theorem readPath_ne_nil (scheme : String) (cs : List Char) : (readPath scheme cs).1 ≠ [] :=
  trimFile_ne_nil (addSegments_ne_nil (splitChars_ne_nil _ _))

theorem readPathAfterHost_plain (scheme : String) (cs : List Char) :
    Plain (readPathAfterHost scheme cs).1 := by
  unfold readPathAfterHost
  split
  · split
    · exact plain_empty
    · exact plain_nil
  · split
    · exact readPath_plain _ _
    · split
      · dsimp only
        split
        · exact plain_empty
        · exact plain_nil
      · exact readPath_plain _ _

theorem readPathAfterHost_ne_nil {scheme : String} (h : isSpecial scheme = true) (cs : List Char) :
    (readPathAfterHost scheme cs).1 ≠ [] := by
  unfold readPathAfterHost
  simp only [h]
  split
  · simp
  · split
    · exact readPath_ne_nil _ _
    · split
      · simp
      · exact readPath_ne_nil _ _

theorem segmentsText_append (ss ts : List String) :
    segmentsText (ss ++ ts) = segmentsText ss ++ segmentsText ts := by
  unfold segmentsText
  rw [← String.toList_inj]
  simp

/-- The last segment is what follows the last slash. -/
theorem segmentsText_concat (ss : List String) (last : String) :
    segmentsText (ss ++ [last]) = segmentsText ss ++ "/" ++ last := by
  rw [segmentsText_append, String.append_assoc]
  congr 1

end Url
end CallScribe
