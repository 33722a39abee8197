import CallScribe.Proofs.Json.Printed

/-!
# CallScribe.Proofs.Json.Characters

The characters that the text of a value is made of.

* `Json.texts`: the strings and the keys of a value.
* `Json.mem_chars_iff`: a character that is neither a mark of the format nor in a number or a name
  comes from one of them.
* `Json.escapeChar_cases`: what escapes look like.
* `Json.apostrophe_mem_chars_iff`: single quotes are printed as they are.
* `Json.printable_chars`: the text of a value has no controls, whatever its strings have.
-/

namespace CallScribe
namespace Json

def textsOf (ss : List String) (ms : List (String × Json)) : List String := ss ++ ms.map Prod.fst

/-- The strings of a value and the keys of its objects. -/
def texts (v : Json) : List String := textsOf v.strings v.members

/-- The characters of numbers, of the three names, and what stands around and between values. -/
def isMark (c : Char) : Bool :=
  Decimal.numberChars.contains c || "nultrefas\"[]\x7b\x7d,:".toList.contains c

/-- Some of the texts has the character when it is printed. -/
def Brings (c : Char) (texts : List String) : Prop := ∃ s ∈ texts, c ∈ escaped s

theorem brings_textsOf_append {c : Char} {ss ss' : List String} {ms ms' : List (String × Json)} :
    Brings c (textsOf (ss ++ ss') (ms ++ ms')) ↔
      Brings c (textsOf ss ms) ∨ Brings c (textsOf ss' ms') := by
  simp only [Brings, textsOf, List.map_append, List.mem_append, or_and_right, exists_or]
  exact or_or_or_comm

theorem brings_textsOf_cons {c : Char} {k : String} {v : Json} {ss : List String}
    {ms : List (String × Json)} :
    Brings c (textsOf ss ((k, v) :: ms)) ↔ c ∈ escaped k ∨ Brings c (textsOf ss ms) := by
  simp only [Brings, textsOf, List.map_cons, List.mem_append, List.mem_cons, or_and_right,
    exists_or, exists_eq_left]
  exact or_left_comm

theorem not_brings_nil {c : Char} : ¬ Brings c [] := by simp [Brings]

section Marks

variable {c : Char} (hc : isMark c = false)
include hc

theorem ne_mark {d : Char} (hd : isMark d = true) : c ≠ d := by
  rintro rfl
  rw [hd] at hc
  cases hc

theorem not_mem_marks (cs : List Char) (h : cs.all isMark = true) : c ∉ cs :=
  fun hmem => ne_mark hc (List.all_eq_true.mp h c hmem) rfl

theorem not_mem_numeral {cs : List Char} (h : Decimal.Numeral cs) : c ∉ cs := by
  refine not_mem_marks hc cs (List.all_eq_true.mpr fun d hd => ?_)
  rw [isMark, h d hd, Bool.true_or]

theorem mem_enclosed {first last : Char} (hfirst : isMark first = true)
    (hlast : isMark last = true) {cs : List Char} : c ∈ first :: cs ++ [last] ↔ c ∈ cs := by
  simp [ne_mark hc hfirst, ne_mark hc hlast]

theorem mem_separated {sep : Char} (hsep : isMark sep = true) {u v : List Char} :
    c ∈ u ++ sep :: v ↔ c ∈ u ∨ c ∈ v := by
  simp [ne_mark hc hsep]

theorem mem_quote_iff {s : String} : c ∈ quote s ↔ c ∈ escaped s :=
  mem_enclosed hc (by decide) (by decide)

end Marks

mutual

theorem mem_chars_iff {c : Char} (hc : isMark c = false) (v : Json) :
    c ∈ v.chars ↔ Brings c v.texts := by
  cases v with
  | null => exact iff_of_false (not_mem_marks hc _ (by decide)) not_brings_nil
  | bool b => exact iff_of_false (not_mem_marks hc _ (by cases b <;> decide)) not_brings_nil
  | int n => exact iff_of_false (not_mem_numeral hc (Decimal.numeral_intChars n)) not_brings_nil
  | real d => exact iff_of_false (not_mem_numeral hc (Decimal.numeral_chars d)) not_brings_nil
  | string s => simp [chars, texts, strings, members, textsOf, Brings, mem_quote_iff hc]
  | array items =>
    exact (mem_enclosed hc (by decide) (by decide)).trans (mem_itemChars_iff hc items)
  | object fields =>
    exact (mem_enclosed hc (by decide) (by decide)).trans (mem_fieldChars_iff hc fields)

theorem mem_itemChars_iff {c : Char} (hc : isMark c = false) (vs : List Json) :
    c ∈ itemChars vs ↔ Brings c (textsOf (itemStrings vs) (itemMembers vs)) := by
  have hsep : isMark ',' = true := by decide
  cases vs with
  | nil => exact iff_of_false List.not_mem_nil not_brings_nil
  | cons v rest =>
    have hv : c ∈ v.chars ↔ Brings c (textsOf v.strings v.members) := mem_chars_iff hc v
    rw [itemStrings, itemMembers, brings_textsOf_append, ← hv, ← mem_itemChars_iff hc rest]
    cases rest with
    | nil => simp [itemChars]
    | cons w rest => exact mem_separated hc hsep

theorem mem_fieldChars_iff {c : Char} (hc : isMark c = false) (fs : List (String × Json)) :
    c ∈ fieldChars fs ↔ Brings c (textsOf (fieldStrings fs) (fieldMembers fs)) := by
  have hsep : isMark ',' = true := by decide
  have hcolon : isMark ':' = true := by decide
  cases fs with
  | nil => exact iff_of_false List.not_mem_nil not_brings_nil
  | cons f rest =>
    obtain ⟨k, v⟩ := f
    have hv : c ∈ v.chars ↔ Brings c (textsOf v.strings v.members) := mem_chars_iff hc v
    have hmember : c ∈ quote k ++ ':' :: v.chars ↔
        Brings c (textsOf v.strings ((k, v) :: v.members)) := by
      rw [mem_separated hc hcolon, mem_quote_iff hc, brings_textsOf_cons, hv]
    rw [fieldStrings, fieldMembers, brings_textsOf_append, ← hmember, ← mem_fieldChars_iff hc rest]
    cases rest with
    | nil => simp [fieldChars]
    | cons g rest => exact mem_separated hc hsep

end

/-! ## Escapes -/

/-- What stands behind the backslash of an escape. -/
def escapeLetters : List Char := "\"\\nrtbfu0123456789abcdef".toList

theorem hexChar_mem : ∀ n < 16, hexChar n ∈ escapeLetters := by decide

/-- A character is printed as it is, or as an escape. -/
theorem escapeChar_cases (c : Char) :
    (escapeChar c = [c] ∧ c ≠ '"' ∧ c ≠ '\\' ∧ 32 ≤ c.toNat) ∨
      ∃ d rest, escapeChar c = '\\' :: d :: rest ∧ d ∈ escapeLetters ∧ rest ⊆ escapeLetters := by
  have hpair : ∀ d ∈ escapeLetters, ∃ e rest, ['\\', d] = '\\' :: e :: rest ∧
      e ∈ escapeLetters ∧ rest ⊆ escapeLetters := fun d hd => ⟨d, [], rfl, hd, by simp⟩
  unfold escapeChar
  split
  · exact .inr (hpair _ (by decide))
  · split
    · exact .inr (hpair _ (by decide))
    · rename_i hquote hback
      repeat' split
      iterate 5 exact .inr (hpair _ (by decide))
      · have hhigh := hexChar_mem (c.toNat / 16) (by omega)
        have hlow := hexChar_mem (c.toNat % 16) (by omega)
        have hzero : '0' ∈ escapeLetters := by decide
        exact .inr ⟨_, _, rfl, by decide, by simp [hhigh, hlow, hzero]⟩
      · exact .inl ⟨rfl, hquote, hback, by omega⟩

theorem escapeLetters_printable : ∀ e ∈ escapeLetters, 32 ≤ e.toNat := by
  have hall : escapeLetters.all (fun e => 32 ≤ e.toNat) = true := by decide
  exact fun e he => of_decide_eq_true (List.all_eq_true.mp hall e he)

theorem escapeChar_printable (c : Char) : ∀ d ∈ escapeChar c, 32 ≤ d.toNat := by
  rcases escapeChar_cases c with ⟨hplain, -, -, hc⟩ | ⟨d, rest, hescape, hd, hrest⟩
  · rw [hplain, List.forall_mem_singleton]
    exact hc
  · rw [hescape, List.forall_mem_cons, List.forall_mem_cons]
    exact ⟨by decide, escapeLetters_printable d hd,
      fun e he => escapeLetters_printable e (hrest he)⟩

theorem apostrophe_mem_escapeChar {c : Char} : '\'' ∈ escapeChar c ↔ c = '\'' := by
  constructor
  · intro h
    rcases escapeChar_cases c with ⟨hplain, -⟩ | ⟨d, rest, hescape, hd, hrest⟩
    · rw [hplain] at h
      exact (List.mem_singleton.mp h).symm
    · have hletter : '\'' ∈ '\\' :: escapeLetters := by
        rw [hescape] at h
        exact List.cons_subset_cons _ (List.cons_subset.mpr ⟨hd, hrest⟩) h
      exact absurd hletter (by decide)
  · rintro rfl
    decide

theorem apostrophe_mem_escaped {s : String} : '\'' ∈ escaped s ↔ '\'' ∈ s.toList := by
  simp [escaped, apostrophe_mem_escapeChar]

/-- The text of a value has a single quote if and only if one of its strings or keys has. -/
theorem apostrophe_mem_chars_iff (v : Json) : '\'' ∈ v.chars ↔ ∃ s ∈ v.texts, '\'' ∈ s.toList := by
  have hmark : isMark '\'' = false := by decide
  simp only [mem_chars_iff hmark, Brings, apostrophe_mem_escaped]

/-! ## Controls -/

theorem printable_of_isMark {c : Char} (hc : isMark c = true) : 32 ≤ c.toNat := by
  rw [isMark, Bool.or_eq_true, List.contains_iff_mem] at hc
  rcases hc with hc | hc
  · obtain ⟨r, hr, hlow, -⟩ := CharSet.exists_range_of_inRanges hc
    have hlowest : ∀ r ∈ Decimal.numberChars.ranges, 32 ≤ r.1 := by decide
    exact Nat.le_trans (hlowest r hr) hlow
  · have hall : "nultrefas\"[]\x7b\x7d,:".toList.all (fun c => 32 ≤ c.toNat) = true := by decide
    exact of_decide_eq_true (List.all_eq_true.mp hall c hc)

/-- No control gets into the text of a value as it is. -/
theorem printable_chars (v : Json) : ∀ c ∈ v.chars, 32 ≤ c.toNat := by
  intro c hc
  cases hmark : isMark c with
  | true => exact printable_of_isMark hmark
  | false =>
    obtain ⟨s, -, hs⟩ := (mem_chars_iff hmark v).mp hc
    obtain ⟨d, -, hd⟩ := List.mem_flatMap.mp hs
    exact escapeChar_printable d c hd

end Json
end CallScribe
