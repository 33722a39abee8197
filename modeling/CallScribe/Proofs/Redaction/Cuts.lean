import CallScribe.Proofs.Pattern.Greedy
import CallScribe.Proofs.Redaction.Clean

/-!
# CallScribe.Proofs.Redaction.Cuts

Redaction as cutting: what is cut out of a text, and what stays.

* `Cuts`: a text as gaps that stay and spans that give way to the marker, in turn.
* `Family.exists_cuts`: one pass cuts out the text of secrets only.
* `Cuts.refine`: the cuts of a later pass lie in the gaps that the earlier ones leave.
* `Redactor.exists_cuts`: so all passes together are such cuts of the original text.
* `Redactor.redact_cuts`: what cannot stand in a secret survives in its order, no line is lost or
  won, and a text stays as it is if and only if no family recognises anything in it.
-/

namespace CallScribe

/-- The characters of which secrets consist: ASCII letters and digits, some marks, and the two
letters beyond ASCII that differ from an ASCII letter in case only. -/
def isSecretChar (c : Char) : Bool :=
  c.isAlphanum || ['.', '_', '~', '+', '/', '*', '-', '=', '\u212a', '\u017f'].contains c

/-- White space, quotes, brackets, commas, colons and backslashes. -/
def isLayout (c : Char) : Bool :=
  isBlank c ||
    ['"', '\x27', '(', ')', '[', ']', '\x7b', '\x7d', '<', '>', ',', ':', '\\'].contains c

/-- All characters of which no secret consists. -/
def otherChars : CharSet :=
  ⟨[(0, 41), (44, 44), (58, 60), (62, 64), (91, 94), (96, 96), (123, 125), (127, 382), (384, 8489),
    (8491, 1114111)]⟩

theorem isSecretChar_of_not_other {c : Char} (h : otherChars.contains c = false) :
    isSecretChar c = true := by
  by_cases hc : c.toNat < 128
  · exact holds_of_ascii (P := fun c => otherChars.contains c = false → isSecretChar c = true)
      (by decide +kernel) hc h
  · have hmax : c.toNat ≤ 1114111 := by
      have := c.valid
      simp only [UInt32.isValidChar, Nat.isValidChar] at this
      have hval : c.toNat = c.val.toNat := rfl
      omega
    have hcode : c.toNat = 0x17f ∨ c.toNat = 0x212a := by
      simp only [otherChars, CharSet.contains, CharSet.inRanges] at h
      grind
    rcases hcode with hcode | hcode
    · have hc : c = '\u017f' := Char.toNat_inj.mp hcode
      rw [hc]
      decide
    · have hc : c = '\u212a' := Char.toNat_inj.mp hcode
      rw [hc]
      decide

theorem not_isSecretChar_of_isLayout {c : Char} (h : isLayout c = true) :
    isSecretChar c = false := by
  cases hs : isSecretChar c with
  | false => rfl
  | true =>
    have hcases : c.toNat < 128 ∨ c = '\u212a' ∨ c = '\u017f' := by
      rw [isSecretChar, Bool.or_eq_true] at hs
      rcases hs with hs | hs
      · exact .inl (toNat_of_isAlphanum hs)
      · simp only [List.contains_eq_mem, decide_eq_true_eq, List.mem_cons, List.not_mem_nil,
          or_false] at hs
        rcases hs with rfl | rfl | rfl | rfl | rfl | rfl | rfl | rfl | rfl | rfl <;> decide
    rw [← hs]
    rcases hcases with hc | rfl | rfl
    · exact holds_of_ascii (P := fun c => isLayout c = true → isSecretChar c = false)
        (by decide +kernel) hc h
    · revert h
      decide
    · revert h
      decide

/-- A text as gaps and spans, with a gap at either end. -/
inductive Cuts
  | gap (g : List Char)
  | cut (g span : List Char) (rest : Cuts)

namespace Cuts

def text : Cuts → List Char
  | gap g => g
  | cut g span rest => g ++ span ++ rest.text

/-- The text with the marker in place of every span. -/
def masked : Cuts → List Char
  | gap g => g
  | cut g _ rest => g ++ marker ++ rest.masked

def gaps : Cuts → List (List Char)
  | gap g => [g]
  | cut g _ rest => g :: rest.gaps

def spans : Cuts → List (List Char)
  | gap _ => []
  | cut _ span rest => span :: rest.spans

/-- No span is empty, and every span consists of the characters of secrets. -/
def Sound (k : Cuts) : Prop := ∀ s ∈ k.spans, s ≠ [] ∧ ∀ c ∈ s, isSecretChar c = true

/-- One more character in front. -/
def push (c : Char) : Cuts → Cuts
  | gap g => gap (c :: g)
  | cut g span rest => cut (c :: g) span rest

/-- The cuts of two texts, with a span between them. -/
def join (k : Cuts) (span : List Char) (k' : Cuts) : Cuts :=
  match k with
  | gap g => cut g span k'
  | cut g span' rest => cut g span' (rest.join span k')

theorem masked_eq_intercalate (k : Cuts) : k.masked = marker.intercalate k.gaps := by
  induction k with
  | gap g => simp [masked, gaps]
  | cut g span rest ih =>
    have hne : rest.gaps ≠ [] := by cases rest <;> exact List.cons_ne_nil _ _
    rw [masked, gaps, List.intercalate_cons_of_ne_nil hne, ih]

@[simp] theorem text_push (c : Char) (k : Cuts) : (k.push c).text = c :: k.text := by
  cases k <;> rfl

@[simp] theorem gaps_push (c : Char) (k : Cuts) :
    (k.push c).gaps = k.gaps.modifyHead (c :: ·) := by
  cases k <;> rfl

@[simp] theorem spans_push (c : Char) (k : Cuts) : (k.push c).spans = k.spans := by
  cases k <;> rfl

@[simp] theorem text_join (k : Cuts) (span : List Char) (k' : Cuts) :
    (k.join span k').text = k.text ++ span ++ k'.text := by
  induction k with
  | gap g => rfl
  | cut g span' rest ih => simp [join, text, ih]

@[simp] theorem gaps_join (k : Cuts) (span : List Char) (k' : Cuts) :
    (k.join span k').gaps = k.gaps ++ k'.gaps := by
  induction k with
  | gap g => rfl
  | cut g span' rest ih => simp [join, gaps, ih]

@[simp] theorem spans_join (k : Cuts) (span : List Char) (k' : Cuts) :
    (k.join span k').spans = k.spans ++ span :: k'.spans := by
  induction k with
  | gap g => rfl
  | cut g span' rest ih => simp [join, spans, ih]

theorem sound_gap (g : List Char) : (gap g).Sound := fun _ hs => by cases hs

theorem sound_cut {g span : List Char} {rest : Cuts} : (cut g span rest).Sound ↔
    (span ≠ [] ∧ ∀ c ∈ span, isSecretChar c = true) ∧ rest.Sound := List.forall_mem_cons

/-- Cuts of every gap are cuts of the whole text. -/
theorem refine {F : List Char → List (List Char)} {k : Cuts} (hk : k.Sound)
    (h : ∀ g ∈ k.gaps, ∃ k' : Cuts, k'.text = g ∧ k'.gaps = F g ∧ k'.Sound) :
    ∃ k' : Cuts, k'.text = k.text ∧ k'.gaps = k.gaps.flatMap F ∧ k'.Sound := by
  induction k with
  | gap g =>
    obtain ⟨k', htext, hgaps, hsound⟩ := h g (List.mem_singleton.mpr rfl)
    exact ⟨k', htext, by simp [gaps, hgaps], hsound⟩
  | cut g span rest ih =>
    obtain ⟨hspan, hrest⟩ := sound_cut.mp hk
    obtain ⟨hg, hgs⟩ := List.forall_mem_cons.mp h
    obtain ⟨k₁, htext₁, hgaps₁, hsound₁⟩ := hg
    obtain ⟨k₂, htext₂, hgaps₂, hsound₂⟩ := ih hrest hgs
    refine ⟨k₁.join span k₂, by simp [text, htext₁, htext₂], by simp [gaps, hgaps₁, hgaps₂], ?_⟩
    intro s hs
    rw [spans_join, List.mem_append, List.mem_cons] at hs
    rcases hs with hs | rfl | hs
    · exact hsound₁ s hs
    · exact hspan
    · exact hsound₂ s hs

/-! ## What survives -/

section Survival

variable {k : Cuts} {keep : Char → Bool}

theorem filter_span (hkeep : ∀ c, keep c = true → isSecretChar c = false) {s : List Char}
    (hs : ∀ c ∈ s, isSecretChar c = true) : s.filter keep = [] := by
  rw [List.filter_eq_nil_iff]
  intro c hc hkept
  have hsecret := hs c hc
  rw [hkeep c hkept] at hsecret
  cases hsecret

/-- What cannot stand in a secret survives in its order. -/
theorem sublist_masked (hk : k.Sound) (hkeep : ∀ c, keep c = true → isSecretChar c = false) :
    (k.text.filter keep).Sublist k.masked := by
  induction k with
  | gap g => exact List.filter_sublist
  | cut g span rest ih =>
    obtain ⟨⟨-, hspan⟩, hrest⟩ := sound_cut.mp hk
    rw [text, masked, List.filter_append, List.filter_append, filter_span hkeep hspan,
      List.append_nil]
    exact (List.filter_sublist.trans (List.sublist_append_left g marker)).append (ih hrest)

/-- Of what cannot stand in the marker either, nothing is added. -/
theorem filter_masked (hk : k.Sound) (hkeep : ∀ c, keep c = true → isSecretChar c = false)
    (hmark : ∀ c ∈ marker, keep c = false) : k.masked.filter keep = k.text.filter keep := by
  have hmarker : marker.filter keep = [] :=
    List.filter_eq_nil_iff.mpr fun c hc => by simp [hmark c hc]
  induction k with
  | gap g => rfl
  | cut g span rest ih =>
    obtain ⟨⟨-, hspan⟩, hrest⟩ := sound_cut.mp hk
    simp only [text, masked, List.filter_append, filter_span hkeep hspan, hmarker, ih hrest]

end Survival

end Cuts

/-! ## Lines -/

/-- The number of lines. A line ends with a line break, which the last one may do without. -/
def lineCount : List Char → Nat
  | [] => 0
  | c :: rest => if rest = [] then 1 else (if c = '\n' then 1 else 0) + lineCount rest

theorem lineCount_eq_zero {cs : List Char} : lineCount cs = 0 ↔ cs = [] := by
  induction cs with
  | nil => simp [lineCount]
  | cons c cs ih =>
    rw [lineCount]
    split
    · simp
    · rename_i hne
      have hpos := mt ih.mp hne
      simp only [reduceCtorEq, iff_false]
      omega

theorem lineCount_cons (c : Char) (cs : List Char) : lineCount (c :: cs) =
    if lineCount cs = 0 then 1 else (if c = '\n' then 1 else 0) + lineCount cs := by
  simp only [lineCount_eq_zero]
  rw [lineCount]

theorem lineCount_append_congr (g : List Char) {xs ys : List Char}
    (h : lineCount xs = lineCount ys) : lineCount (g ++ xs) = lineCount (g ++ ys) := by
  induction g with
  | nil => exact h
  | cons c g ih => rw [List.cons_append, List.cons_append, lineCount_cons, lineCount_cons, ih]

/-- Text without a line break begins a line or lengthens one. -/
theorem lineCount_unbroken {s : List Char} (hne : s ≠ []) (hs : '\n' ∉ s) (xs : List Char) :
    lineCount (s ++ xs) = max 1 (lineCount xs) := by
  induction s with
  | nil => exact absurd rfl hne
  | cons c s ih =>
    obtain ⟨hc, hs⟩ := not_or.mp (mt List.mem_cons.mpr hs)
    rw [List.cons_append, lineCount_cons, if_neg (Ne.symm hc)]
    by_cases hn : s = []
    · rw [hn, List.nil_append]
      split <;> omega
    · rw [ih hn hs]
      split <;> omega

theorem Cuts.lineCount_masked {k : Cuts} (hk : k.Sound) :
    lineCount k.masked = lineCount k.text := by
  induction k with
  | gap g => rfl
  | cut g span rest ih =>
    obtain ⟨⟨hne, hspan⟩, hrest⟩ := sound_cut.mp hk
    have hbreak : '\n' ∉ span := by
      intro hmem
      have hsecret := hspan _ hmem
      revert hsecret
      decide
    rw [masked, text, List.append_assoc, List.append_assoc]
    -- The marker and the span both stand within one line.
    refine lineCount_append_congr g ?_
    rw [lineCount_unbroken (by decide) (by decide), lineCount_unbroken hne hbreak, ih hrest]

/-! ## Passes -/

namespace Family

/-- Of a match, only characters of secrets are masked. -/
theorem token_of_mem {f : Family} (hf : f ∈ builtin) : ∃ edged body lead token,
    f.pattern.Shaped edged body lead token ∧ token.apart otherChars = true := by
  simp only [builtin, List.mem_cons, List.not_mem_nil, or_false] at hf
  rcases hf with rfl | rfl | rfl | rfl | rfl
  · exact ⟨_, _, _, _, anthropicAnatomy.shaped, by decide⟩
  · exact ⟨_, _, _, _, langfuseAnatomy.shaped, by decide⟩
  · exact ⟨_, _, _, _, openaiAnatomy.shaped, by decide⟩
  · exact ⟨_, _, _, _, bearerAnatomy.shaped, by decide⟩
  · exact ⟨_, _, _, _, assignmentAnatomy.shaped, by decide⟩

theorem masked_secret {f : Family} (hf : f ∈ builtin) {behind : Option Char} {w rest : List Char}
    {d : Place} (hd : f.pattern.first? behind (w ++ rest) = some d)
    (hr : Place.Reached (Place.start behind (w ++ rest)) w d) :
    w.drop d.kept ≠ [] ∧ ∀ c ∈ w.drop d.kept, isSecretChar c = true := by
  obtain ⟨edged, body, lead, token, hshaped, hother⟩ := token_of_mem hf
  obtain ⟨u, v, hr', _, hv, hne, hk, _⟩ := hshaped.parts_of_match hd
  rw [hr.unique hr', hk, List.drop_left]
  exact ⟨hne, fun c hc => isSecretChar_of_not_other (hv.not_contains hother hc)⟩

/-- A pass cuts out spans of secrets, and leaves the gaps. -/
theorem exists_cuts {f : Family} (hf : f ∈ builtin) (xs : List Char) :
    ∃ k : Cuts, k.text = xs ∧ k.gaps = f.uncut id xs ∧ k.Sound := by
  have hsteady := steady hf
  unfold uncut
  generalize (none : Option Char) = behind
  -- On the search: it is over, it passes one character, or it goes on behind a match.
  induction behind, xs using hsteady.search_induct id with
  | nil behind => exact ⟨.gap [], rfl, (hsteady.gapsFrom_nil behind).symm, Cuts.sound_gap []⟩
  | pass behind x rest h ih =>
    obtain ⟨k, rfl, hgaps, hsound⟩ := ih
    refine ⟨k.push x, k.text_push x, ?_, fun s hs => hsound s (k.spans_push x ▸ hs)⟩
    rw [k.gaps_push, hgaps, Pattern.Steady.gapsFrom_pass h]
  | hit behind w rest d h hr hw ih =>
    obtain ⟨k, rfl, hgaps, hsound⟩ := ih
    refine ⟨.cut (w.take d.kept) (w.drop d.kept) k, ?_, ?_, Cuts.sound_cut.mpr ⟨?_, hsound⟩⟩
    · rw [Cuts.text, List.take_append_drop]
    · rw [Cuts.gaps, hgaps, hsteady.gapsFrom_hit h hr hw]
    · rw [List.map_id] at h hr
      rw [List.map_id] at hr
      exact masked_secret hf h hr

theorem exists_cuts_stretches {fs : List Family} (hfs : fs ⊆ builtin) {k : Cuts} (hk : k.Sound) :
    ∃ k' : Cuts, k'.text = k.text ∧ k'.gaps = stretches fs id k.gaps ∧ k'.Sound := by
  induction fs generalizing k with
  | nil => exact ⟨k, rfl, rfl, hk⟩
  | cons f fs ih =>
    obtain ⟨hf, hfs⟩ := List.cons_subset.mp hfs
    -- A marker stops every later family, so that each of them searches gap by gap.
    obtain ⟨k', htext, hgaps, hsound⟩ := Cuts.refine hk fun g _ => exists_cuts hf g
    obtain ⟨k'', htext', hgaps', hsound'⟩ := ih hfs hsound
    exact ⟨k'', htext'.trans htext, by rw [hgaps', hgaps, stretches_cons], hsound'⟩

end Family

namespace Redactor

theorem exists_cuts (text : List Char) :
    ∃ k : Cuts, k.text = text ∧ k.masked = builtin.redactChars text ∧ k.Sound := by
  obtain ⟨k, htext, hgaps, hsound⟩ :=
    Family.exists_cuts_stretches (List.Subset.refl Family.builtin) (Cuts.sound_gap text)
  refine ⟨k, htext, ?_, hsound⟩
  rw [k.masked_eq_intercalate, hgaps, redactChars_eq_intercalate]
  rfl

/-- Redaction puts the marker in place of spans of secrets, and changes nothing else. So what
cannot stand in a secret survives in its order, with nothing but the brackets of markers between;
the number of lines stays the same; and nothing changes if and only if no family recognises
anything. -/
theorem redact_cuts (t : String) :
    (∃ k : Cuts, k.text = t.toList ∧ k.masked = (builtin.redact t).toList ∧ k.Sound) ∧
    (∀ keep : Char → Bool, (∀ c, keep c = true → isSecretChar c = false) →
      (t.toList.filter keep).Sublist (builtin.redact t).toList ∧
        ((∀ c ∈ marker, keep c = false) →
          (builtin.redact t).toList.filter keep = t.toList.filter keep)) ∧
    (∀ c, isLayout c = true → isSecretChar c = false) ∧
    lineCount (builtin.redact t).toList = lineCount t.toList ∧
    (builtin.redact t = t ↔ ∀ f ∈ Family.builtin, f.occursIn t.toList = false) := by
  obtain ⟨k, htext, hmasked, hsound⟩ := exists_cuts t.toList
  rw [← redact_toList] at hmasked
  refine ⟨⟨k, htext, hmasked, hsound⟩, fun keep hkeep => ?_, ?_, ?_, fun h => ?_, redact_of_clean⟩
  · rw [← htext, ← hmasked]
    exact ⟨Cuts.sublist_masked hsound hkeep, Cuts.filter_masked hsound hkeep⟩
  · exact fun c => not_isSecretChar_of_isLayout
  · rw [← htext, ← hmasked, Cuts.lineCount_masked hsound]
  · have hclean := redact_clean t
    rwa [h] at hclean

end Redactor
end CallScribe
