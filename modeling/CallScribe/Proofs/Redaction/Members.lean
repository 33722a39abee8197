import CallScribe.Proofs.Pattern.Spelling
import CallScribe.Proofs.Redaction.Tokens

/-!
# CallScribe.Proofs.Redaction.Members

What is recognised in a text of parts.

* `Family.Unopened`: characters at which no built-in family begins a match.
* `Family.EndsInName`, `Family.StartsValue`: what an assignment takes on either side of a colon.
* `Redactor.clean_barrier_iff`: a text is clean if and only if its parts between barriers are.
* `Redactor.clean_between_quotes`: a clean text stays clean between quotes.
* `Redactor.clean_member_iff`: the text of a key and its value, with a colon between them. Beside
  key and value only an assignment can be recognised, and it takes both properties.
-/

namespace CallScribe

/-- What occurs in a text lies on one side of a character, or across it. -/
theorem infix_around_iff {α : Type} {w u v : List α} {x : α} : w <:+: u ++ x :: v ↔
    w <:+: u ∨ w <:+: v ∨ ∃ a b, w = a ++ x :: b ∧ a <:+ u ∧ b <+: v := by
  rw [List.infix_append_iff, List.infix_cons_iff]
  constructor
  · rintro (hu | (hx | hv) | ⟨a, y, rfl, ha, hy⟩)
    · exact .inl hu
    · rcases List.prefix_cons_iff.mp hx with rfl | ⟨b, rfl, hb⟩
      · exact .inl (List.nil_infix)
      · exact .inr (.inr ⟨[], b, rfl, List.nil_suffix, hb⟩)
    · exact .inr (.inl hv)
    · rcases List.prefix_cons_iff.mp hy with rfl | ⟨b, rfl, hb⟩
      · exact .inl (by rw [List.append_nil]; exact ha.isInfix)
      · exact .inr (.inr ⟨a, b, rfl, ha, hb⟩)
  · rintro (hu | hv | ⟨a, b, rfl, ha, hb⟩)
    · exact .inl hu
    · exact .inr (.inl (.inr hv))
    · exact .inr (.inr ⟨a, x :: b, rfl, ha, List.prefix_cons_iff.mpr (.inr ⟨b, rfl, hb⟩)⟩)

/-- Where a character occurs once, it splits the text in one way. -/
theorem eq_of_split {α : Type} {x y : α} {a b A B : List α} (hA : x ∉ A) (hB : x ∉ B)
    (h : a ++ x :: b = A ++ y :: B) : a = A ∧ b = B := by
  rcases List.append_eq_append_iff.mp h with ⟨z, hz, hb⟩ | ⟨z, hz, hb⟩
  · cases z with
    | nil =>
      rw [List.nil_append, List.cons.injEq] at hb
      exact ⟨by rw [hz, List.append_nil], hb.2⟩
    | cons c z =>
      rw [List.cons_append, List.cons.injEq] at hb
      exact absurd (by rw [hz, hb.1]; simp) hA
  · cases z with
    | nil =>
      rw [List.nil_append, List.cons.injEq] at hb
      exact ⟨by rw [hz, List.append_nil], hb.2.symm⟩
    | cons c z =>
      rw [List.cons_append, List.cons.injEq] at hb
      exact absurd (by rw [hb.2]; simp) hB

theorem Pattern.Spells.not_mem {p : Pattern} {w : List Char} (hw : p.Spells w) {c : Char}
    (hc : p.mayRead c = false) : c ∉ w := by
  intro hmem
  rw [hw.reads.mayRead hmem] at hc
  cases hc

namespace Family

open Pattern

/-! ## Where no match begins -/

section Unopened

/-- No built-in family begins a match with a member of the set. -/
def Unopened (set : CharSet) : Prop :=
  ∀ f ∈ builtin, ∀ s ∈ f.pattern.opening, set.apart s = true

instance (set : CharSet) : Decidable (Unopened set) :=
  inferInstanceAs (Decidable (∀ f ∈ builtin, ∀ s ∈ f.pattern.opening, set.apart s = true))

theorem anatomy_opening {f : Family} (hf : f ∈ builtin) :
    ∃ A : Anatomy f, A.body.opening = f.pattern.opening := by
  simp only [builtin, List.mem_cons, List.not_mem_nil, or_false] at hf
  rcases hf with rfl | rfl | rfl | rfl | rfl
  · exact ⟨anthropicAnatomy, rfl⟩
  · exact ⟨langfuseAnatomy, rfl⟩
  · exact ⟨openaiAnatomy, rfl⟩
  · exact ⟨bearerAnatomy, rfl⟩
  · exact ⟨assignmentAnatomy, rfl⟩

variable {f : Family} {set : CharSet}

theorem first?_unopened (hf : f ∈ builtin) (hset : Unopened set) {c : Char}
    (hc : set.contains c = true) (behind : Option Char) (cs : List Char) :
    f.pattern.first? behind (c :: cs) = none := by
  obtain ⟨A, hA⟩ := anatomy_opening hf
  refine A.shaped.first?_none_of_opening fun s hs => ?_
  rw [hA] at hs
  exact CharSet.not_contains_of_apart (hset f hf s hs) hc

/-- Such a character at the beginning of a text can be left out. -/
theorem occursAfter_unopened (hf : f ∈ builtin) (hset : Unopened set) {c : Char}
    (hc : set.contains c = true) (behind : Option Char) (cs : List Char) :
    f.pattern.occursAfter behind (c :: cs) = f.pattern.occursAfter (some c) cs := by
  rw [occursAfter, first?_unopened hf hset hc]
  rfl

theorem occursIn_unopened (hf : f ∈ builtin) (hset : Unopened set) {cs : List Char}
    (h : ∀ c ∈ cs, set.contains c = true) : f.occursIn cs = false := by
  have hany : ∀ behind, f.pattern.occursAfter behind cs = false := by
    induction cs with
    | nil => exact (steady hf).occursAfter_nil
    | cons c cs ih =>
      obtain ⟨hc, hcs⟩ := List.forall_mem_cons.mp h
      intro behind
      rw [occursAfter_unopened hf hset hc]
      exact ih hcs _
  exact hany none

/-- A quote or a backslash. -/
def quoteOrBackslash : CharSet := ⟨[(34, 34), (92, 92)]⟩

theorem unopened_quoteOrBackslash : Unopened quoteOrBackslash := by decide

end Unopened

/-! ## Assignments -/

/-- The text ends in the name of a credential. -/
def EndsInName (cs : List Char) : Prop := ∃ n, n <:+ cs ∧ credentialName.Spells n

/-- What stands in front of the separator of an assignment. -/
def assignedName : Pattern := seqAll [credentialName, maybe quoteMark, many CharSet.blank 0]

/-- What stands behind the separator of an assignment. -/
def assignedValue : Pattern :=
  seqAll [many CharSet.blank 0, maybe quoteMark, many valueChars 16]

/-- The text starts with a value that is long enough to be a credential, behind blanks and an
opening quote if there are any. -/
def StartsValue (cs : List Char) : Prop := ∃ t, t <+: cs ∧ assignedValue.Spells t

instance (cs : List Char) : Decidable (StartsValue cs) :=
  decidable_of_iff ((assignedValue.first? none cs).isSome = true) (first?_isSome_iff rfl)

/-- An assignment across a colon is a name in front of it and a value behind it. -/
theorem assignment_spells_colon {a b : List Char} :
    assignment.pattern.Spells (a ++ ':' :: b) ↔ assignedName.Spells a ∧ assignedValue.Spells b := by
  constructor
  · rintro ⟨_, t, hw, ⟨n, _, rfl, hn, q, _, rfl, hq, s, _, rfl, hs, _, _, rfl, ⟨x, rfl, -⟩, s', q',
      rfl, hs', hq'⟩, ht⟩
    have hname : assignedName.Spells (n ++ (q ++ s)) := ⟨n, _, rfl, hn, q, s, rfl, hq, hs⟩
    have hvalue : assignedValue.Spells (s' ++ (q' ++ t)) := ⟨s', _, rfl, hs', q', t, rfl, hq', ht⟩
    have hparts : a ++ ':' :: b = (n ++ (q ++ s)) ++ x :: (s' ++ (q' ++ t)) := by
      rw [hw]
      simp
    obtain ⟨rfl, rfl⟩ := eq_of_split (hname.not_mem (by decide)) (hvalue.not_mem (by decide)) hparts
    exact ⟨hname, hvalue⟩
  · rintro ⟨⟨n, _, rfl, hn, q, s, rfl, hq, hs⟩, s', _, rfl, hs', q', t, rfl, hq', ht⟩
    exact ⟨n ++ (q ++ (s ++ ([':'] ++ (s' ++ q')))), t, by simp, ⟨n, _, rfl, hn, q, _, rfl, hq, s,
      _, rfl, hs, [':'], _, rfl, ⟨':', rfl, by decide⟩, s', q', rfl, hs', hq'⟩, ht⟩

theorem assignment_occursIn_iff {cs : List Char} :
    assignment.occursIn cs = true ↔ ∃ w, w <:+: cs ∧ assignment.pattern.Spells w :=
  occursAfter_iff rfl

theorem assignment_occursIn_colon {u v : List Char} : assignment.occursIn (u ++ ':' :: v) = true ↔
    assignment.occursIn u = true ∨ assignment.occursIn v = true ∨
      (∃ a, a <:+ u ∧ assignedName.Spells a) ∧ StartsValue v := by
  simp only [assignment_occursIn_iff, infix_around_iff]
  constructor
  · rintro ⟨w, hu | hv | ⟨a, b, rfl, ha, hb⟩, hw⟩
    · exact .inl ⟨w, hu, hw⟩
    · exact .inr (.inl ⟨w, hv, hw⟩)
    · obtain ⟨hname, hvalue⟩ := assignment_spells_colon.mp hw
      exact .inr (.inr ⟨⟨a, ha, hname⟩, b, hb, hvalue⟩)
  · rintro (⟨w, hu, hw⟩ | ⟨w, hv, hw⟩ | ⟨⟨a, ha, hname⟩, b, hb, hvalue⟩)
    · exact ⟨w, .inl hu, hw⟩
    · exact ⟨w, .inr (.inl hv), hw⟩
    · exact ⟨_, .inr (.inr ⟨a, b, rfl, ha, hb⟩), assignment_spells_colon.mpr ⟨hname, hvalue⟩⟩

/-- The name between the quotes of a key. -/
theorem assignedName_quote {cs : List Char} :
    (∃ a, a <:+ '"' :: cs ++ ['"'] ∧ assignedName.Spells a) ↔ EndsInName cs := by
  constructor
  · rintro ⟨_, hsuffix, n, _, rfl, hn, q, s, rfl, hq, hs⟩
    have hfree : '"' ∉ n := hn.not_mem (by decide)
    have hblank : '"' ∉ s := Pattern.Spells.not_mem hs (by decide)
    have hshort : q.length ≤ 1 := hq.2.2 1 rfl
    rcases List.suffix_concat_iff.mp hsuffix with hnil | ⟨t, ht, hrest⟩
    · rw [(List.append_eq_nil_iff.mp hnil).1] at hn
      exact absurd hn.reads (not_reads_nil (by decide))
    · cases q with
      | nil =>
        have hmem : '"' ∈ n ++ s := by
          rw [List.nil_append] at ht
          rw [ht]
          simp
        exact absurd hmem (by simp [hfree, hblank])
      | cons x q =>
        obtain rfl : q = [] := List.length_eq_zero_iff.mp (by simpa using hshort)
        obtain ⟨rfl, -⟩ := eq_of_split hfree hblank ht.symm
        refine ⟨t, ?_, hn⟩
        rcases List.suffix_cons_iff.mp hrest with rfl | hrest
        · exact absurd List.mem_cons_self hfree
        · exact hrest
  · rintro ⟨n, ⟨front, rfl⟩, hn⟩
    refine ⟨n ++ ['"'], ⟨'"' :: front, by simp⟩, n, ['"'], rfl, hn, ['"'], [], rfl, ?_, ?_⟩
    · exact ⟨List.forall_mem_singleton.mpr (by decide), by simp, by simp⟩
    · exact ⟨by simp, by simp, nofun⟩

/-- No assignment ends in a quote. -/
theorem assignment_spells_concat {w : List Char} : ¬ assignment.pattern.Spells (w ++ ['"']) := by
  rintro ⟨l, t, hw, -, ht⟩
  have hne : t ≠ [] := by
    rintro rfl
    exact absurd ht.2.1 (by decide)
  have hlast : t.getLast hne = '"' := by
    have hlasts := congrArg List.getLast? hw
    rw [List.getLast?_concat, List.getLast?_append_of_ne_nil _ hne,
      List.getLast?_eq_some_getLast hne] at hlasts
    exact (Option.some.inj hlasts).symm
  have hmem := ht.1 _ (List.getLast_mem hne)
  rw [hlast] at hmem
  exact absurd hmem (by decide)

end Family

/-! ## Clean texts -/

namespace Redactor

open Family

theorem clean_nil : builtin.Clean [] := fun _ hf => (steady hf).occursAfter_nil none

/-- A text is clean if and only if its parts between barriers are. -/
theorem clean_barrier_iff {c : Char} (hc : isBarrier c = true) {u v : List Char} :
    builtin.Clean (u ++ c :: v) ↔ builtin.Clean u ∧ builtin.Clean v := by
  have hsplit : ∀ f ∈ Family.builtin, f.occursIn (u ++ c :: v) = false ↔
      f.occursIn u = false ∧ f.occursIn v = false :=
    fun f hf => occursAfter_shut_iff hf (shuts_of_isBarrier hf hc)
  exact (forall₂_congr hsplit).trans forall₂_and

/-- The families apart from assignments do not look across a colon. -/
theorem beforeAssignment_shuts {f : Family} (hf : f ∈ beforeAssignment) : f.shuts ':' = true := by
  revert f
  decide

theorem clean_iff_assignment {text : List Char} : builtin.Clean text ↔
    (∀ f ∈ beforeAssignment, f.occursIn text = false) ∧ assignment.occursIn text = false := by
  have hparts : builtin.families = beforeAssignment ++ [assignment] := rfl
  rw [Clean, hparts, List.forall_mem_append, List.forall_mem_singleton]

theorem clean_between_quotes {cs : List Char} (h : builtin.Clean cs) :
    builtin.Clean ('"' :: cs ++ ['"']) := by
  have hshut : ∀ f ∈ beforeAssignment, f.shuts '"' = true := by decide
  have hopen : builtin.Clean ('"' :: cs) := by
    intro f hf
    refine (occursAfter_unopened hf unopened_quoteOrBackslash (by decide) none cs).trans ?_
    exact (Pattern.occursAfter_congr (first?_congr hf (by decide) cs)).trans (h f hf)
  obtain ⟨hrest, hassign⟩ := clean_iff_assignment.mp hopen
  refine clean_iff_assignment.mpr ⟨fun f hf => ?_, ?_⟩
  · have hbuiltin := beforeAssignment_subset hf
    exact (occursAfter_shut_iff hbuiltin (hshut f hf)).mpr
      ⟨hrest f hf, (steady hbuiltin).occursAfter_nil _⟩
  · rw [← Bool.not_eq_true, assignment_occursIn_iff] at hassign ⊢
    rintro ⟨w, hw, hspells⟩
    rcases List.infix_concat_iff.mp hw with hw | hw
    · rcases List.suffix_concat_iff.mp hw with rfl | ⟨u, rfl, -⟩
      · exact hassign ⟨[], List.nil_infix, hspells⟩
      · exact assignment_spells_concat hspells
    · exact hassign ⟨w, hw, hspells⟩

/-- The text of a key and its value. -/
theorem clean_member_iff {key value : List Char} :
    builtin.Clean ('"' :: key ++ ['"'] ++ ':' :: value) ↔ builtin.Clean ('"' :: key ++ ['"']) ∧
      builtin.Clean value ∧ ¬ (EndsInName key ∧ StartsValue value) := by
  have hfirst : ∀ f ∈ beforeAssignment, f.occursIn ('"' :: key ++ ['"'] ++ ':' :: value) = false ↔
      f.occursIn ('"' :: key ++ ['"']) = false ∧ f.occursIn value = false :=
    fun f hf => occursAfter_shut_iff (beforeAssignment_subset hf) (beforeAssignment_shuts hf)
  have hlast : assignment.occursIn ('"' :: key ++ ['"'] ++ ':' :: value) = false ↔
      assignment.occursIn ('"' :: key ++ ['"']) = false ∧ assignment.occursIn value = false ∧
        ¬ (EndsInName key ∧ StartsValue value) := by
    rw [← Bool.not_eq_true, assignment_occursIn_colon, assignedName_quote, not_or, not_or,
      Bool.not_eq_true, Bool.not_eq_true]
  constructor
  · intro h
    obtain ⟨hrest, hassign⟩ := clean_iff_assignment.mp h
    obtain ⟨hkey, hvalue, hboth⟩ := hlast.mp hassign
    exact ⟨clean_iff_assignment.mpr ⟨fun f hf => ((hfirst f hf).mp (hrest f hf)).1, hkey⟩,
      clean_iff_assignment.mpr ⟨fun f hf => ((hfirst f hf).mp (hrest f hf)).2, hvalue⟩, hboth⟩
  · rintro ⟨hkey, hvalue, hboth⟩
    obtain ⟨hkrest, hkassign⟩ := clean_iff_assignment.mp hkey
    obtain ⟨hvrest, hvassign⟩ := clean_iff_assignment.mp hvalue
    exact clean_iff_assignment.mpr ⟨fun f hf => (hfirst f hf).mpr ⟨hkrest f hf, hvrest f hf⟩,
      hlast.mpr ⟨hkassign, hvassign, hboth⟩⟩

end Redactor
end CallScribe
