import CallScribe.Proofs.Redaction.Stretches

/-!
# CallScribe.Proofs.Redaction.Quotes

Quotes under redaction.

* `Quotes`: what a reader knows who counts the quotes of a text that no backslash escapes.
* `Quotes.eq_of_append`: where a text is cut behind its n-th such quote is determined.
* `Quotes.after_redactChars`: redaction neither adds a quote nor takes one away.
-/

namespace CallScribe

/-- The number of quotes read, whether a backslash escapes the next character, and whether the
last character was a quote that counts. -/
structure Quotes where
  count : Nat := 0
  escaped : Bool := false
  closed : Bool := false
deriving DecidableEq, Repr

namespace Quotes

def read (q : Quotes) (c : Char) : Quotes :=
  if q.escaped then ⟨q.count, false, false⟩
  else if c = '"' then ⟨q.count + 1, false, true⟩
  else if c = '\\' then ⟨q.count, true, false⟩
  else ⟨q.count, false, false⟩

def after (q : Quotes) (cs : List Char) : Quotes := cs.foldl read q

@[simp] theorem after_nil (q : Quotes) : q.after [] = q := rfl

@[simp] theorem after_cons (q : Quotes) (c : Char) (cs : List Char) :
    q.after (c :: cs) = (q.read c).after cs := rfl

theorem after_append (q : Quotes) (u v : List Char) : q.after (u ++ v) = (q.after u).after v :=
  List.foldl_append

theorem read_plain (q : Quotes) {c : Char} (hq : c ≠ '"') (hb : c ≠ '\\') :
    q.read c = ⟨q.count, false, false⟩ := by
  simp [read, hq, hb]

theorem after_plain (q : Quotes) {w : List Char} (hw : w ≠ [])
    (h : ∀ c ∈ w, c ≠ '"' ∧ c ≠ '\\') : q.after w = ⟨q.count, false, false⟩ := by
  induction w generalizing q with
  | nil => exact absurd rfl hw
  | cons c w ih =>
    obtain ⟨hq, hb⟩ := h c List.mem_cons_self
    rw [after_cons, read_plain q hq hb]
    by_cases hn : w = []
    · rw [hn, after_nil]
    · rw [ih _ hn fun x hx => h x (List.mem_cons_of_mem _ hx)]

theorem count_le_read (q : Quotes) (c : Char) : q.count ≤ (q.read c).count := by
  unfold read
  split
  · exact Nat.le_refl _
  · split
    · simp
    · split <;> simp

theorem count_le_after (q : Quotes) (cs : List Char) : q.count ≤ (q.after cs).count := by
  induction cs generalizing q with
  | nil => exact Nat.le_refl _
  | cons c cs ih => exact Nat.le_trans (count_le_read q c) (ih _)

theorem count_of_closed {q : Quotes} {c : Char} (h : (q.read c).closed = true) :
    (q.read c).count = q.count + 1 := by
  by_cases he : q.escaped = true
  · simp [read, he] at h
  · by_cases hq : c = '"'
    · simp [read, he, hq]
    · by_cases hb : c = '\\' <;> simp [read, he, hq, hb] at h

/-- Behind a quote that counts, nothing is read up to the same quote. -/
theorem eq_nil_of_closed {q : Quotes} {z : List Char} (hc : (q.after z).closed = true)
    (hn : (q.after z).count = q.count) : z = [] := by
  rcases List.eq_nil_or_concat z with rfl | ⟨z, c, rfl⟩
  · rfl
  · rw [List.concat_eq_append, after_append, after_cons, after_nil] at hc hn
    have := count_of_closed hc
    have := count_le_after q z
    omega

/-- Two beginnings of a text that end at the same quote are equal. -/
theorem eq_of_append {q : Quotes} {u v r s : List Char} (h : u ++ r = v ++ s)
    (hq : q.after u = q.after v) (hc : (q.after u).closed = true) : u = v := by
  rcases List.append_eq_append_iff.mp h with ⟨z, rfl, _⟩ | ⟨z, rfl, _⟩
  · rw [after_append] at hq
    rw [eq_nil_of_closed (by rw [← hq]; exact hc) (congrArg count hq.symm), List.append_nil]
  · rw [after_append] at hq hc
    rw [eq_nil_of_closed hc (congrArg count hq), List.append_nil]

theorem after_marker (q : Quotes) : q.after marker = ⟨q.count, false, false⟩ := by
  have hplain : marker.all (fun c => c ≠ '"' ∧ c ≠ '\\') = true := by decide
  exact after_plain q (by decide) fun c hc =>
    of_decide_eq_true (List.all_eq_true.mp hplain c hc)

/-- A mask takes a run of other characters, and the marker is one. -/
theorem after_gaps {f : Family} (hf : f ∈ Family.builtin) (q : Quotes) (behind : Option Char)
    (cs : List Char) :
    q.after (marker.intercalate (f.pattern.gapsFrom id behind cs)) = q.after cs := by
  have hp := Family.steady hf
  induction behind, cs using hp.search_induct id generalizing q with
  | nil behind =>
    rw [hp.gapsFrom_nil]
    rfl
  | pass behind c rest h ih =>
    rw [Pattern.Steady.gapsFrom_pass h]
    cases hg : f.pattern.gapsFrom id (some (id c)) rest with
    | nil => exact absurd hg (f.pattern.gapsFrom_ne_nil id _ _)
    | cons g gs =>
      rw [List.modifyHead_cons, List.intercalate_cons_cons_left, after_cons, after_cons, ← hg, ih]
  | hit behind w rest d h hr hw ih =>
    rw [hp.gapsFrom_hit h hr hw, List.intercalate_cons_of_ne_nil (f.pattern.gapsFrom_ne_nil id _ _),
      after_append, after_append, ih, after_marker]
    rw [List.map_id] at h hr
    rw [List.map_id] at hr
    obtain ⟨hne, hplain⟩ := Family.masked_unquoted hf h hr
    conv => rhs; rw [← List.take_append_drop d.kept w]
    rw [after_append, after_append, after_plain _ hne hplain]

theorem after_maskAll {f : Family} (hf : f ∈ Family.builtin) (q : Quotes) (cs : List Char) :
    q.after (f.maskAll cs) = q.after cs := by
  rw [← Family.rewrite_id, Family.rewrite_eq_intercalate]
  exact after_gaps hf q none cs

theorem after_redactChars (q : Quotes) (cs : List Char) :
    q.after (Redactor.builtin.redactChars cs) = q.after cs := by
  have hfold : ∀ fs : List Family, fs ⊆ Family.builtin → ∀ cs : List Char,
      q.after (fs.foldl (fun t f => f.maskAll t) cs) = q.after cs := by
    intro fs hfs
    induction fs with
    | nil => exact fun _ => rfl
    | cons f fs ih =>
      obtain ⟨hf, hfs⟩ := List.cons_subset.mp hfs
      intro cs
      rw [List.foldl_cons, ih hfs, after_maskAll hf]
  exact hfold _ (List.Subset.refl _) cs

end Quotes
end CallScribe
