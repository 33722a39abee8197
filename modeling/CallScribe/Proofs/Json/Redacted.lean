import CallScribe.Proofs.Json.Shape
import CallScribe.Proofs.Redaction.Quotes

/-!
# CallScribe.Proofs.Json.Redacted

The text of a value under redaction.

* `Quotes.after_quote`: a printed string ends at the second of its quotes.
* `Rewriting`: what of redaction matters here.
* `Json.SameShape.rewritten_in_iff`: of two values of one shape, the redacted texts are equal if
  and only if their printed strings are, each redacted in its place.
-/

namespace CallScribe

namespace Quotes

open Json

theorem hexChar_plain : ∀ n < 16, hexChar n ≠ '"' ∧ hexChar n ≠ '\\' := by decide

/-- An escape is read as one character that is no quote. -/
theorem after_escapeChar {q : Quotes} (hq : q.escaped = false) (c : Char) :
    q.after (escapeChar c) = ⟨q.count, false, false⟩ := by
  have hshort : ∀ x : Char, q.after ['\\', x] = ⟨q.count, false, false⟩ := by
    intro x
    simp [read, hq]
  unfold escapeChar
  split
  · exact hshort _
  · split
    · exact hshort _
    · rename_i hquote hback
      repeat' split
      any_goals exact hshort _
      · rename_i hlow
        obtain ⟨h₁, h₂⟩ := hexChar_plain (c.toNat / 16) (by omega)
        obtain ⟨h₃, h₄⟩ := hexChar_plain (c.toNat % 16) (by omega)
        simp [read, hq, h₁, h₂, h₃, h₄]
      · simp [read, hq, hquote, hback]

theorem after_escaped {q : Quotes} (hq : q.escaped = false) (cs : List Char) :
    (q.after (cs.flatMap escapeChar)).count = q.count ∧
      (q.after (cs.flatMap escapeChar)).escaped = false := by
  induction cs generalizing q with
  | nil => exact ⟨rfl, hq⟩
  | cons c cs ih =>
    rw [List.flatMap_cons, after_append, after_escapeChar hq]
    exact ih rfl

theorem after_quote {q : Quotes} (hq : q.escaped = false) (s : String) :
    q.after (quote s) = ⟨q.count + 2, false, true⟩ := by
  have hopen : q.read '"' = ⟨q.count + 1, false, true⟩ := by simp [read, hq]
  obtain ⟨hcount, hesc⟩ :=
    after_escaped (q := ⟨q.count + 1, false, true⟩) rfl s.toList
  rw [quote, List.cons_append, after_cons, hopen, after_append, after_cons, after_nil]
  simp [read, hesc, hcount]

end Quotes

/-- A rewriting of texts that does not look across barriers and leaves quotes alone. -/
structure Rewriting (R : List Char → List Char) : Prop where
  barrier : ∀ {c : Char}, Family.isBarrier c = true →
    ∀ u v, R (u ++ c :: v) = R u ++ c :: R v
  quotes : ∀ (q : Quotes) (cs : List Char), q.after (R cs) = q.after cs

theorem Redactor.builtin_rewriting : Rewriting builtin.redactChars where
  barrier := redactChars_barrier
  quotes := Quotes.after_redactChars

namespace Rewriting

open Json

variable {R : List Char → List Char}

theorem fixed_iff (hR : Rewriting R) (u : List Char) {c : Char}
    (hc : Family.isBarrier c = true) (r r' : List Char) :
    R (u ++ c :: r) = R (u ++ c :: r') ↔ R r = R r' := by
  rw [hR.barrier hc, hR.barrier hc]
  simp

theorem cons_iff (hR : Rewriting R) {c : Char} (hc : Family.isBarrier c = true)
    (r r' : List Char) : R (c :: r) = R (c :: r') ↔ R r = R r' := hR.fixed_iff [] hc r r'

/-- Behind a printed string, rewritten texts that are equal are equal in parts. -/
theorem quote_iff (hR : Rewriting R) {front : List Char}
    (hf : (({} : Quotes).after front).escaped = false) (s t : String) {c : Char}
    (hc : Family.isBarrier c = true) (r r' : List Char) :
    R (front ++ quote s ++ c :: r) = R (front ++ quote t ++ c :: r') ↔
      R (front ++ quote s) = R (front ++ quote t) ∧ R r = R r' := by
  rw [hR.barrier hc, hR.barrier hc]
  constructor
  · intro h
    have hs := Quotes.after_quote hf s
    have ht := Quotes.after_quote hf t
    rw [← Quotes.after_append, ← hR.quotes] at hs ht
    have heq := Quotes.eq_of_append h (hs.trans ht.symm) (by rw [hs])
    rw [heq] at h
    exact ⟨heq, (List.cons.inj (List.append_cancel_left h)).2⟩
  · rintro ⟨h, hr⟩
    rw [h, hr]

end Rewriting

namespace Json

theorem map_append_inj {α β : Type} {f : α → β} {a a' b b' : List α} (h : a.length = a'.length) :
    (a ++ b).map f = (a' ++ b').map f ↔ a.map f = a'.map f ∧ b.map f = b'.map f := by
  rw [List.map_append, List.map_append]
  constructor
  · intro he
    exact List.append_inj he (by rw [List.length_map, List.length_map, h])
  · rintro ⟨ha, hb⟩
    rw [ha, hb]

theorem after_key (k : String) :
    (({} : Quotes).after (quote k ++ [':'])).escaped = false := by
  rw [Quotes.after_append, Quotes.after_quote rfl]
  rfl

section

variable {R : List Char → List Char} (hR : Rewriting R)

include hR

mutual

/-- Two values of one shape, in front of a barrier. -/
theorem SameShape.rewritten_iff {v w : Json} (h : SameShape v w) {front : List Char}
    (hf : (({} : Quotes).after front).escaped = false) {c : Char}
    (hc : Family.isBarrier c = true) (r r' : List Char) :
    R (front ++ v.chars ++ c :: r) = R (front ++ w.chars ++ c :: r') ↔
      (v.leafTexts front []).map R = (w.leafTexts front []).map R ∧ R r = R r' := by
  cases h with
  | null => simpa [leafTexts] using hR.fixed_iff (front ++ chars .null) hc r r'
  | bool b => simpa [leafTexts] using hR.fixed_iff (front ++ chars (.bool b)) hc r r'
  | int n => simpa [leafTexts] using hR.fixed_iff (front ++ chars (.int n)) hc r r'
  | real d => simpa [leafTexts] using hR.fixed_iff (front ++ chars (.real d)) hc r r'
  | string s t => simpa [leafTexts, chars] using hR.quote_iff hf s t hc r r'
  | @array vs ws h =>
    have hitems := SameItems.rewritten_iff h (c :: r) (c :: r')
    rw [hR.cons_iff hc] at hitems
    have hopen : Family.isBarrier '[' = true := by decide
    simpa [leafTexts, chars, hR.barrier hopen] using hitems
  | @object fs gs h =>
    have hfields := SameFields.rewritten_iff h (c :: r) (c :: r')
    rw [hR.cons_iff hc] at hfields
    have hopen : Family.isBarrier '\x7b' = true := by decide
    simpa [leafTexts, chars, hR.barrier hopen] using hfields

theorem SameItems.rewritten_iff {vs ws : List Json} (h : SameItems vs ws) (r r' : List Char) :
    R (itemChars vs ++ ']' :: r) = R (itemChars ws ++ ']' :: r') ↔
      (itemTexts vs).map R = (itemTexts ws).map R ∧ R r = R r' := by
  have hclose : Family.isBarrier ']' = true := by decide
  have hsep : Family.isBarrier ',' = true := by decide
  cases h with
  | nil => simpa [itemChars, itemTexts] using hR.cons_iff hclose r r'
  | @cons v w vs ws h hs =>
    have hstart : (({} : Quotes).after []).escaped = false := rfl
    rw [itemTexts, itemTexts, map_append_inj (h.length_leafTexts [] []), and_assoc]
    cases hs with
    | nil =>
      have hlast := SameShape.rewritten_iff h hstart hclose r r'
      simpa [itemChars, itemTexts] using hlast
    | @cons v' w' vs ws h' hs =>
      have hrest := SameItems.rewritten_iff (.cons h' hs) r r'
      have hfirst := SameShape.rewritten_iff h hstart hsep
        (itemChars (v' :: vs) ++ ']' :: r) (itemChars (w' :: ws) ++ ']' :: r')
      rw [hrest] at hfirst
      simpa [itemChars] using hfirst

theorem SameFields.rewritten_iff {fs gs : List (String × Json)} (h : SameFields fs gs)
    (r r' : List Char) :
    R (fieldChars fs ++ '\x7d' :: r) = R (fieldChars gs ++ '\x7d' :: r') ↔
      (fieldTexts fs).map R = (fieldTexts gs).map R ∧ R r = R r' := by
  have hclose : Family.isBarrier '\x7d' = true := by decide
  have hsep : Family.isBarrier ',' = true := by decide
  cases h with
  | nil => simpa [fieldChars, fieldTexts] using hR.cons_iff hclose r r'
  | @cons k v w fs gs h hs =>
    rw [fieldTexts, fieldTexts, map_append_inj (h.length_leafTexts _ []), and_assoc]
    cases hs with
    | nil =>
      have hlast := SameShape.rewritten_iff h (after_key k) hclose r r'
      simpa [fieldChars, fieldTexts] using hlast
    | @cons k' v' w' fs gs h' hs =>
      have hrest := SameFields.rewritten_iff (.cons k' h' hs) r r'
      have hfirst := SameShape.rewritten_iff h (after_key k) hsep
        (fieldChars ((k', v') :: fs) ++ '\x7d' :: r) (fieldChars ((k', w') :: gs) ++ '\x7d' :: r')
      rw [hrest] at hfirst
      simpa [fieldChars] using hfirst

end

/-- Of two values of one shape, the rewritten texts are equal if and only if their printed strings
are, each rewritten in its place. -/
theorem SameShape.rewritten_in_iff {v w : Json} (h : SameShape v w) (front back : List Char) :
    R (front ++ v.chars ++ back) = R (front ++ w.chars ++ back) ↔
      (v.leafTexts front back).map R = (w.leafTexts front back).map R := by
  cases h with
  | null => simp
  | bool b => simp
  | int n => simp
  | real d => simp
  | string s t => simp [leafTexts, chars]
  | @array vs ws h =>
    have hopen : Family.isBarrier '[' = true := by decide
    simpa [leafTexts, chars, hR.barrier hopen] using SameItems.rewritten_iff hR h back back
  | @object fs gs h =>
    have hopen : Family.isBarrier '\x7b' = true := by decide
    simpa [leafTexts, chars, hR.barrier hopen] using SameFields.rewritten_iff hR h back back

end

end Json
end CallScribe
