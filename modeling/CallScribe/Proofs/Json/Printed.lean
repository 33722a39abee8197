import CallScribe.Json.Printer
import CallScribe.Proofs.Json.Strings
import CallScribe.Proofs.Redaction.Members

/-!
# CallScribe.Proofs.Json.Printed

What is recognised in the text of a value.

* `Json.members`: the members of all objects within a value.
* `Decimal.numeral_chars`, `Redactor.clean_number`: nothing is recognised in a number.
* `Redactor.clean_quote`: a clean string stays clean when it is printed, unless it has a control
  character. The escape of one may begin a word: that of a backspace ends in a letter.
* `Json.chars_clean_iff`: the text of a value is clean if and only if its printed strings and keys
  are, and no key that ends in the name of a credential stands before a value that is long enough.
-/

namespace CallScribe

namespace Json

/-- The characters of a string between its quotes. -/
def escaped (s : String) : List Char := s.toList.flatMap escapeChar

mutual

/-- The members of all objects within a value. -/
def members : Json → List (String × Json)
  | .null | .bool _ | .int _ | .real _ | .string _ => []
  | .array items => itemMembers items
  | .object fields => fieldMembers fields

def itemMembers : List Json → List (String × Json)
  | [] => []
  | v :: rest => members v ++ itemMembers rest

def fieldMembers : List (String × Json) → List (String × Json)
  | [] => []
  | (k, v) :: rest => (k, v) :: members v ++ fieldMembers rest

end

end Json

/-! ## Numbers -/

namespace Decimal

/-- The characters of numbers. -/
def numberChars : CharSet := ⟨[(43, 43), (45, 46), (48, 57), (101, 101)]⟩

/-- The text has characters of numbers only. -/
def Numeral (cs : List Char) : Prop := ∀ c ∈ cs, numberChars.contains c = true

instance (cs : List Char) : Decidable (Numeral cs) :=
  decidable_of_iff (cs.all numberChars.contains = true) List.all_eq_true

theorem Numeral.append {u v : List Char} (hu : Numeral u) (hv : Numeral v) : Numeral (u ++ v) :=
  List.forall_mem_append.mpr ⟨hu, hv⟩

theorem Numeral.cons {c : Char} {u : List Char} (hc : numberChars.contains c = true)
    (hu : Numeral u) : Numeral (c :: u) := List.forall_mem_cons.mpr ⟨hc, hu⟩

theorem Numeral.of_subset {u v : List Char} (hu : Numeral u) (h : v ⊆ u) : Numeral v :=
  fun c hc => hu c (h hc)

theorem numeral_digitChars (n : Nat) : Numeral (digitChars n) := by
  intro c hc
  have hdigit := Nat.isDigit_of_mem_toDigits (by decide) (by decide) hc
  have hrange : 48 ≤ c.toNat ∧ c.toNat ≤ 57 := by
    rw [Char.isDigit, Bool.and_eq_true, decide_eq_true_eq, decide_eq_true_eq] at hdigit
    exact hdigit
  have hnot : ¬ (c.toNat < 43 ∨ c.toNat < 45 ∨ c.toNat < 48) := by omega
  simp only [not_or] at hnot
  simp [numberChars, CharSet.contains, CharSet.inRanges, hnot, hrange]

theorem numeral_intChars (n : Int) : Numeral (intChars n) := by
  cases n with
  | ofNat n => exact numeral_digitChars n
  | negSucc n => exact .cons (by decide) (numeral_digitChars _)

theorem numeral_magnitudeChars (d : Decimal) : Numeral d.magnitudeChars := by
  have hdigits := numeral_digitChars d.digits
  have hzeros : ∀ n, Numeral (List.replicate n '0') := by
    intro n c hc
    rw [List.eq_of_mem_replicate hc]
    decide
  have hpower : ∀ n : Int, Numeral ((if 0 ≤ n then '+' else '-') :: digitChars n.natAbs) :=
    fun n => .cons (by split <;> decide) (numeral_digitChars _)
  unfold magnitudeChars
  dsimp only
  generalize digitChars d.digits = ds at hdigits ⊢
  split
  · decide
  · split
    · exact (hdigits.append (hzeros _)).append (by decide)
    · split
      · exact (hdigits.of_subset (List.take_subset _ _)).append
          (.cons (by decide) (hdigits.of_subset (List.drop_subset _ _)))
      · split
        · exact .cons (by decide) (.cons (by decide) ((hzeros _).append hdigits))
        · split
          · exact hdigits.append (.cons (by decide) (hpower _))
          · obtain ⟨hfirst, hrest⟩ := List.forall_mem_cons.mp hdigits
            have hpoint : numberChars.contains '.' = true := by decide
            exact (Numeral.cons hfirst (.cons hpoint hrest)).append (.cons (by decide) (hpower _))
          · decide

theorem numeral_chars (d : Decimal) : Numeral d.chars := by
  rw [chars]
  split
  · exact .cons (by decide) (numeral_magnitudeChars d)
  · exact numeral_magnitudeChars d

end Decimal

namespace Redactor

open Family

theorem clean_number {cs : List Char} (h : Decimal.Numeral cs) : builtin.Clean cs := by
  have hset : Unopened Decimal.numberChars := by decide
  exact fun f hf => occursIn_unopened hf hset h

end Redactor

namespace Family

open Json

theorem escapeChar_plain {c : Char} (hc : 32 ≤ c.toNat) :
    escapeChar c = if quoteOrBackslash.contains c then ['\\', c] else [c] := by
  by_cases hq : c = '"'
  · rw [hq]
    decide
  · by_cases hb : c = '\\'
    · rw [hb]
      decide
    · have hnot : quoteOrBackslash.contains c = false := by
        cases h : quoteOrBackslash.contains c with
        | false => rfl
        | true =>
          have hquote : c.toNat ≠ 34 := fun h => hq (Char.toNat_inj.mp h)
          have hback : c.toNat ≠ 92 := fun h => hb (Char.toNat_inj.mp h)
          obtain ⟨r, hr, hlow, hhigh⟩ := CharSet.exists_range_of_inRanges h
          simp only [quoteOrBackslash, List.mem_cons, List.not_mem_nil, or_false] at hr
          rcases hr with rfl | rfl <;> omega
      have hcontrol : ∀ x : Char, x.toNat < 32 → c ≠ x := by
        rintro x hx rfl
        omega
      rw [escapeChar, if_neg hq, if_neg hb, if_neg (hcontrol _ (by decide)),
        if_neg (hcontrol _ (by decide)), if_neg (hcontrol _ (by decide)),
        if_neg (hcontrol _ (by decide)), if_neg (hcontrol _ (by decide)), if_neg (by omega), hnot]
      rfl

/-- Escapes of quotes and backslashes bring nothing to light. -/
theorem occursIn_escaped {f : Family} (hf : f ∈ builtin) {u cs : List Char}
    (hplain : ∀ c ∈ cs, 32 ≤ c.toNat) (h : f.occursIn (u ++ cs) = false) :
    f.occursIn (u ++ cs.flatMap escapeChar) = false := by
  have hshut : ∀ g ∈ builtin, g.shuts '\\' = true := by decide
  induction cs generalizing u with
  | nil => exact h
  | cons c cs ih =>
    obtain ⟨hc, hcs⟩ := List.forall_mem_cons.mp hplain
    rw [List.flatMap_cons, escapeChar_plain hc]
    split
    · rename_i hspecial
      refine (occursAfter_shut_iff hf (hshut f hf)).mpr ⟨?_, ih (u := [c]) hcs ?_⟩
      · exact (steady hf).occursAfter_append_left h
      · have hright := Pattern.occursAfter_append_right h
        rw [occursAfter_unopened hf unopened_quoteOrBackslash hspecial] at hright
        exact (occursAfter_unopened hf unopened_quoteOrBackslash hspecial none cs).trans hright
    · rw [← List.append_assoc]
      exact ih hcs (by rwa [List.append_assoc])

end Family

theorem Redactor.clean_quote {s : String} (hplain : ∀ c ∈ s.toList, 32 ≤ c.toNat)
    (hs : builtin.Clean s.toList) : builtin.Clean (Json.quote s) :=
  clean_between_quotes fun f hf => Family.occursIn_escaped (u := []) hf hplain (hs f hf)

example : Redactor.builtin.Clean "\x08earer abc".toList ∧
    ¬ Redactor.builtin.Clean (Json.quote "\x08earer abc") := by decide

/-! ## Values -/

namespace Json

open Redactor

/-- The printed strings and keys are clean, and no key that ends in the name of a credential
stands before a value that is long enough. -/
def PartsClean (ss : List String) (ms : List (String × Json)) : Prop :=
  (∀ s ∈ ss, builtin.Clean (quote s)) ∧ ∀ m ∈ ms, builtin.Clean (quote m.1) ∧
    ¬ (Family.EndsInName (escaped m.1) ∧ Family.StartsValue m.2.chars)

theorem partsClean_append {ss ss' : List String} {ms ms' : List (String × Json)} :
    PartsClean (ss ++ ss') (ms ++ ms') ↔ PartsClean ss ms ∧ PartsClean ss' ms' := by
  rw [PartsClean, List.forall_mem_append, List.forall_mem_append]
  exact and_and_and_comm

theorem partsClean_nil : PartsClean [] [] := ⟨by simp, by simp⟩

/-- Brackets are barriers. -/
theorem clean_enclosed {first last : Char} (hfirst : Family.isBarrier first = true)
    (hlast : Family.isBarrier last = true) {cs : List Char} :
    builtin.Clean (first :: cs ++ [last]) ↔ builtin.Clean cs := by
  have hopen := clean_barrier_iff hfirst (u := []) (v := cs ++ [last])
  have hclose := clean_barrier_iff hlast (u := cs) (v := [])
  rw [List.nil_append, and_iff_right clean_nil] at hopen
  rw [and_iff_left clean_nil] at hclose
  exact hopen.trans hclose

mutual

theorem chars_clean_iff (v : Json) : builtin.Clean v.chars ↔ PartsClean v.strings v.members := by
  cases v with
  | null => exact iff_of_true (by decide) partsClean_nil
  | bool b =>
    refine iff_of_true ?_ partsClean_nil
    cases b <;> decide
  | int n => exact iff_of_true (clean_number (Decimal.numeral_intChars n)) partsClean_nil
  | real d => exact iff_of_true (clean_number (Decimal.numeral_chars d)) partsClean_nil
  | string s => simp [chars, strings, members, PartsClean]
  | array items => exact (clean_enclosed (by decide) (by decide)).trans (itemChars_clean_iff items)
  | object fields =>
    exact (clean_enclosed (by decide) (by decide)).trans (fieldChars_clean_iff fields)

theorem itemChars_clean_iff (vs : List Json) :
    builtin.Clean (itemChars vs) ↔ PartsClean (itemStrings vs) (itemMembers vs) := by
  have hsep : Family.isBarrier ',' = true := by decide
  cases vs with
  | nil => exact iff_of_true clean_nil partsClean_nil
  | cons v rest =>
    rw [itemStrings, itemMembers, partsClean_append, ← chars_clean_iff v,
      ← itemChars_clean_iff rest]
    cases rest with
    | nil => exact (and_iff_left clean_nil).symm
    | cons w rest => exact clean_barrier_iff hsep

theorem fieldChars_clean_iff (fs : List (String × Json)) :
    builtin.Clean (fieldChars fs) ↔ PartsClean (fieldStrings fs) (fieldMembers fs) := by
  have hsep : Family.isBarrier ',' = true := by decide
  cases fs with
  | nil => exact iff_of_true clean_nil partsClean_nil
  | cons f rest =>
    obtain ⟨k, v⟩ := f
    have hmember : builtin.Clean (quote k ++ ':' :: v.chars) ↔
        PartsClean v.strings ((k, v) :: v.members) := by
      have hsplit : builtin.Clean (quote k ++ ':' :: v.chars) ↔ builtin.Clean (quote k) ∧
          builtin.Clean v.chars ∧
            ¬ (Family.EndsInName (escaped k) ∧ Family.StartsValue v.chars) := clean_member_iff
      rw [hsplit, chars_clean_iff v, PartsClean, PartsClean, List.forall_mem_cons]
      constructor
      · rintro ⟨hkey, ⟨hstrings, hmembers⟩, hboth⟩
        exact ⟨hstrings, ⟨hkey, hboth⟩, hmembers⟩
      · rintro ⟨hstrings, ⟨hkey, hboth⟩, hmembers⟩
        exact ⟨hkey, ⟨hstrings, hmembers⟩, hboth⟩
    rw [fieldStrings, fieldMembers, partsClean_append, ← hmember, ← fieldChars_clean_iff rest]
    cases rest with
    | nil => exact (and_iff_left clean_nil).symm
    | cons g rest => exact clean_barrier_iff hsep

end

end Json
end CallScribe
