import CallScribe.Decimal.Basic
import CallScribe.Json.Raw
import Mathlib.Data.List.Basic

/-!
# CallScribe.Proofs.Json.Lexical

The texts of strings and numbers. The readers take in these texts and no others.

* `Decimal.Digits`: texts of decimal digits.
* `RawString.Spelled`: what stands between the quotes of a string; `RawString.read_iff`.
* `RawNumber.Spelled`: the parts of a number in their order; `RawNumber.Spelled.read`,
  `RawNumber.spelled_of_read`.
-/

namespace CallScribe

namespace Decimal

/-! ## Digits -/

/-- The text has decimal digits only. -/
def Digits (cs : List Char) : Prop := ∀ c ∈ cs, c.isDigit = true

theorem digits_digitChars (n : Nat) : Digits (digitChars n) :=
  fun _ hc => Nat.isDigit_of_mem_toDigits (by decide) (by decide) hc

theorem digits_zeros (n : Nat) : Digits (List.replicate n '0') := by
  intro c hc
  rw [List.eq_of_mem_replicate hc]
  decide

theorem Digits.append {u v : List Char} (hu : Digits u) (hv : Digits v) : Digits (u ++ v) :=
  List.forall_mem_append.mpr ⟨hu, hv⟩

theorem Digits.of_subset {u v : List Char} (hu : Digits u) (h : v ⊆ u) : Digits v :=
  fun c hc => hu c (h hc)

/-- Digits end where no digit follows. -/
theorem Digits.takeWhile_append {u r : List Char} (hu : Digits u)
    (hr : ∀ c ∈ r.head?, c.isDigit = false) : (u ++ r).takeWhile Char.isDigit = u := by
  rw [List.takeWhile_append_of_pos hu]
  cases r with
  | nil => exact List.append_nil u
  | cons c r => rw [List.takeWhile_cons_of_neg (by simpa using hr c rfl), List.append_nil]

end Decimal

open Decimal Json

namespace Json

/-- Blanks may stand between the parts of a text. -/
def Blanks (cs : List Char) : Prop := ∀ c ∈ cs, isSpace c = true

theorem blanks_nil : Blanks [] := by simp [Blanks]

/-- A value may end here: the text ends, or a blank, a comma or a bracket follows. -/
def Closes (r : List Char) : Prop :=
  ∀ c ∈ r.head?, isSpace c = true ∨ c = ',' ∨ c = ']' ∨ c = '\x7d'

theorem closes_nil : Closes [] := by simp [Closes]

theorem Closes.ne {r : List Char} (hr : Closes r) {c : Char} (hc : c ∈ r.head?) {d : Char}
    (hd : isSpace d = false ∧ d ≠ ',' ∧ d ≠ ']' ∧ d ≠ '\x7d') : c ≠ d := by
  rintro rfl
  obtain ⟨hspace, hcomma, hbracket, hbrace⟩ := hd
  rcases hr c hc with h | h | h | h
  · cases hspace.symm.trans h
  · exact hcomma h
  · exact hbracket h
  · exact hbrace h

/-- The digits of a number end here, and no point follows them. -/
def Stops (r : List Char) : Prop := ∀ c ∈ r.head?, c ≠ '.' ∧ c.isDigit = false

theorem Closes.stops {r : List Char} (hr : Closes r) : Stops r := by
  intro c hc
  rcases hr c hc with h | rfl | rfl | rfl
  · simp only [isSpace, Bool.or_eq_true, decide_eq_true_eq] at h
    rcases h with ((rfl | rfl) | rfl) | rfl <;> decide
  · decide
  · decide
  · decide

theorem Stops.not_digit {r : List Char} (hr : Stops r) : ∀ c ∈ r.head?, c.isDigit = false :=
  fun c hc => (hr c hc).2

end Json

/-! ## Strings -/

/-- A character of a string stands as it is or as an escape. -/
inductive RawChar.Spelled : RawChar → List Char → Prop
  | plain {c : Char} (hquote : c ≠ '"') (hback : c ≠ '\\') (hc : 32 ≤ c.toNat) :
    Spelled (.plain c) [c]
  | escape {e c : Char} (h : escaped? e = some c) : Spelled (.plain c) ['\\', e]
  | unit {a b c d : Char} {n : Nat} (h : hex4? a b c d = some n) :
    Spelled (.unit n) ['\\', 'u', a, b, c, d]

theorem RawChar.Spelled.read {c : RawChar} {u : List Char} (h : c.Spelled u) (acc : RawString)
    (r : List Char) : readString acc (u ++ r) = readString (c :: acc) r := by
  cases h with
  | @plain c hquote hback hc =>
    have hlow : ¬ c.toNat < 32 := by omega
    have hunit (a b d e : Char) (r' : List Char) (h : c = '\\')
        (_ : r = 'u' :: a :: b :: d :: e :: r') : False := hback h
    have hescape (e : Char) (r' : List Char) (h : c = '\\') (_ : r = e :: r') : False := hback h
    exact (readString.eq_5 acc c r hquote hunit hescape).trans (if_neg hlow)
  | @escape e c he =>
    have hunit (a b d f : Char) (r' : List Char) (h : e = 'u')
        (_ : r = a :: b :: d :: f :: r') : False := by
      subst h
      cases he
    refine (readString.eq_4 acc e r hunit).trans ?_
    rw [he]
    rfl
  | @unit a b c d n hn =>
    refine (readString.eq_3 acc a b c d r).trans ?_
    rw [hn]
    rfl

namespace RawString

/-- What stands between the quotes of a string. -/
inductive Spelled : RawString → List Char → Prop
  | nil : Spelled [] []
  | cons {c : RawChar} {s : RawString} {u v : List Char} (hc : c.Spelled u)
    (hs : Spelled s v) : Spelled (c :: s) (u ++ v)

theorem Spelled.read {s : RawString} {u : List Char} (h : s.Spelled u) (acc : RawString)
    (r : List Char) : readString acc (u ++ '"' :: r) = some (acc.reverse ++ s, r) := by
  induction h generalizing acc with
  | nil => simp [readString]
  | cons hc _ ih =>
    rw [List.append_assoc, hc.read, ih]
    simp

theorem spelled_of_read {acc s : RawString} {cs r : List Char}
    (h : readString acc cs = some (s, r)) :
    ∃ t u, Spelled t u ∧ s = acc.reverse ++ t ∧ cs = u ++ '"' :: r := by
  have hcons {acc : RawString} {c : RawChar} {u rest : List Char} (hc : c.Spelled u)
      (hrest : ∃ t v, Spelled t v ∧ s = (c :: acc).reverse ++ t ∧ rest = v ++ '"' :: r) :
      ∃ t v, Spelled t v ∧ s = acc.reverse ++ t ∧ u ++ rest = v ++ '"' :: r := by
    obtain ⟨t, v, ht, rfl, rfl⟩ := hrest
    exact ⟨c :: t, u ++ v, .cons hc ht, by simp, by simp⟩
  induction acc, cs using readString.induct with
  | case1 acc =>
    rw [readString] at h
    cases h
  | case2 acc rest =>
    rw [readString] at h
    cases h
    exact ⟨[], [], .nil, (List.append_nil _).symm, rfl⟩
  | case3 acc a b c d rest ih =>
    rw [readString] at h
    obtain ⟨n, hn, h⟩ := Option.bind_eq_some_iff.mp h
    exact hcons (.unit hn) (ih n h)
  | case4 acc e rest hunit ih =>
    rw [readString.eq_4 acc e rest hunit] at h
    obtain ⟨c, hc, h⟩ := Option.bind_eq_some_iff.mp h
    exact hcons (.escape hc) (ih c h)
  | case5 acc c rest hquote hunit hescape hlow =>
    rw [readString.eq_5 acc c rest hquote hunit hescape, if_pos hlow] at h
    cases h
  | case6 acc c rest hquote hunit hescape hlow ih =>
    rw [readString.eq_5 acc c rest hquote hunit hescape, if_neg hlow] at h
    -- behind a backslash at the end of the text there is no closing quote
    have hback : c ≠ '\\' := by
      rintro rfl
      cases rest with
      | nil =>
        rw [readString] at h
        cases h
      | cons e rest => exact hescape e rest rfl rfl
    exact hcons (.plain hquote hback (by omega)) (ih h)

theorem read_iff {s : RawString} {cs r : List Char} :
    readString [] cs = some (s, r) ↔ ∃ u, s.Spelled u ∧ cs = u ++ '"' :: r := by
  constructor
  · intro h
    obtain ⟨t, u, ht, rfl, rfl⟩ := spelled_of_read h
    exact ⟨u, ht, rfl⟩
  · rintro ⟨u, hs, rfl⟩
    exact hs.read [] r

end RawString

/-! ## Numbers -/

namespace RawNumber

/-- The digits before the point: a zero alone, or digits that do not begin with one. -/
def IsWhole (ds : List Char) : Prop := ds = ['0'] ∨ Digits ds ∧ ds ≠ [] ∧ ds.head? ≠ some '0'

/-- A fraction has a point and digits, or there is none. -/
inductive FractionSpelled : List Char → List Char → Prop
  | none : FractionSpelled [] []
  | digits {ds : List Char} (hds : Digits ds) (hne : ds ≠ []) : FractionSpelled ds ('.' :: ds)

/-- An exponent has a letter, maybe a sign, and digits, or there is none. -/
inductive ExponentSpelled : Option Int → List Char → Prop
  | none : ExponentSpelled none []
  | unsigned {e : Char} {ds : List Char} (he : e = 'e' ∨ e = 'E') (hds : Digits ds)
    (hne : ds ≠ []) : ExponentSpelled (some (digitsValue ds)) (e :: ds)
  | plus {e : Char} {ds : List Char} (he : e = 'e' ∨ e = 'E') (hds : Digits ds)
    (hne : ds ≠ []) : ExponentSpelled (some (digitsValue ds)) (e :: '+' :: ds)
  | minus {e : Char} {ds : List Char} (he : e = 'e' ∨ e = 'E') (hds : Digits ds)
    (hne : ds ≠ []) : ExponentSpelled (some (-digitsValue ds)) (e :: '-' :: ds)

/-- The parts of a number behind its sign. -/
inductive MagnitudeSpelled (negative : Bool) : RawNumber → List Char → Prop
  | mk {whole fraction f e : List Char} {exponent : Option Int} (hwhole : IsWhole whole)
    (hf : FractionSpelled fraction f) (he : ExponentSpelled exponent e) :
    MagnitudeSpelled negative ⟨negative, whole, fraction, exponent⟩ (whole ++ (f ++ e))

inductive Spelled : RawNumber → List Char → Prop
  | positive {n : RawNumber} {u : List Char} (h : MagnitudeSpelled false n u) : Spelled n u
  | negative {n : RawNumber} {u : List Char} (h : MagnitudeSpelled true n u) : Spelled n ('-' :: u)

section Complete

variable {n : RawNumber} {ds u r : List Char} {x : Option Int}

theorem not_sign_of_digit {c : Char} (hc : c.isDigit = true) : c ≠ '-' ∧ c ≠ '+' := by
  constructor <;>
  · rintro rfl
    cases hc

theorem ExponentSpelled.read (h : ExponentSpelled x u) (hr : Closes r) :
    readExponent (u ++ r) = some (x, r) := by
  have hstops := hr.stops
  cases h with
  | none =>
    cases r with
    | nil => rfl
    | cons c r =>
      have hlower := hr.ne (c := c) rfl (d := 'e') (by decide)
      have hupper := hr.ne (c := c) rfl (d := 'E') (by decide)
      simp [readExponent, hlower, hupper]
  | @unsigned c ds hc hds hne =>
    have hwhile := hds.takeWhile_append hstops.not_digit
    obtain ⟨d, ds, rfl⟩ := List.exists_cons_of_ne_nil hne
    obtain ⟨hminus, hplus⟩ := not_sign_of_digit (hds d List.mem_cons_self)
    rw [List.cons_append] at hwhile
    rcases hc with rfl | rfl <;> simp [readExponent, hminus, hplus, hwhile]
  | @plus c ds hc hds hne =>
    have hwhile := hds.takeWhile_append hstops.not_digit
    rcases hc with rfl | rfl <;> simp [readExponent, hwhile, hne]
  | @minus c ds hc hds hne =>
    have hwhile := hds.takeWhile_append hstops.not_digit
    rcases hc with rfl | rfl <;> simp [readExponent, hwhile, hne]

theorem ExponentSpelled.stops (h : ExponentSpelled x u) (hr : Closes r) : Stops (u ++ r) := by
  have hletter {c : Char} {cs : List Char} (hc : c = 'e' ∨ c = 'E') : Stops (c :: cs) := by
    intro d hd
    cases hd
    rcases hc with rfl | rfl <;> decide
  cases h with
  | none => exact hr.stops
  | unsigned hc => exact hletter hc
  | plus hc => exact hletter hc
  | minus hc => exact hletter hc

theorem FractionSpelled.read (h : FractionSpelled ds u) (hr : Stops r) :
    readFraction (u ++ r) = some (ds, r) := by
  cases h with
  | none =>
    refine readFraction.eq_2 r fun rest h => ?_
    exact (hr '.' (by rw [h]; rfl)).1 rfl
  | digits hds hne =>
    have hwhile := hds.takeWhile_append hr.not_digit
    simp [readFraction, hwhile, hne]

theorem FractionSpelled.not_digit (h : FractionSpelled ds u) (hr : Stops r) :
    ∀ c ∈ (u ++ r).head?, c.isDigit = false := by
  cases h with
  | none => exact hr.not_digit
  | digits _ _ =>
    intro c hc
    cases hc
    rfl

theorem MagnitudeSpelled.read {negative : Bool} (h : MagnitudeSpelled negative n u)
    (hr : Closes r) : readMagnitude negative (u ++ r) = some (n, r) := by
  cases h with
  | @mk whole fraction f e exponent hwhole hf he =>
    have hstops := he.stops hr
    have hfraction := hf.read hstops
    have hexponent := he.read hr
    rw [List.append_assoc, List.append_assoc]
    rcases hwhole with rfl | ⟨hds, hne, hhead⟩
    · simp [readMagnitude, hfraction, hexponent]
    · have hwhile := hds.takeWhile_append (hf.not_digit hstops)
      have hzero (rest : List Char) (h : whole ++ (f ++ (e ++ r)) = '0' :: rest) : False := by
        refine hhead ?_
        rw [← List.head?_append_of_ne_nil _ hne, h, List.head?_cons]
      rw [readMagnitude.eq_2 _ _ hzero]
      simp [hwhile, hne, hfraction, hexponent]

theorem MagnitudeSpelled.head {negative : Bool} (h : MagnitudeSpelled negative n u) :
    ∃ c cs, u = c :: cs ∧ c.isDigit = true := by
  cases h with
  | mk hwhole _ _ =>
    rcases hwhole with rfl | ⟨hds, hne, -⟩
    · exact ⟨'0', _, rfl, rfl⟩
    · obtain ⟨d, ds, rfl⟩ := List.exists_cons_of_ne_nil hne
      exact ⟨d, _, rfl, hds d List.mem_cons_self⟩

theorem Spelled.read (h : n.Spelled u) (hr : Closes r) : readNumber (u ++ r) = some (n, r) := by
  cases h with
  | positive h =>
    have hminus (rest : List Char) (hrest : u ++ r = '-' :: rest) : False := by
      obtain ⟨c, cs, rfl, hc⟩ := h.head
      cases hrest
      cases hc
    exact (readNumber.eq_2 _ hminus).trans (h.read hr)
  | negative h => exact h.read hr

theorem Spelled.head (h : n.Spelled u) : ∃ c cs, u = c :: cs ∧ (c = '-' ∨ c.isDigit = true) := by
  cases h with
  | positive h =>
    obtain ⟨c, cs, rfl, hc⟩ := h.head
    exact ⟨c, cs, rfl, .inr hc⟩
  | negative h => exact ⟨'-', _, rfl, .inl rfl⟩

end Complete

section Sound

variable {n : RawNumber} {negative : Bool} {cs ds r : List Char} {x : Option Int}

theorem digits_takeWhile (cs : List Char) : Digits (cs.takeWhile Char.isDigit) :=
  List.all_eq_true.mp List.all_takeWhile

theorem takeDigits_append (cs : List Char) :
    cs.takeWhile Char.isDigit ++ cs.drop (cs.takeWhile Char.isDigit).length = cs :=
  List.prefix_iff_eq_append.mp (List.takeWhile_prefix _)

/-- A reader that needs digits goes on behind them. -/
theorem of_takeDigits {α : Type} {a b : α}
    (h : (if (cs.takeWhile Char.isDigit).isEmpty then none
      else some (a, cs.drop (cs.takeWhile Char.isDigit).length)) = some (b, r)) :
    a = b ∧ Digits (cs.takeWhile Char.isDigit) ∧ cs.takeWhile Char.isDigit ≠ [] ∧
      cs = cs.takeWhile Char.isDigit ++ r := by
  split at h
  · cases h
  · rename_i hne
    cases h
    exact ⟨rfl, digits_takeWhile cs, by simpa using hne, (takeDigits_append cs).symm⟩

theorem exponentSpelled_of_read (h : readExponent cs = some (x, r)) :
    ∃ u, ExponentSpelled x u ∧ cs = u ++ r := by
  cases cs with
  | nil =>
    cases h
    exact ⟨[], .none, rfl⟩
  | cons c cs =>
    simp only [readExponent] at h
    split at h
    · rename_i hc
      have he : c = 'e' ∨ c = 'E' := by simpa using hc
      split at h <;> obtain ⟨rfl, hds, hne, hrest⟩ := of_takeDigits h
      · exact ⟨_, .minus he hds hne, congrArg (c :: '-' :: ·) hrest⟩
      · exact ⟨_, .plus he hds hne, congrArg (c :: '+' :: ·) hrest⟩
      · exact ⟨_, .unsigned he hds hne, congrArg (c :: ·) hrest⟩
    · cases h
      exact ⟨[], .none, rfl⟩

theorem fractionSpelled_of_read (h : readFraction cs = some (ds, r)) :
    ∃ u, FractionSpelled ds u ∧ cs = u ++ r := by
  unfold readFraction at h
  split at h
  · obtain ⟨rfl, hds, hne, hrest⟩ := of_takeDigits h
    exact ⟨_, .digits hds hne, congrArg ('.' :: ·) hrest⟩
  · cases h
    exact ⟨[], .none, rfl⟩

theorem magnitudeSpelled_of_parts {whole : List Char} (hwhole : IsWhole whole)
    (h : ((readFraction cs).bind fun p => (readExponent p.2).bind fun q =>
      some (RawNumber.mk negative whole p.1 q.1, q.2)) = some (n, r)) :
    ∃ u, MagnitudeSpelled negative n u ∧ whole ++ cs = u ++ r := by
  obtain ⟨⟨fraction, rest⟩, hfraction, h⟩ := Option.bind_eq_some_iff.mp h
  obtain ⟨⟨exponent, rest'⟩, hexponent, h⟩ := Option.bind_eq_some_iff.mp h
  cases h
  obtain ⟨f, hf, rfl⟩ := fractionSpelled_of_read hfraction
  obtain ⟨e, he, rfl⟩ := exponentSpelled_of_read hexponent
  exact ⟨_, .mk hwhole hf he, by simp⟩

theorem magnitudeSpelled_of_read (h : readMagnitude negative cs = some (n, r)) :
    ∃ u, MagnitudeSpelled negative n u ∧ cs = u ++ r := by
  by_cases hzero : ∃ tail, cs = '0' :: tail
  · obtain ⟨tail, rfl⟩ := hzero
    exact magnitudeSpelled_of_parts (.inl rfl) h
  · rw [readMagnitude.eq_2 _ _ fun tail ht => hzero ⟨tail, ht⟩] at h
    split at h
    · cases h
    · rename_i hne
      have hhead : (cs.takeWhile Char.isDigit).head? ≠ some '0' := by
        intro hhead
        rw [List.head?_takeWhile, Option.filter_eq_some_iff] at hhead
        exact hzero (List.head?_eq_some_iff.mp hhead.1)
      have hwhole : IsWhole (cs.takeWhile Char.isDigit) :=
        .inr ⟨digits_takeWhile cs, by simpa using hne, hhead⟩
      rw [← takeDigits_append cs]
      exact magnitudeSpelled_of_parts hwhole h

theorem spelled_of_read (h : readNumber cs = some (n, r)) : ∃ u, n.Spelled u ∧ cs = u ++ r := by
  unfold readNumber at h
  split at h
  · obtain ⟨u, hu, rfl⟩ := magnitudeSpelled_of_read h
    exact ⟨_, .negative hu, rfl⟩
  · obtain ⟨u, hu, rfl⟩ := magnitudeSpelled_of_read h
    exact ⟨u, .positive hu, rfl⟩

end Sound

end RawNumber

end CallScribe
