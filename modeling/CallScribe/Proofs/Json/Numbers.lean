import CallScribe.Json.Parser
import CallScribe.Proofs.Json.Lexical
import CallScribe.Proofs.Json.Printed

/-!
# CallScribe.Proofs.Json.Numbers

The number that a text stands for, without rounding.

* `Decimal.Parts`: the digits before and after the point, and a power of ten.
* `Decimal.magnitudeChars_written`: the text of a decimal has such parts, and they give back its
  digits and its exponent. At most zeros have been put behind the digits.
* `Json.exactNumber?`: the number of a text. One with a point or an exponent is no integer.
* `Json.exactNumber?_intChars`, `Json.exactNumber?_chars`: every printed number is read back.
-/

namespace CallScribe

theorem pow10_zero : pow10 0 = 1 := rfl

theorem pow10_succ (n : Nat) : pow10 (n + 1) = pow10 n * 10 := rfl

namespace Json

open Decimal

theorem digitsValue_eq (ds : List Char) : digitsValue ds = Nat.ofDigitChars 10 ds 0 := by
  have hstep : (fun n (c : Char) => n * 10 + (c.toNat - 48)) =
      fun n c => 10 * n + (c.toNat - '0'.toNat) := by
    funext n c
    rw [Nat.mul_comm]
    rfl
  unfold digitsValue Nat.ofDigitChars
  rw [hstep]

theorem digitsValue_digitChars (n : Nat) : digitsValue (digitChars n) = n :=
  (digitsValue_eq _).trans (Nat.ofDigitChars_toDigits (by decide) (by decide))

theorem digitsValue_append (u v : List Char) :
    digitsValue (u ++ v) = v.foldl (fun n c => n * 10 + (c.toNat - 48)) (digitsValue u) :=
  List.foldl_append

theorem digitsValue_zeros_append (n : Nat) (ds : List Char) :
    digitsValue (List.replicate n '0' ++ ds) = digitsValue ds := by
  induction n with
  | zero => rfl
  | succ n ih => exact ih

theorem digitsValue_append_zeros (ds : List Char) (n : Nat) :
    digitsValue (ds ++ List.replicate n '0') = digitsValue ds * pow10 n := by
  induction n with
  | zero => simp
  | succ n ih =>
    rw [List.replicate_succ', ← List.append_assoc, digitsValue_append, ih, pow10_succ,
      ← Nat.mul_assoc]
    rfl

end Json

namespace Decimal

open Json

/-! ## Parts of a number -/

theorem exponent_of_digits_zero {d : Decimal} (h : d.digits = 0) : d.exponent = 0 := by
  rcases d.trimmed with hd | hd
  · exact absurd (by rw [h]) hd
  · exact hd.2

theorem ofDigits_trimmed (d : Decimal) : ofDigits d.negative d.digits d.exponent = d := by
  obtain ⟨negative, digits, exponent, trimmed⟩ := d
  rw [ofDigits]
  rcases trimmed with h | ⟨rfl, rfl⟩
  · rw [dif_neg (by rintro rfl; exact h rfl), dif_neg h]
  · rfl

/-- Zeros behind the digits count for the exponent only. -/
theorem ofDigits_zeros (d : Decimal) (k : Nat) :
    ofDigits d.negative (d.digits * pow10 k) (d.exponent - k) = d := by
  induction k with
  | zero => simpa using ofDigits_trimmed d
  | succ k ih =>
    by_cases hz : d.digits = 0
    · have hzero := ofDigits_trimmed d
      rw [hz, exponent_of_digits_zero hz] at hzero
      rw [hz, Nat.zero_mul, ← hzero, ofDigits, ofDigits, dif_pos rfl, dif_pos rfl]
      rfl
    · have hpos : 0 < d.digits * pow10 (k + 1) :=
        Nat.mul_pos (Nat.pos_of_ne_zero hz) (Nat.pow_pos (by decide))
      have hten : d.digits * pow10 (k + 1) = d.digits * pow10 k * 10 := by
        rw [pow10_succ, Nat.mul_assoc]
      rw [ofDigits, dif_neg (by omega), dif_pos (by omega), hten,
        Nat.mul_div_cancel _ (by decide)]
      rwa [show d.exponent - ((k + 1 : Nat) : Int) + 1 = d.exponent - k by omega]

/-- The parts of the text of a number without a sign. -/
structure Parts where
  whole : List Char
  fraction : List Char
  power : Option Int
  whole_ne_nil : whole ≠ []
  digits_whole : Digits whole
  digits_fraction : Digits fraction

namespace Parts

/-- A fraction stands behind a point; without digits there is none. -/
def fractionChars (p : Parts) : List Char :=
  if p.fraction.isEmpty then [] else '.' :: p.fraction

def powerChars (p : Parts) : List Char :=
  match p.power with
  | none => []
  | some n => 'e' :: (if 0 ≤ n then '+' else '-') :: digitChars n.natAbs

def chars (p : Parts) : List Char := p.whole ++ (p.fractionChars ++ p.powerChars)

/-- All digits, as one number. -/
def digits (p : Parts) : Nat := digitsValue (p.whole ++ p.fraction)

/-- The power of ten that the last digit counts for. -/
def exponent (p : Parts) : Int := p.power.getD 0 - p.fraction.length

end Parts

/-- The text has parts that stand for a number, and a point or an exponent. Its digits may have got
zeros behind them, which the exponent takes back. -/
def Written (cs : List Char) (digits : Nat) (exponent : Int) : Prop :=
  ∃ p : Parts, cs = p.chars ∧ (p.fraction ≠ [] ∨ p.power ≠ none) ∧
    ∃ k : Nat, p.digits = digits * pow10 k ∧ p.exponent = exponent - k

section Layouts

variable {ds : List Char} {exponent : Int}

theorem digits_zero : Digits ['0'] := digits_zeros 1

theorem written_integral (hds : Digits ds) (hne : ds ≠ []) (hexp : 0 ≤ exponent) :
    Written (ds ++ List.replicate exponent.toNat '0' ++ ['.', '0']) (digitsValue ds) exponent := by
  refine ⟨⟨ds ++ List.replicate exponent.toNat '0', ['0'], none, by simp [hne],
    hds.append (digits_zeros _), digits_zero⟩, ?_, .inl (by simp), exponent.toNat + 1, ?_, ?_⟩
  · simp [Parts.chars, Parts.fractionChars, Parts.powerChars]
  · rw [← digitsValue_append_zeros, List.replicate_succ', ← List.append_assoc]
    rfl
  · simp only [Parts.exponent, Option.getD_none, List.length_singleton]
    omega

theorem written_positional (hds : Digits ds) (hne : ds ≠ []) (hpoint : 0 < ds.length + exponent)
    (hexp : exponent < 0) :
    Written (ds.take (ds.length + exponent).toNat ++ '.' :: ds.drop (ds.length + exponent).toNat)
      (digitsValue ds) exponent := by
  generalize hn : (ds.length + exponent).toNat = n
  have hdrop : ds.drop n ≠ [] := by
    rw [ne_eq, List.drop_eq_nil_iff]
    omega
  have htake : ds.take n ≠ [] := by
    rw [ne_eq, List.take_eq_nil_iff, not_or]
    exact ⟨by omega, hne⟩
  refine ⟨⟨ds.take n, ds.drop n, none, htake, hds.of_subset (List.take_subset _ _),
    hds.of_subset (List.drop_subset _ _)⟩, ?_, .inl hdrop, 0, ?_, ?_⟩
  · simp [Parts.chars, Parts.fractionChars, Parts.powerChars, List.isEmpty_eq_false_iff.mpr hdrop]
  · simp [Parts.digits]
  · simp only [Parts.exponent, Option.getD_none, List.length_drop]
    omega

theorem written_small (hds : Digits ds) (hne : ds ≠ []) (hpoint : ds.length + exponent ≤ 0) :
    Written ('0' :: '.' :: List.replicate (-(ds.length + exponent)).toNat '0' ++ ds)
      (digitsValue ds) exponent := by
  generalize hn : (-(ds.length + exponent)).toNat = n
  refine ⟨⟨['0'], List.replicate n '0' ++ ds, none, by simp, digits_zero,
    (digits_zeros _).append hds⟩, ?_, .inl (by simp [hne]), 0, ?_, ?_⟩
  · simp [Parts.chars, Parts.fractionChars, Parts.powerChars, hne]
  · rw [pow10_zero, Nat.mul_one]
    exact digitsValue_zeros_append (n + 1) ds
  · simp only [Parts.exponent, Option.getD_none, List.length_append, List.length_replicate]
    omega

theorem written_power {c : Char} (hds : Digits (c :: ds)) {power : Int}
    (hpower : power = ds.length + exponent) :
    Written (c :: (if ds.isEmpty then [] else '.' :: ds) ++
        'e' :: (if 0 ≤ power then '+' else '-') :: digitChars power.natAbs)
      (digitsValue (c :: ds)) exponent := by
  obtain ⟨hc, hds⟩ := List.forall_mem_cons.mp hds
  refine ⟨⟨[c], ds, some power, by simp, by simpa [Digits] using hc, hds⟩, rfl, .inr (by simp), 0,
    ?_, ?_⟩
  · simp [Parts.digits]
  · simp only [Parts.exponent, Option.getD_some]
    omega

end Layouts

theorem magnitudeChars_written (d : Decimal) : Written d.magnitudeChars d.digits d.exponent := by
  have hne : digitChars d.digits ≠ [] := Nat.toDigits_ne_nil
  have hds := digits_digitChars d.digits
  have hvalue := digitsValue_digitChars d.digits
  unfold magnitudeChars
  dsimp only
  generalize digitChars d.digits = ds at hne hds hvalue ⊢
  split
  · rename_i hz
    rw [hz, exponent_of_digits_zero hz]
    exact written_integral digits_zero (by simp) (Int.le_refl 0)
  · rw [← hvalue]
    split
    · rename_i hlayout
      simp only [Bool.and_eq_true, decide_eq_true_eq] at hlayout
      exact written_integral hds hne hlayout.1
    · split
      · rename_i hnot hlayout
        simp only [Bool.and_eq_true, decide_eq_true_eq] at hnot hlayout
        exact written_positional hds hne hlayout.1 (by omega)
      · split
        · rename_i hlayout
          simp only [Bool.and_eq_true, decide_eq_true_eq] at hlayout
          exact written_small hds hne hlayout.2
        · split
          · exact written_power hds (by simp only [List.length_singleton, List.length_nil]; omega)
          · rename_i c rest hmany _ _ _
            have hrest : rest.isEmpty = false := List.isEmpty_eq_false_iff.mpr hmany
            have hpower : ((c :: rest).length : Int) + d.exponent - 1 =
                rest.length + d.exponent := by
              rw [List.length_cons]
              omega
            have h := written_power hds hpower
            rwa [hrest, if_neg (by decide)] at h
          · exact absurd rfl hne

end Decimal

/-! ## Reading -/

namespace Json

open Decimal

/-- The number of a text without a sign, its parts taken as they stand. -/
def exactMagnitude? (negative : Bool) (cs : List Char) : Option Json := do
  let whole := cs.takeWhile Char.isDigit
  if whole.isEmpty then none
  else
    let (fraction, rest) ← readFraction (cs.drop whole.length)
    let (power, _) ← readExponent rest
    if fraction.isEmpty && power.isNone then
      some (.int (if negative then -(digitsValue whole : Int) else digitsValue whole))
    else
      some (.real (ofDigits negative (digitsValue (whole ++ fraction))
        (power.getD 0 - fraction.length)))

/-- The number of a text. -/
def exactNumber? : List Char → Option Json
  | '-' :: cs => exactMagnitude? true cs
  | cs => exactMagnitude? false cs

theorem fractionSpelled_chars (p : Parts) :
    RawNumber.FractionSpelled p.fraction p.fractionChars := by
  have hdigits := p.digits_fraction
  unfold Parts.fractionChars
  cases hf : p.fraction with
  | nil => exact .none
  | cons c r =>
    rw [hf] at hdigits
    exact .digits hdigits (List.cons_ne_nil c r)

theorem exponentSpelled_chars (p : Parts) : RawNumber.ExponentSpelled p.power p.powerChars := by
  unfold Parts.powerChars
  cases p.power with
  | none => exact .none
  | some n =>
    have hdigits := digits_digitChars n.natAbs
    have hne : digitChars n.natAbs ≠ [] := Nat.toDigits_ne_nil
    by_cases hn : 0 ≤ n
    · have h := RawNumber.ExponentSpelled.plus (.inl rfl : 'e' = 'e' ∨ 'e' = 'E') hdigits hne
      rw [digitsValue_digitChars, Int.natAbs_of_nonneg hn] at h
      simpa only [if_pos hn] using h
    · have h := RawNumber.ExponentSpelled.minus (.inl rfl : 'e' = 'e' ∨ 'e' = 'E') hdigits hne
      have habs : -(n.natAbs : Int) = n := by omega
      rw [digitsValue_digitChars, habs] at h
      simpa only [if_neg hn] using h

/-- The number that the parts stand for. -/
def ofParts (negative : Bool) (p : Parts) : Json :=
  if p.fraction.isEmpty && p.power.isNone then
    .int (if negative then -(digitsValue p.whole : Int) else digitsValue p.whole)
  else .real (ofDigits negative p.digits p.exponent)

theorem exactMagnitude?_chars (negative : Bool) (p : Parts) :
    exactMagnitude? negative p.chars = some (ofParts negative p) := by
  have hstops := (exponentSpelled_chars p).stops closes_nil
  have hfraction := (fractionSpelled_chars p).read hstops
  have hexponent := (exponentSpelled_chars p).read closes_nil
  have hwhile := p.digits_whole.takeWhile_append ((fractionSpelled_chars p).not_digit hstops)
  have hwhole : p.whole.isEmpty = false := List.isEmpty_eq_false_iff.mpr p.whole_ne_nil
  rw [List.append_nil] at hfraction hexponent hwhile
  unfold exactMagnitude? Parts.chars ofParts
  simp only [hwhile, hwhole, Bool.false_eq_true, if_false, List.drop_left, hfraction, hexponent,
    Option.bind_eq_bind, Option.bind_some]
  split <;> rfl

theorem exactNumber?_chars_parts (negative : Bool) (p : Parts) :
    exactNumber? (if negative then '-' :: p.chars else p.chars) = some (ofParts negative p) := by
  cases negative with
  | true => exact exactMagnitude?_chars true p
  | false =>
    obtain ⟨c, cs, hwhole⟩ := List.exists_cons_of_ne_nil p.whole_ne_nil
    have hc : c ≠ '-' := by
      rintro rfl
      exact absurd (p.digits_whole '-' (by rw [hwhole]; simp)) (by decide)
    rw [← exactMagnitude?_chars, if_neg (by decide), Parts.chars, hwhole, List.cons_append]
    unfold exactNumber?
    split
    · rename_i heq
      exact absurd (List.cons.inj heq).1 hc
    · rfl

theorem exactNumber?_intChars (n : Int) : exactNumber? (intChars n) = some (.int n) := by
  have hparts := fun (negative : Bool) (m : Nat) => exactNumber?_chars_parts negative
    ⟨digitChars m, [], none, Nat.toDigits_ne_nil, digits_digitChars m, by simp [Digits]⟩
  simp only [Parts.chars, Parts.fractionChars, Parts.powerChars, ofParts, List.isEmpty_nil,
    if_true, List.append_nil, Option.isNone_none, Bool.and_self, digitsValue_digitChars] at hparts
  cases n with
  | ofNat n => exact hparts false n
  | negSucc n => exact hparts true (n + 1)

theorem exactNumber?_chars (d : Decimal) : exactNumber? d.chars = some (.real d) := by
  obtain ⟨p, htext, hreal, k, hdigits, hexp⟩ := magnitudeChars_written d
  have hnot : (p.fraction.isEmpty && p.power.isNone) = false := by
    rw [Bool.and_eq_false_iff, List.isEmpty_eq_false_iff, ← Bool.not_eq_true,
      Option.isNone_iff_eq_none]
    exact hreal
  rw [Decimal.chars, htext, exactNumber?_chars_parts, ofParts, hnot, if_neg (by decide), hdigits,
    hexp, ofDigits_zeros]

end Json
end CallScribe
