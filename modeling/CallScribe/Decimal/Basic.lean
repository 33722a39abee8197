/-!
# CallScribe.Decimal.Basic

Decimal numbers with a sign, also of zero, and their text.

* `Decimal`: a sign, digits without trailing zeros, and an exponent of ten.
* `Decimal.ofDigits`: drops trailing zeros.
* `Decimal.chars`: positional between 10^-5 and 10^16, with an exponent elsewhere, and never
  without a point or an exponent.
-/

namespace CallScribe

/-- A power of two. -/
abbrev pow2 (k : Nat) : Nat := Nat.pow 2 k

/-- A power of ten. -/
abbrev pow10 (k : Nat) : Nat := Nat.pow 10 k

/-- A number `± digits · 10 ^ exponent`. -/
structure Decimal where
  negative : Bool
  digits : Nat
  exponent : Int
  trimmed : digits % 10 ≠ 0 ∨ (digits = 0 ∧ exponent = 0)
deriving DecidableEq, Repr

namespace Decimal

def zero (negative : Bool) : Decimal := ⟨negative, 0, 0, .inr ⟨rfl, rfl⟩⟩

/-- The number with the given digits, trailing zeros moved to the exponent. -/
def ofDigits (negative : Bool) (digits : Nat) (exponent : Int) : Decimal :=
  if hz : digits = 0 then zero negative
  else if h : digits % 10 = 0 then ofDigits negative (digits / 10) (exponent + 1)
  else ⟨negative, digits, exponent, .inl h⟩
termination_by digits
decreasing_by omega

/-- The digits of a natural number in base ten. -/
def digitChars (n : Nat) : List Char := Nat.toDigits 10 n

/-- An integer in base ten. -/
def intChars : Int → List Char
  | .ofNat n => digitChars n
  | .negSucc n => '-' :: digitChars (n + 1)

/-- The text of the absolute value. `point` digits stand before the point. -/
def magnitudeChars (d : Decimal) : List Char :=
  let ds := digitChars d.digits
  let point : Int := ds.length + d.exponent
  if d.digits = 0 then ['0', '.', '0']
  else if 0 ≤ d.exponent && point ≤ 16 then
    ds ++ List.replicate d.exponent.toNat '0' ++ ['.', '0']
  else if 0 < point && point ≤ 16 then
    ds.take point.toNat ++ '.' :: ds.drop point.toNat
  else if -5 < point && point ≤ 0 then
    '0' :: '.' :: List.replicate (-point).toNat '0' ++ ds
  else
    let sign := if 0 ≤ point - 1 then '+' else '-'
    let power := sign :: digitChars (point - 1).natAbs
    match ds with
    | [c] => c :: 'e' :: power
    | c :: rest => c :: '.' :: rest ++ 'e' :: power
    | [] => []

def chars (d : Decimal) : List Char :=
  if d.negative then '-' :: d.magnitudeChars else d.magnitudeChars

end Decimal
end CallScribe
