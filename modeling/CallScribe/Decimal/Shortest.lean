import CallScribe.Decimal.Basic

/-!
# CallScribe.Decimal.Shortest

Rounding to double precision, and the shortest decimal that rounds to a given double.

* `Binary`: a finite double as a mantissa and a power of two.
* `Binary.round?`: the nearest double of a decimal, ties to the even mantissa.
* `Binary.shortest`: the decimal with the fewest digits that rounds back, the nearest of those.
* `Decimal.toDouble?`: both in turn, which gives a decimal its canonical form.
-/

namespace CallScribe

/-- A finite double without its sign: `mantissa · 2 ^ power`. -/
structure Binary where
  mantissa : Nat
  power : Int
deriving DecidableEq, Repr

namespace Binary

/-- The quotient rounded to the nearest integer, a half to the even neighbour. -/
def divRound (num den : Nat) : Nat :=
  let q := num / den
  let r := num % den
  if 2 * r < den then q
  else if den < 2 * r then q + 1
  else if q % 2 = 0 then q else q + 1

/-- The fraction `num · 2 ^ -power / den`, rounded. -/
def scaled (num den : Nat) (power : Int) : Nat :=
  if 0 ≤ power then divRound num (den * pow2 power.toNat)
  else divRound (num * pow2 (-power).toNat) den

/-- The greatest power of two that is not above a fraction. -/
def floorLog (num den : Nat) : Int :=
  let guess : Int := (Nat.log2 num : Int) - Nat.log2 den
  let fits := if 0 ≤ guess then den * pow2 guess.toNat ≤ num else den ≤ num * pow2 (-guess).toNat
  if fits then guess else guess - 1

/-- The nearest double of a positive fraction; none beyond the greatest one. -/
def ofFraction? (num den : Nat) : Option Binary :=
  let power := max (floorLog num den - 52) (-1074)
  let m := scaled num den power
  let (m, power) := if m = pow2 53 then (pow2 52, power + 1) else (m, power)
  if 971 < power then none else some ⟨m, power⟩

/-- The nearest double of `digits · 10 ^ exponent`. -/
def round? (digits : Nat) (exponent : Int) : Option Binary :=
  let size : Int := (Decimal.digitChars digits).length + exponent
  if digits = 0 || size < -330 then some ⟨0, 0⟩
  else if 310 < size then none
  else if 0 ≤ exponent then ofFraction? (digits * pow10 exponent.toNat) 1
  else ofFraction? digits (pow10 (-exponent).toNat)

/-- Compares `a · 10 ^ p` with `x · 2 ^ q`. -/
def compareWith (a : Nat) (p : Int) (x : Nat) (q : Int) : Ordering :=
  compare (a * pow10 p.toNat * pow2 (-q).toNat) (x * pow2 q.toNat * pow10 (-p).toNat)

/-- The distance of `a · 10 ^ p` and `x · 2 ^ q`, in a unit that depends on `p` and `q` alone. -/
def distance (a : Nat) (p : Int) (x : Nat) (q : Int) : Nat :=
  let l := a * pow10 p.toNat * pow2 (-q).toNat
  let r := x * pow2 q.toNat * pow10 (-p).toNat
  (l - r) + (r - l)

/-- Whether a decimal rounds to the double: it lies between the midpoints to the neighbours, which
themselves belong to an even mantissa. -/
def covers (b : Binary) (a : Nat) (p : Int) : Bool :=
  let low := 4 * b.mantissa - (if b.mantissa = pow2 52 && b.power ≠ -1074 then 1 else 2)
  let high := 4 * b.mantissa + 2
  let below := compareWith a p low (b.power - 2)
  let above := compareWith a p high (b.power - 2)
  if b.mantissa % 2 = 0 then below != .lt && above != .gt else below == .gt && above == .lt

/-- The number of digits before the point, negative for leading zeros after it. -/
def magnitude (b : Binary) : Int :=
  let rec climb : Nat → Int → Int
    | 0, e => e
    | fuel + 1, e => if compareWith 1 e b.mantissa b.power = .gt then e else climb fuel (e + 1)
  climb 700 (-330)

/-- Of the two neighbours of the double on the grid of `10 ^ p` the one to take, if any: the nearer
one that rounds to the double, and of two at the same distance the even one. -/
def onGrid (b : Binary) (p : Int) : Option Nat :=
  let a := (b.mantissa * pow2 b.power.toNat * pow10 (-p).toNat) /
    (pow2 (-b.power).toNat * pow10 p.toNat)
  match b.covers a p, b.covers (a + 1) p with
  | true, true =>
    let toLower := distance a p b.mantissa b.power
    let toUpper := distance (a + 1) p b.mantissa b.power
    if toUpper < toLower || (toUpper = toLower && a % 2 = 1) then some (a + 1) else some a
  | true, false => some a
  | false, true => some (a + 1)
  | false, false => none

/-- Tries one more digit at a time, at most `fuel`. -/
def tryDigits (b : Binary) : Nat → Int → Nat × Int
  | 0, p => ((b.onGrid p).getD 0, p)
  | fuel + 1, p =>
    match b.onGrid p with
    | some a => (a, p)
    | none => tryDigits b fuel (p - 1)

/-- The shortest decimal that rounds to the double, as digits and an exponent. -/
def shortest (b : Binary) : Nat × Int :=
  if b.mantissa = 0 then (0, 0) else b.tryDigits 17 (b.magnitude - 1)

end Binary

namespace Decimal

/-- The number as a double shows it; none for a number beyond the greatest double. -/
def toDouble? (negative : Bool) (digits : Nat) (exponent : Int) : Option Decimal :=
  (Binary.round? digits exponent).map fun b =>
    let (ds, e) := b.shortest
    ofDigits negative ds e

end Decimal
end CallScribe
