import CallScribe.Decimal.Basic

/-!
# CallScribe.Call.Identifier

Random identifiers of calls.

* `Identifier.ofBits`: the text of 128 random bits, six of which tell the version and the variant.
-/

namespace CallScribe
namespace Identifier

/-- The lowest hex digits of a number, as many as asked for. -/
def hexDigits : Nat → Nat → List Char
  | 0, _ => []
  | k + 1, n => hexDigits k (n / 16) ++ Nat.toDigits 16 (n % 16)

/-- Groups of 8, 4, 4, 4 and 12 hex digits between hyphens. The third group begins with 4, the
fourth with a digit from 8 to b. -/
def ofBits (n : Nat) : String :=
  let group (skip width : Nat) : List Char := hexDigits width (n / pow2 (4 * skip))
  String.ofList (group 24 8 ++ '-' :: group 20 4 ++ '-' :: '4' :: group 17 3 ++
    '-' :: Nat.toDigits 16 (8 + n / pow2 64 % 4) ++ group 12 3 ++ '-' :: group 0 12)

end Identifier
end CallScribe
