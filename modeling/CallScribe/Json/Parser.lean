import CallScribe.Json.Basic
import CallScribe.Json.Raw
import CallScribe.Decimal.Shortest

/-!
# CallScribe.Json.Parser

The values that JSON texts stand for.

* `RawString.text?`, `RawNumber.value?`: the text of a string, and the value of a number.
* `JsonShape`: the parts of a value that a reader looks at. What it does not look at has to be JSON
  by the grammar, and no more.
* `RawJson.value?`: these parts of a text, whose arrays and objects are nested to a bounded depth.
* `Json.readAs?`, `Json.read?`: the same from the text, by a shape and as a whole.
* `Json.parseWithin`: the whole value with the members of its objects in order.

Integers from -2^63 to 2^64 - 1 stay exact; every other number is rounded to double precision.
-/

namespace CallScribe

namespace RawString

/-- The characters of a string. A code unit of a pair waits in `high`. -/
def characters? : Option Nat → List Char → RawString → Option (List Char)
  | none, acc, [] => some acc.reverse
  | none, acc, .plain c :: rest => characters? none (c :: acc) rest
  | none, acc, .unit n :: rest =>
    if 0xD800 ≤ n && n ≤ 0xDBFF then characters? (some n) acc rest
    else if 0xDC00 ≤ n && n ≤ 0xDFFF then none
    else characters? none (Char.ofNat n :: acc) rest
  | some high, acc, .unit low :: rest =>
    if 0xDC00 ≤ low && low ≤ 0xDFFF then
      characters? none
        (Char.ofNat (0x10000 + (high - 0xD800) * 1024 + (low - 0xDC00)) :: acc) rest
    else none
  | some _, _, _ => none

/-- The text of a string, if its code units make characters. -/
def text? (s : RawString) : Option String := (characters? none [] s).map String.ofList

end RawString

/-- The value of a number, if it is in range. -/
def RawNumber.value? (r : RawNumber) : Option Json :=
  let n := Json.digitsValue r.whole
  if r.fraction.isEmpty && r.exponent.isNone &&
      (if r.negative then n ≠ 0 && n ≤ pow2 63 else n < pow2 64) then
    some (.int (if r.negative then -(n : Int) else n))
  else
    (Decimal.toDouble? r.negative (Json.digitsValue (r.whole ++ r.fraction))
      (r.exponent.getD 0 - r.fraction.length)).map .real

/-- The parts of a value that a reader looks at: all of it, every element of an array in one way, or
the named members of an object. The values of a record may also stand in an array. -/
inductive JsonShape
  | whole
  | list (item : JsonShape)
  | record (fields : List (String × JsonShape))

namespace JsonShape

/-- The shape of the element at a place. -/
def item : JsonShape → Nat → JsonShape
  | .whole, _ => .whole
  | .list item, _ => item
  | .record fields, i => (fields[i]?.map Prod.snd).getD .whole

/-- The shape of a member, unless the reader passes over it. -/
def member? : JsonShape → String → Option JsonShape
  | .record fields, key => Fields.get? key fields
  | _, _ => some .whole

end JsonShape

namespace RawJson

mutual

/-- The parts of a text that a shape looks at, if its nesting stays below a depth there. -/
def value? : JsonShape → Nat → RawJson → Option Json
  | _, _, .null => some .null
  | _, _, .bool b => some (.bool b)
  | _, _, .number n => n.value?
  | _, _, .string s => s.text?.map .string
  | shape, d + 2, .array items => (itemValues? shape 0 (d + 1) items).map .array
  | shape, d + 2, .object members => (memberValues? shape (d + 1) members).map .object
  | _, _, _ => none

def itemValues? (shape : JsonShape) (i depth : Nat) : List RawJson → Option (List Json)
  | [] => some []
  | v :: rest => do
    let v ← value? (shape.item i) depth v
    return v :: (← itemValues? shape (i + 1) depth rest)

/-- Every key has to be a text, also of a member that the reader passes over. -/
def memberValues? (shape : JsonShape) (depth : Nat) :
    List (RawString × RawJson) → Option (List (String × Json))
  | [] => some []
  | (key, v) :: rest => do
    let key ← key.text?
    match shape.member? key with
    | none => memberValues? shape depth rest
    | some part =>
      let v ← value? part depth v
      return (key, v) :: (← memberValues? shape depth rest)

end

end RawJson

namespace Json

/-- Reads what a shape looks at in a text. -/
def readAs? (shape : JsonShape) (depth : Nat) (text : String) : Option Json :=
  (RawJson.read? text).bind (RawJson.value? shape depth)

/-- Reads a whole text and puts the members of its objects in order. -/
def parseWithin (depth : Nat) (text : String) : Option Json :=
  (readAs? .whole depth text).map ordered

/-- The usual bound for the nesting. -/
def depthLimit : Nat := 128

def read? (text : String) : Option Json := readAs? .whole depthLimit text

end Json
end CallScribe
