import CallScribe.Pattern.Reader

/-!
# CallScribe.Pattern.Compiler

The compiler of patterns that the program runs with.

* `CharSet.byteSequences`: the encodings of a set, as sequences of ranges of bytes.
* `Pattern.weight`: what a compiled pattern is taken to need.
* The instance of `PatternCompiler`: texts that can be read, up to a weight.
-/

namespace CallScribe

/-- The bytes of a code point in UTF-8. -/
def encodedPoint (n : Nat) : List Nat :=
  if n < 0x80 then [n]
  else if n < 0x800 then [0xC0 + n / 64, 0x80 + n % 64]
  else if n < 0x10000 then [0xE0 + n / 4096, 0x80 + n / 64 % 64, 0x80 + n % 64]
  else [0xF0 + n / 262144, 0x80 + n / 4096 % 64, 0x80 + n / 64 % 64, 0x80 + n % 64]

/-- The last code points of their length, and those around the surrogates. -/
def lengthBounds : List Nat := [0x7F, 0x7FF, 0xD7FF, 0xDFFF, 0xFFFF]

/-- Where a range of code points of one length has to be cut, so that each byte ranges on its own:
the last code point of the first part. -/
def blockBound? (a b : Nat) : Option Nat :=
  [64, 4096, 262144].findSome? fun block =>
    if a / block = b / block then none
    else if a % block ≠ 0 then some (a / block * block + block - 1)
    else if b % block ≠ block - 1 then some (b / block * block - 1)
    else none

/-- The ranges of bytes that encode a range of code points; surrogates have no encoding. -/
def encodedRange : Nat → Nat → Nat → List (List (Nat × Nat))
  | 0, _, _ => []
  | fuel + 1, a, b =>
    let cut := (lengthBounds.find? fun m => a ≤ m && m < b).orElse fun _ =>
      if b < 0x80 then none else blockBound? a b
    match cut with
    | some m => encodedRange fuel a m ++ encodedRange fuel (m + 1) b
    | none =>
      if 0xD800 ≤ a && b ≤ 0xDFFF then [] else [(encodedPoint a).zip (encodedPoint b)]

/-- The length of the beginning that two lists share. -/
def sharedLength {α : Type} [BEq α] : List α → List α → Nat
  | x :: xs, y :: ys => if x == y then sharedLength xs ys + 1 else 0
  | _, _ => 0

namespace CharSet

def byteSequences (s : CharSet) : List (List (Nat × Nat)) :=
  s.ranges.flatMap fun r => encodedRange 64 r.1 r.2

/-- A state for each range of bytes, and one entry for each sequence in the choice between them;
sequences share the states of their common beginnings. A set of ASCII characters is one state. -/
def weight (s : CharSet) : Nat :=
  if s.beyondAscii then
    let sequences := s.byteSequences
    let states := ([] :: sequences).zipWith (fun before q => q.length - sharedLength before q)
      sequences
    64 + 4 * sequences.length + 32 * states.foldl (· + ·) 0
  else if s.ranges.length ≤ 1 then 32 else 32 + 8 * s.ranges.length

end CharSet

namespace Pattern

/-- A repetition is as many copies, with a choice after each that may be the last. -/
def repeatedWeight (copy least : Nat) : Option Nat → Nat
  | some most => copy * most + 40 * (most - least)
  | none => copy * max 1 least + 40

/-- What a compiled pattern is taken to need: 32 bytes for a state, and more for a choice. This
measure and the bound for it are assumptions about compilers. -/
def weight : Pattern → Nat
  | .empty | .look _ => 32
  | .one s => s.weight
  | .run s least most _ => repeatedWeight s.weight least most
  | .seq p q => p.weight + q.weight
  | .alt p q => p.weight + q.weight + 72
  | .loop p least most _ => repeatedWeight p.weight least most
  | .lead p => p.weight

/-- The greatest weight of a pattern, ten mebibytes. -/
def heaviest : Nat := 10 * 1048576

end Pattern

/-- The compiler that the program runs with. It has no words for what is wrong with a text. -/
instance : PatternCompiler where
  compile text :=
    match Pattern.read? (·.weight ≤ Pattern.heaviest) text with
    | some p => .ok p
    | none => .error none

end CallScribe
