import CallScribe.Text.Folding
import CallScribe.Text.Category
import CallScribe.Url.Basic

/-!
# CallScribe.Url.Domain

Domain names in their ASCII form.

* `Domain.percentDecode`: the bytes that a written name stands for.
* `Punycode.encode`, `Punycode.decode?`: labels beyond ASCII as letters, digits and hyphens.
* `Domain.toAscii?`: the form that is looked up; none for a name that cannot be one.
* The instance of `DomainNames`. Names beyond ASCII are mapped by simple lower case, wide forms and
  ignored characters only, which is an assumption about those that occur.
-/

namespace CallScribe
namespace Punycode

/-- The digit with a value below 36. -/
def digit (n : Nat) : Char := if n < 26 then Char.ofNat (97 + n) else Char.ofNat (22 + n)

def value? (c : Char) : Option Nat :=
  if 'a' ≤ c && c ≤ 'z' then some (c.toNat - 97)
  else if 'A' ≤ c && c ≤ 'Z' then some (c.toNat - 65)
  else if '0' ≤ c && c ≤ '9' then some (c.toNat - 22)
  else none

/-- The bias after a delta. -/
def adapt (delta points : Nat) (first : Bool) : Nat :=
  let d := if first then delta / 700 else delta / 2
  let rec scale : Nat → Nat → Nat → Nat
    | 0, k, d => k + 36 * d / (d + 38)
    | fuel + 1, k, d => if 455 < d then scale fuel (k + 36) (d / 35) else k + 36 * d / (d + 38)
  scale 64 0 (d + d / points)

/-- The threshold of a digit's place. -/
def threshold (k bias : Nat) : Nat := if k ≤ bias then 1 else if bias + 26 ≤ k then 26 else k - bias

/-- A delta as digits, the least significant first. -/
def deltaDigits (bias : Nat) : Nat → Nat → Nat → List Char
  | 0, _, _ => []
  | fuel + 1, k, q =>
    let t := threshold k bias
    if q < t then [digit q]
    else digit (t + (q - t) % (36 - t)) :: deltaDigits bias fuel (k + 36) ((q - t) / (36 - t))

/-- One pass over the label for the code point `n`. -/
def encodePass (n : Nat) (basicCount : Nat) :
    List Char → Nat → Nat → Nat → List Char → Nat × Nat × Nat × List Char
  | [], delta, bias, handled, out => (delta, bias, handled, out)
  | c :: rest, delta, bias, handled, out =>
    if c.toNat < n then encodePass n basicCount rest (delta + 1) bias handled out
    else if c.toNat = n then
      encodePass n basicCount rest 0 (adapt delta (handled + 1) (handled = basicCount))
        (handled + 1) (out ++ deltaDigits bias 64 36 delta)
    else encodePass n basicCount rest delta bias handled out

/-- The least code point that is at least `n`. -/
def nextPoint (n : Nat) (label : List Char) : Option Nat :=
  ((label.map Char.toNat).filter (n ≤ ·)).min?

/-- Takes the code points beyond ASCII in ascending order. -/
def encodeFrom (label : List Char) (basicCount : Nat) :
    Nat → Nat → Nat → Nat → Nat → List Char → List Char
  | 0, _, _, _, _, out => out
  | fuel + 1, n, delta, bias, handled, out =>
    match nextPoint n label with
    | none => out
    | some m =>
      let (delta, bias, handled, out) :=
        encodePass m basicCount label (delta + (m - n) * (handled + 1)) bias handled out
      encodeFrom label basicCount fuel (m + 1) (delta + 1) bias handled out

def encode (label : List Char) : List Char :=
  let basic := label.filter (·.toNat < 128)
  let head := if basic.isEmpty then [] else basic ++ ['-']
  encodeFrom label basic.length (label.length + 1) 128 0 72 basic.length head

/-- One delta from its digits. -/
def readDelta (bias : Nat) : Nat → Nat → Nat → List Char → Option (Nat × List Char)
  | _, _, _, [] => none
  | k, i, w, c :: rest => do
    let d ← value? c
    let t := threshold k bias
    if d < t then some (i + d * w, rest)
    else readDelta bias (k + 36) (i + d * w) (w * (36 - t)) rest

/-- Puts code points into the label, one delta after the other. -/
def decodeFrom : Nat → Nat → Nat → Nat → List Char → List Char → Option (List Char)
  | 0, _, _, _, _, _ => none
  | _ + 1, _, _, _, out, [] => some out
  | fuel + 1, n, i, bias, out, cs => do
    let (j, rest) ← readDelta bias 36 i 1 cs
    let size := out.length + 1
    let n := n + j / size
    if n < 0xD800 || (0xE000 ≤ n && n ≤ 0x10FFFF) then
      let place := j % size
      decodeFrom fuel n (place + 1) (adapt (j - i) size (i = 0))
        (out.take place ++ Char.ofNat n :: out.drop place) rest
    else none

def decode? (cs : List Char) : Option (List Char) :=
  let digits := (cs.reverse.takeWhile (· ≠ '-')).reverse
  let basic := cs.take (cs.length - digits.length - 1)
  decodeFrom (cs.length + 1) 128 0 72 basic digits

end Punycode

namespace Domain

/-- The bytes that a text with escapes stands for. -/
def percentDecode : List Char → List UInt8
  | [] => []
  | '%' :: a :: b :: rest =>
    match addressHex? a, addressHex? b with
    | some x, some y => UInt8.ofNat (x * 16 + y) :: percentDecode rest
    | _, _ => 37 :: percentDecode (a :: b :: rest)
  | c :: rest => (String.ofList [c]).toUTF8.toList ++ percentDecode rest

/-- Characters that no domain holds: controls, blanks and delimiters. -/
def isDenied (c : Char) : Bool :=
  c.toNat ≤ 32 || c.toNat = 127 ||
    ['%', '#', '/', ':', '<', '>', '?', '@', '[', '\\', ']', '^', '|'].contains c

/-- The lower case of a letter beyond ASCII: the other member of its class of cases that is a
lower-case letter. -/
def lowerBeyond (c : Char) : Char :=
  match (Folding.orbits.flatMap (·.splitOn " ")).find? fun o => o.toList.contains c with
  | some o => (o.toList.find? fun d => Category.ofChar d = "Ll").getD c
  | none => c

/-- What a character of a name becomes: wide forms are narrowed, every full stop is a dot, and
what only guides the layout is dropped. -/
def mapChar (c : Char) : List Char :=
  let n := c.toNat
  if n < 128 then [c.toLower]
  else if n = 0x3002 || n = 0xFF0E || n = 0xFF61 then ['.']
  else if 0xFF01 ≤ n && n ≤ 0xFF5E then [(Char.ofNat (n - 0xFEE0)).toLower]
  else if n = 0xAD || n = 0x200B || n = 0x2060 || n = 0xFEFF || (0xFE00 ≤ n && n ≤ 0xFE0F) then []
  else if c = '\u212a' then ['k']
  else if c = '\u0130' then ['i', '\u0307']
  else if Category.ofChar c = "Lu" then [lowerBeyond c]
  else [c]

/-- Characters that no label holds. -/
def isDisallowed (c : Char) : Bool :=
  127 < c.toNat && ["Cc", "Cf", "Cs", "Co", "Cn", "Zl", "Zp", "Zs"].contains (Category.ofChar c)

/-- Whether a label begins with a mark, which has nothing to attach to. -/
def beginsWithMark (label : List Char) : Bool :=
  label.head?.any fun c => ["Mn", "Mc", "Me"].contains (Category.ofChar c)

/-- One label in its ASCII form. -/
def labelToAscii? (label : List Char) : Option (List Char) :=
  match label with
  | 'x' :: 'n' :: '-' :: '-' :: digits =>
    match Punycode.decode? digits with
    | none => none
    | some decoded =>
      if decoded.all (·.toNat < 128) || decoded.any isDisallowed ||
          beginsWithMark decoded || decoded.flatMap mapChar ≠ decoded then none
      else some label
  | _ =>
    if label.all (·.toNat < 128) then some label
    else if label.any isDisallowed || beginsWithMark label then none
    else some ('x' :: 'n' :: '-' :: '-' :: Punycode.encode label)

/-- The labels in their ASCII form, with dots between. -/
def joinLabels : List (List Char) → Option (List Char)
  | [] => some []
  | [l] => labelToAscii? l
  | l :: rest => do
    let first ← labelToAscii? l
    let others ← joinLabels rest
    some (first ++ '.' :: others)

/-- The ASCII form of a written domain. -/
def toAscii? (cs : List Char) : Option (List Char) := do
  let text ← String.fromUTF8? ⟨(percentDecode cs).toArray⟩
  let mapped := text.toList.flatMap mapChar
  if mapped.any isDenied then none else joinLabels (splitChars '.' mapped)

end Domain

/-- The rules that the program runs with. -/
instance : DomainNames where
  toAscii? := Domain.toAscii?

end CallScribe
