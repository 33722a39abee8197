/-!
# CallScribe.Json.Raw

JSON texts by their grammar alone.

* `RawString`, `RawNumber`, `RawJson`: what is written. A number may be out of every range, and code
  units may make no character.
* `Json.readString`, `Json.readNumber`, `Json.readList`, `RawJson.readValue`: parts of a text, with
  what is left of it.
* `RawJson.read?`: a whole text, nested as deep as it may be.
-/

namespace CallScribe

/-- What stands for a character in a string: the character or its escape, or a code unit. -/
inductive RawChar
  | plain (c : Char)
  | unit (n : Nat)

abbrev RawString := List RawChar

/-- The digits of a number, and its exponent if it has one. -/
structure RawNumber where
  negative : Bool
  whole : List Char
  fraction : List Char
  exponent : Option Int

/-- A JSON text. Objects have all members as they are written. -/
inductive RawJson
  | null
  | bool (b : Bool)
  | number (n : RawNumber)
  | string (s : RawString)
  | array (items : List RawJson)
  | object (members : List (RawString × RawJson))

namespace Json

/-- The blanks of JSON. -/
def isSpace (c : Char) : Bool := c = ' ' || c = '\n' || c = '\t' || c = '\r'

def skipSpace (cs : List Char) : List Char := cs.dropWhile isSpace

def hexValue? (c : Char) : Option Nat :=
  if '0' ≤ c && c ≤ '9' then some (c.toNat - 48)
  else if 'a' ≤ c && c ≤ 'f' then some (c.toNat - 87)
  else if 'A' ≤ c && c ≤ 'F' then some (c.toNat - 55)
  else none

/-- The value of four hex digits. -/
def hex4? (a b c d : Char) : Option Nat := do
  some (((← hexValue? a) * 16 + (← hexValue? b)) * 256 + (← hexValue? c) * 16 + (← hexValue? d))

/-- The character that a letter behind a backslash stands for. -/
def escaped? : Char → Option Char
  | '"' => some '"'
  | '\\' => some '\\'
  | '/' => some '/'
  | 'b' => some '\x08'
  | 'f' => some '\x0c'
  | 'n' => some '\n'
  | 'r' => some '\r'
  | 't' => some '\t'
  | _ => none

/-- The string up to the closing quote. -/
def readString : RawString → List Char → Option (RawString × List Char)
  | _, [] => none
  | acc, '"' :: rest => some (acc.reverse, rest)
  | acc, '\\' :: 'u' :: a :: b :: c :: d :: rest => do
    let n ← hex4? a b c d
    readString (.unit n :: acc) rest
  | acc, '\\' :: c :: rest => do
    let c ← escaped? c
    readString (.plain c :: acc) rest
  | acc, c :: rest => if c.toNat < 32 then none else readString (.plain c :: acc) rest

/-- The natural number that digits spell. -/
def digitsValue (ds : List Char) : Nat := ds.foldl (fun n c => n * 10 + (c.toNat - 48)) 0

/-- The fraction of a number: its digits, none if there is no point. -/
def readFraction : List Char → Option (List Char × List Char)
  | '.' :: rest =>
    let ds := rest.takeWhile Char.isDigit
    if ds.isEmpty then none else some (ds, rest.drop ds.length)
  | rest => some ([], rest)

/-- The exponent of a number, if there is one. -/
def readExponent : List Char → Option (Option Int × List Char)
  | c :: rest =>
    if c = 'e' || c = 'E' then
      let (negative, rest) := match rest with
        | '-' :: more => (true, more)
        | '+' :: more => (false, more)
        | more => (false, more)
      let ds := rest.takeWhile Char.isDigit
      if ds.isEmpty then none
      else
        let n : Int := digitsValue ds
        some (some (if negative then -n else n), rest.drop ds.length)
    else some (none, c :: rest)
  | [] => some (none, [])

/-- A number behind its sign. A zero is not followed by other digits. -/
def readMagnitude (negative : Bool) (cs : List Char) : Option (RawNumber × List Char) := do
  let whole := match cs with
    | '0' :: _ => ['0']
    | _ => cs.takeWhile Char.isDigit
  if whole.isEmpty then none
  else
    let (fraction, rest) ← readFraction (cs.drop whole.length)
    let (exponent, rest) ← readExponent rest
    some (⟨negative, whole, fraction, exponent⟩, rest)

def readNumber : List Char → Option (RawNumber × List Char)
  | '-' :: rest => readMagnitude true rest
  | rest => readMagnitude false rest

/-- Elements with commas between them, up to what closes them. -/
def readMore {α : Type} (element : List Char → Option (α × List Char)) (close : Char) :
    Nat → List α → List Char → Option (List α × List Char)
  | 0, _, _ => none
  | fuel + 1, acc, cs => do
    let (x, rest) ← element cs
    match skipSpace rest with
    | ',' :: more => readMore element close fuel (x :: acc) more
    | c :: more => if c = close then some ((x :: acc).reverse, more) else none
    | [] => none

/-- The same, or no elements. -/
def readList {α : Type} (element : List Char → Option (α × List Char)) (close : Char) (fuel : Nat)
    (cs : List Char) : Option (List α × List Char) :=
  match skipSpace cs with
  | c :: rest => if c = close then some ([], rest) else readMore element close fuel [] cs
  | [] => none

end Json

namespace RawJson

open Json

/-- A member of an object and what follows it, with a reader for its value. -/
def readMember (value : List Char → Option (RawJson × List Char)) (cs : List Char) :
    Option ((RawString × RawJson) × List Char) :=
  match skipSpace cs with
  | '"' :: more => do
    let (key, rest) ← readString [] more
    match skipSpace rest with
    | ':' :: more => (value more).map fun (v, r) => ((key, v), r)
    | _ => none
  | _ => none

/-- A value and what follows it. -/
def readValue : Nat → List Char → Option (RawJson × List Char)
  | 0, _ => none
  | fuel + 1, cs =>
    match skipSpace cs with
    | 'n' :: 'u' :: 'l' :: 'l' :: rest => some (.null, rest)
    | 't' :: 'r' :: 'u' :: 'e' :: rest => some (.bool true, rest)
    | 'f' :: 'a' :: 'l' :: 's' :: 'e' :: rest => some (.bool false, rest)
    | '"' :: rest => (readString [] rest).map fun (s, r) => (.string s, r)
    | '[' :: rest => (readList (readValue fuel) ']' fuel rest).map fun (vs, r) => (.array vs, r)
    | '\x7b' :: rest =>
      (readList (readMember (readValue fuel)) '\x7d' fuel rest).map fun (ms, r) => (.object ms, r)
    | more => (readNumber more).map fun (n, r) => (.number n, r)

/-- Reads a whole text. A step for each character is enough. -/
def read? (text : String) : Option RawJson := do
  let cs := text.toList
  let (v, rest) ← readValue cs.length cs
  if (skipSpace rest).isEmpty then some v else none

end RawJson
end CallScribe
