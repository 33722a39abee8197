import CallScribe.Toml.Value
import CallScribe.Time.Instant
import CallScribe.Decimal.Shortest

/-!
# CallScribe.Toml.Lexical

The words of TOML: blanks, comments, keys, strings, numbers and dates. Each reader takes the
characters that are left and gives a result with what is left after it.

* `Toml.skipBlank`, `Toml.readNewline`, `Toml.skipComment`, `Toml.skipLines`.
* `Toml.readString`: strings of the four kinds.
* `Toml.readKey`: a key, dotted or not.
* `Toml.readScalar`: numbers, dates and the named values.
-/

namespace CallScribe
namespace Toml

def isBlankChar (c : Char) : Bool := c = ' ' || c = '\t'

def skipBlank (cs : List Char) : List Char := cs.dropWhile isBlankChar

/-- A line break, which is a line feed with or without a carriage return before it. -/
def readNewline : List Char → Option (List Char)
  | '\n' :: rest => some rest
  | '\r' :: '\n' :: rest => some rest
  | _ => none

/-- Characters that a comment may hold. -/
def isCommentChar (c : Char) : Bool := c = '\t' || (32 ≤ c.toNat && c.toNat ≠ 127)

/-- Skips a comment, if there is one, up to the end of its line. -/
def skipComment : List Char → List Char
  | '#' :: rest => rest.dropWhile isCommentChar
  | cs => cs

/-- The end of a line: blanks, a comment, and then a line break or the end of the text. -/
def readLineEnd (cs : List Char) : Option (List Char) :=
  match skipComment (skipBlank cs) with
  | [] => some []
  | rest => readNewline rest

/-- Blanks, line breaks and comments, as between the elements of an array. -/
def skipLines : Nat → List Char → List Char
  | 0, cs => cs
  | fuel + 1, cs =>
    match skipBlank cs with
    | [] => []
    | c :: rest =>
      if c = '#' then
        match readNewline (skipComment (c :: rest)) with
        | some after => skipLines fuel after
        | none => c :: rest
      else
        match readNewline (c :: rest) with
        | some after => skipLines fuel after
        | none => c :: rest

def hexValue? (c : Char) : Option Nat :=
  if '0' ≤ c && c ≤ '9' then some (c.toNat - 48)
  else if 'a' ≤ c && c ≤ 'f' then some (c.toNat - 87)
  else if 'A' ≤ c && c ≤ 'F' then some (c.toNat - 55)
  else none

/-- The character with a number of so many hex digits. -/
def readCodePoint : Nat → Nat → List Char → Option (Char × List Char)
  | 0, n, cs =>
    if n < 0xD800 || (0xE000 ≤ n && n ≤ 0x10FFFF) then some (Char.ofNat n, cs) else none
  | _ + 1, _, [] => none
  | k + 1, n, c :: rest => do readCodePoint k (n * 16 + (← hexValue? c)) rest

/-- What follows a backslash. -/
def readEscape : List Char → Option (Char × List Char)
  | [] => none
  | c :: rest =>
    match c with
    | 'b' => some ('\x08', rest)
    | 'f' => some ('\x0c', rest)
    | 'n' => some ('\n', rest)
    | 'r' => some ('\r', rest)
    | 't' => some ('\t', rest)
    | '"' => some ('"', rest)
    | '\\' => some ('\\', rest)
    | 'u' => readCodePoint 4 0 rest
    | 'U' => readCodePoint 8 0 rest
    | _ => none

/-- Characters that a string may hold as they are. -/
def isTextChar (c : Char) : Bool := c = '\t' || (32 ≤ c.toNat && c.toNat ≠ 127)

/-- A string between double quotes, after the first. -/
def readBasic : Nat → List Char → List Char → Option (String × List Char)
  | 0, _, _ => none
  | fuel + 1, acc, cs =>
    match cs with
    | [] => none
    | '"' :: rest => some (String.ofList acc.reverse, rest)
    | '\\' :: rest => do
      let (c, after) ← readEscape rest
      readBasic fuel (c :: acc) after
    | c :: rest => if isTextChar c then readBasic fuel (c :: acc) rest else none

/-- A string between single quotes, after the first. -/
def readLiteral : List Char → List Char → Option (String × List Char)
  | _, [] => none
  | acc, c :: rest =>
    if c = '\'' then some (String.ofList acc.reverse, rest)
    else if isTextChar c then readLiteral (c :: acc) rest
    else none

/-- The number of quotes at the front, at most five. -/
def quoteCount (q : Char) (cs : List Char) : Nat := ((cs.take 5).takeWhile (· = q)).length

/-- Blanks and line breaks. -/
def skipLineBreaks : Nat → List Char → List Char
  | 0, cs => cs
  | fuel + 1, cs =>
    let rest := skipBlank cs
    match readNewline rest with
    | some after => skipLineBreaks fuel after
    | none => rest

/-- A string of several lines, after its three quotes. It ends at three quotes, before which up to
two more belong to it. With `escapes`, a backslash begins an escape, or joins lines. -/
def readMultiline (q : Char) (escapes : Bool) :
    Nat → List Char → List Char → Option (String × List Char)
  | 0, _, _ => none
  | fuel + 1, acc, cs =>
    match cs with
    | [] => none
    | c :: rest =>
      if c = q then
        let n := quoteCount q cs
        if 3 ≤ n then
          some (String.ofList (List.replicate (n - 3) q ++ acc).reverse, cs.drop n)
        else readMultiline q escapes fuel (c :: acc) rest
      else if c = '\\' && escapes then
        match readNewline (skipBlank rest) with
        | some after => readMultiline q escapes fuel acc (skipLineBreaks after.length after)
        | none => do
          let (d, after) ← readEscape rest
          readMultiline q escapes fuel (d :: acc) after
      else
        match readNewline cs with
        | some after => readMultiline q escapes fuel ('\n' :: acc) after
        | none => if isTextChar c then readMultiline q escapes fuel (c :: acc) rest else none

/-- The text after a line break, if it begins with one. -/
def dropNewline (cs : List Char) : List Char := (readNewline cs).getD cs

/-- A string of any kind. -/
def readString (cs : List Char) : Option (String × List Char) :=
  match cs with
  | '"' :: '"' :: '"' :: rest => readMultiline '"' true (rest.length + 1) [] (dropNewline rest)
  | '"' :: rest => readBasic (rest.length + 1) [] rest
  | '\'' :: '\'' :: '\'' :: rest => readMultiline '\'' false (rest.length + 1) [] (dropNewline rest)
  | '\'' :: rest => readLiteral [] rest
  | _ => none

/-- Characters of a key without quotes. -/
def isKeyChar (c : Char) : Bool := c.isAlphanum || c = '_' || c = '-'

/-- A key without dots. -/
def readSimpleKey (cs : List Char) : Option (String × List Char) :=
  match cs with
  | '"' :: rest => readBasic (rest.length + 1) [] rest
  | '\'' :: rest => readLiteral [] rest
  | _ =>
    let name := cs.takeWhile isKeyChar
    if name.isEmpty then none else some (String.ofList name, cs.drop name.length)

/-- The greatest depth of nesting, and number of parts of a key, that is too much. -/
def depthLimit : Nat := 80

/-- A key and its dotted parts, in reverse order; blanks may stand around each part. -/
def readKeyParts : Nat → List String → List Char → Option (List String × List Char)
  | 0, _, _ => none
  | fuel + 1, acc, cs => do
    let (k, rest) ← readSimpleKey (skipBlank cs)
    match skipBlank rest with
    | '.' :: more => readKeyParts fuel (k :: acc) more
    | more => some (k :: acc, more)

/-- A key as the path before its last part, and that part. -/
def readKey (cs : List Char) : Option (List String × String × List Char) := do
  match ← readKeyParts (cs.length + 1) [] cs with
  | (last :: before, rest) =>
    if before.length + 1 < depthLimit then some (before.reverse, last, rest) else none
  | ([], _) => none

/-- Digits between which single underscores may stand; the first is a digit. -/
def readDigits (isDigit : Char → Bool) : List Char → Option (List Char × List Char)
  | [] => none
  | c :: rest =>
    if isDigit c then
      let rec more : List Char → Option (List Char × List Char)
        | '_' :: d :: after =>
          if isDigit d then (more after).map fun (ds, r) => (d :: ds, r) else none
        | '_' :: [] => none
        | d :: after =>
          if isDigit d then (more after).map fun (ds, r) => (d :: ds, r) else some ([], d :: after)
        | [] => some ([], [])
      (more rest).map fun (ds, r) => (c :: ds, r)
    else none

/-- An optional sign: whether it is a minus. -/
def readSign : List Char → Bool × List Char
  | '-' :: rest => (true, rest)
  | '+' :: rest => (false, rest)
  | rest => (false, rest)

/-- The number that digits spell in a base. -/
def digitsIn (base : Nat) (ds : List Char) : Nat :=
  ds.foldl (fun n c => n * base + (hexValue? c).getD 0) 0

/-- A decimal number without leading zeros. -/
def readWhole (cs : List Char) : Option (List Char × List Char) :=
  match cs with
  | '0' :: rest => some (['0'], rest)
  | _ => readDigits Char.isDigit cs

def isOctal (c : Char) : Bool := '0' ≤ c && c ≤ '7'

def isBinary (c : Char) : Bool := c = '0' || c = '1'

/-- A natural number below 2^63 in a base other than ten. -/
def readRadix (base : Nat) (isDigit : Char → Bool) (cs : List Char) :
    Option (Toml × List Char) := do
  let (ds, rest) ← readDigits isDigit cs
  let n := digitsIn base ds
  if n < pow2 63 then some (.int n, rest) else none

/-- An integer. -/
def readInteger (cs : List Char) : Option (Toml × List Char) :=
  match cs with
  | '0' :: 'x' :: rest => readRadix 16 (fun c => (hexValue? c).isSome) rest
  | '0' :: 'o' :: rest => readRadix 8 isOctal rest
  | '0' :: 'b' :: rest => readRadix 2 isBinary rest
  | _ => do
    let (negative, digits) := readSign cs
    let (ds, rest) ← readWhole digits
    let n := digitsIn 10 ds
    if negative then (if n ≤ pow2 63 then some (.int (-(n : Int)), rest) else none)
    else if n < pow2 63 then some (.int n, rest)
    else none

/-- An exponent, if there is one. -/
def readExponent : List Char → Option (Option Int × List Char)
  | c :: rest =>
    if c = 'e' || c = 'E' then do
      let (negative, digits) := readSign rest
      let (ds, after) ← readDigits Char.isDigit digits
      let n : Int := digitsIn 10 ds
      some (some (if negative then -n else n), after)
    else some (none, c :: rest)
  | [] => some (none, [])

/-- A number with a fraction or an exponent. A positive one must not be beyond the greatest
double. -/
def readFloat (cs : List Char) : Option (Toml × List Char) := do
  let (negative, digits) := readSign cs
  let named := match digits with
    | 'i' :: 'n' :: 'f' :: rest => some rest
    | 'n' :: 'a' :: 'n' :: rest => some rest
    | _ => none
  match named with
  | some rest => some (.float (String.ofList (cs.take (cs.length - rest.length))), rest)
  | none =>
    let (whole, rest) ← readWhole digits
    let (fraction, rest) ← match rest with
      | '.' :: more => readDigits Char.isDigit more
      | _ => some ([], rest)
    let (exponent, rest) ← readExponent rest
    if fraction.isEmpty && exponent.isNone then none
    else
      let value := Decimal.toDouble? negative (digitsIn 10 (whole ++ fraction))
        (exponent.getD 0 - fraction.length)
      if value.isNone && !negative then none
      else some (.float (String.ofList (cs.take (cs.length - rest.length))), rest)

/-- A number of exactly so many digits. -/
def readFixed (width : Nat) (cs : List Char) : Option (Nat × List Char) :=
  let ds := cs.take width
  if ds.length = width && ds.all Char.isDigit then some (digitsIn 10 ds, cs.drop width) else none

/-- One given character. -/
def readMark (mark : Char) : List Char → Option (List Char)
  | [] => none
  | c :: rest => if c = mark then some rest else none

def readDay (cs : List Char) : Option (List Char) := do
  let (year, cs) ← readFixed 4 cs
  let (month, cs) ← readFixed 2 (← readMark '-' cs)
  let (day, cs) ← readFixed 2 (← readMark '-' cs)
  if 1 ≤ month && month ≤ 12 && 1 ≤ day && day ≤ Instant.daysInMonth year month then some cs
  else none

def readClock (cs : List Char) : Option (List Char) := do
  let (hour, cs) ← readFixed 2 cs
  let (minute, cs) ← readFixed 2 (← readMark ':' cs)
  let (second, cs) ← readFixed 2 (← readMark ':' cs)
  if hour < 24 && minute < 60 && second ≤ 60 then
    match cs with
    | '.' :: rest =>
      let ds := rest.takeWhile Char.isDigit
      some (if ds.isEmpty then cs else rest.drop ds.length)
    | _ => some cs
  else none

/-- The offset of a time; none if what stands there only begins like one. -/
def readZone (cs : List Char) : Option (List Char) :=
  match cs with
  | 'Z' :: rest => some rest
  | 'z' :: rest => some rest
  | c :: rest =>
    if c = '+' || c = '-' then do
      let (hour, rest) ← readFixed 2 rest
      let (minute, rest) ← readFixed 2 (← readMark ':' rest)
      if hour < 24 && minute < 60 then some rest else none
    else some cs
  | [] => some []

/-- A date, a time, or both with an offset. -/
def readDate (cs : List Char) : Option (Toml × List Char) :=
  let found (rest : List Char) : Option (Toml × List Char) :=
    some (.date (String.ofList (cs.take (cs.length - rest.length))), rest)
  match readDay cs with
  | none => do found (← readClock cs)
  | some rest =>
    match rest with
    | c :: more =>
      if c = 'T' || c = 't' || c = ' ' then
        match readClock more with
        | some after => do found (← readZone after)
        | none => found rest
      else found rest
    | [] => found []

/-- A number, a date or a named value. -/
def readScalar (cs : List Char) : Option (Toml × List Char) :=
  match cs with
  | 't' :: 'r' :: 'u' :: 'e' :: rest => some (.bool true, rest)
  | 'f' :: 'a' :: 'l' :: 's' :: 'e' :: rest => some (.bool false, rest)
  | _ => ((readDate cs).orElse fun _ => readFloat cs).orElse fun _ => readInteger cs

end Toml
end CallScribe
