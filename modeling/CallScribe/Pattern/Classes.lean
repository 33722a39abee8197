import CallScribe.Pattern.Basic
import CallScribe.Text.Blank
import CallScribe.Text.Category
import CallScribe.Text.Script

/-!
# CallScribe.Pattern.Classes

The character classes of the pattern language.

* `PatternFlags`: the switches that change what a pattern means.
* `PatternFlags.digits`, `.blanks`, `.words`, `.anything`: classes that depend on the switches.
* `asciiClass?`, `propertyClass?`: classes by name. Of the properties these are the general
  categories, the scripts and a few binary ones.
-/

namespace CallScribe

/-- The switches of a pattern: `i`, `m`, `s`, `U`, `u`, `x` and `R`. -/
structure PatternFlags where
  ignoreCase : Bool := false
  multiLine : Bool := false
  dotAll : Bool := false
  swapGreed : Bool := false
  unicode : Bool := true
  verbose : Bool := false
  crlf : Bool := false
deriving DecidableEq, Repr

namespace CharSet

/-- Everything up to `last` that is not a member. -/
def complementUpTo (last : Nat) (s : CharSet) : CharSet :=
  s.complement.inter ⟨[(0, last)]⟩

/-- ASCII letters of either case for those that are members. -/
def foldCaseAscii (s : CharSet) : CharSet :=
  s.union (ofRanges ((lettersLower.flatMap fun c => [c, c.toUpper]).filterMap fun c =>
    if s.contains c.toLower || s.contains c.toUpper then some (c.toNat, c.toNat) else Option.none))

end CharSet

namespace PatternFlags

/-- Outside Unicode mode a set is one of single bytes. -/
def lastPoint (f : PatternFlags) : Nat := if f.unicode then CharSet.lastPoint else 255

def negate (f : PatternFlags) (s : CharSet) : CharSet := s.complementUpTo f.lastPoint

/-- Adds the other cases of all members if case is ignored. -/
def fold (f : PatternFlags) (s : CharSet) : CharSet :=
  if f.ignoreCase then (if f.unicode then s.foldCase else s.foldCaseAscii) else s

/-- A set of single bytes has to stay within ASCII. -/
def check (f : PatternFlags) (s : CharSet) : Option CharSet :=
  if !f.unicode && s.beyondAscii then none else some s

def digits (f : PatternFlags) : CharSet := if f.unicode then CharSet.digit else CharSet.digitAscii

def blanks (f : PatternFlags) : CharSet := if f.unicode then CharSet.blank else CharSet.blankAscii

def words (f : PatternFlags) : CharSet := if f.unicode then CharSet.word else CharSet.wordAscii

/-- What a dot stands for. -/
def anything (f : PatternFlags) : CharSet :=
  if f.dotAll then CharSet.all
  else f.negate (CharSet.ofChars (if f.crlf then ['\r', '\n'] else ['\n']))

/-- One character in the cases that the switches admit. -/
def character (f : PatternFlags) (c : Char) : CharSet := f.fold (CharSet.single c)

end PatternFlags

/-- The classes of ASCII characters, by name. -/
def asciiClass? (name : String) : Option CharSet :=
  match name with
  | "alnum" => some ⟨[(48, 57), (65, 90), (97, 122)]⟩
  | "alpha" => some ⟨[(65, 90), (97, 122)]⟩
  | "ascii" => some ⟨[(0, 127)]⟩
  | "blank" => some ⟨[(9, 9), (32, 32)]⟩
  | "cntrl" => some ⟨[(0, 31), (127, 127)]⟩
  | "digit" => some ⟨[(48, 57)]⟩
  | "graph" => some ⟨[(33, 126)]⟩
  | "lower" => some ⟨[(97, 122)]⟩
  | "print" => some ⟨[(32, 126)]⟩
  | "punct" => some ⟨[(33, 47), (58, 64), (91, 96), (123, 126)]⟩
  | "space" => some ⟨[(9, 13), (32, 32)]⟩
  | "upper" => some ⟨[(65, 90)]⟩
  | "word" => some ⟨[(48, 57), (65, 90), (95, 95), (97, 122)]⟩
  | "xdigit" => some ⟨[(48, 57), (65, 70), (97, 102)]⟩
  | _ => none

/-- A property name in lower case without blanks, hyphens and underscores. -/
def looseName (s : String) : String :=
  let cs := (s.toList.filter fun c => c ≠ ' ' && c ≠ '_' && c ≠ '-').map Char.toLower
  match cs with
  | 'i' :: 's' :: rest =>
    if rest.isEmpty || rest = ['c'] then String.ofList cs else String.ofList rest
  | _ => String.ofList cs

/-- A property by its own name: a category, a script or a yes-or-no property. -/
def propertyClass? (name : String) : Option CharSet :=
  let n := looseName name
  if n = "whitespace" || n = "wspace" then some CharSet.blank
  else ((Category.property? n).orElse fun _ => Category.named? n).orElse fun _ => Script.named? n

/-- A property by its kind and its value. -/
def propertyValueClass? (kind value : String) : Option CharSet :=
  let k := looseName kind
  let v := looseName value
  if k = "gc" || k = "generalcategory" then
    (Category.named? v).orElse fun _ =>
      if v = "any" || v = "ascii" || v = "assigned" then Category.property? v else none
  else if k = "sc" || k = "script" || k = "scx" || k = "scriptextensions" then Script.named? v
  else none

end CallScribe
