import CallScribe.Json.Basic

/-!
# CallScribe.Json.Printer

The text of JSON values.

* `Json.chars`, `Json.compact`: on one line without blanks.
* `Json.pretty`: one member or element to a line, two blanks for each level.

Within strings only quotes, backslashes and controls are escaped.
-/

namespace CallScribe
namespace Json

def hexChar (n : Nat) : Char := if n < 10 then Char.ofNat (48 + n) else Char.ofNat (87 + n)

/-- One character within quotes. -/
def escapeChar (c : Char) : List Char :=
  if c = '"' then ['\\', '"']
  else if c = '\\' then ['\\', '\\']
  else if c = '\n' then ['\\', 'n']
  else if c = '\r' then ['\\', 'r']
  else if c = '\t' then ['\\', 't']
  else if c = '\x08' then ['\\', 'b']
  else if c = '\x0c' then ['\\', 'f']
  else if c.toNat < 32 then ['\\', 'u', '0', '0', hexChar (c.toNat / 16), hexChar (c.toNat % 16)]
  else [c]

/-- A string between quotes. -/
def quote (s : String) : List Char := '"' :: s.toList.flatMap escapeChar ++ ['"']

mutual

/-- The compact text of a value. -/
def chars : Json → List Char
  | .null => ['n', 'u', 'l', 'l']
  | .bool true => ['t', 'r', 'u', 'e']
  | .bool false => ['f', 'a', 'l', 's', 'e']
  | .int n => Decimal.intChars n
  | .real d => d.chars
  | .string s => quote s
  | .array items => '[' :: itemChars items ++ [']']
  | .object fields => '\x7b' :: fieldChars fields ++ ['\x7d']

def itemChars : List Json → List Char
  | [] => []
  | [v] => chars v
  | v :: w :: rest => chars v ++ ',' :: itemChars (w :: rest)

def fieldChars : List (String × Json) → List Char
  | [] => []
  | [(k, v)] => quote k ++ ':' :: chars v
  | (k, v) :: f :: rest => quote k ++ ':' :: chars v ++ ',' :: fieldChars (f :: rest)

end

/-- The compact text of a value. -/
def compact (v : Json) : String := String.ofList v.chars

/-- A line break and the blanks of a level. -/
def newLine (level : Nat) : List Char := '\n' :: List.replicate (2 * level) ' '

mutual

/-- The text of a value on several lines, from a level on. -/
def prettyChars (level : Nat) : Json → List Char
  | .array (v :: items) =>
    '[' :: newLine (level + 1) ++ prettyChars (level + 1) v ++ prettyItems (level + 1) items ++
      newLine level ++ [']']
  | .object ((k, v) :: fields) =>
    '\x7b' :: newLine (level + 1) ++ quote k ++ ':' :: ' ' :: prettyChars (level + 1) v ++
      prettyFields (level + 1) fields ++ newLine level ++ ['\x7d']
  | .array [] => ['[', ']']
  | .object [] => ['\x7b', '\x7d']
  | .null => chars .null
  | .bool b => chars (.bool b)
  | .int n => chars (.int n)
  | .real d => chars (.real d)
  | .string s => chars (.string s)

def prettyItems (level : Nat) : List Json → List Char
  | [] => []
  | v :: rest => ',' :: newLine level ++ prettyChars level v ++ prettyItems level rest

def prettyFields (level : Nat) : List (String × Json) → List Char
  | [] => []
  | (k, v) :: rest =>
    ',' :: newLine level ++ quote k ++ ':' :: ' ' :: prettyChars level v ++ prettyFields level rest

end

/-- The text of a value on several lines. -/
def pretty (v : Json) : String := String.ofList (prettyChars 0 v)

end Json
end CallScribe
