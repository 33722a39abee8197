import CallScribe.Text.Category

/-!
# CallScribe.Text.Quoted

Texts between double quotes for messages.

* `quotedChar`: one character within quotes.
* `quoted`: a whole text. What is not printable, or attaches to the character before it, is shown
  by its number.
-/

namespace CallScribe

/-- One character within double quotes. -/
def quotedChar (c : Char) : List Char :=
  if c = '"' then ['\\', '"']
  else if c = '\\' then ['\\', '\\']
  else if c = '\n' then ['\\', 'n']
  else if c = '\r' then ['\\', 'r']
  else if c = '\t' then ['\\', 't']
  else if c = '\x00' then ['\\', '0']
  else if isExtending c || !isPrintable c then
    ['\\', 'u', '\x7b'] ++ Nat.toDigits 16 c.toNat ++ ['\x7d']
  else [c]

/-- A text between double quotes. -/
def quoted (s : String) : String := String.ofList ('"' :: s.toList.flatMap quotedChar ++ ['"'])

end CallScribe
