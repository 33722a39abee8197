/-!
# CallScribe.Text.Base64

Bytes as letters, digits, plus and slash.

* `Base64.encode`: three bytes make four characters; equals signs fill the last group.
-/

namespace CallScribe
namespace Base64

/-- The character of a six-bit value. -/
def char (n : Nat) : Char :=
  if n < 26 then Char.ofNat (65 + n)
  else if n < 52 then Char.ofNat (71 + n)
  else if n < 62 then Char.ofNat (n - 4)
  else if n = 62 then '+'
  else '/'

def encode : List UInt8 → List Char
  | a :: b :: c :: rest =>
    let n := a.toNat * 65536 + b.toNat * 256 + c.toNat
    [char (n / 262144), char (n / 4096 % 64), char (n / 64 % 64), char (n % 64)] ++ encode rest
  | [a, b] =>
    let n := a.toNat * 1024 + b.toNat * 4
    [char (n / 4096), char (n / 64 % 64), char (n % 64), '=']
  | [a] =>
    let n := a.toNat * 16
    [char (n / 64), char (n % 64), '=', '=']
  | [] => []

end Base64
end CallScribe
