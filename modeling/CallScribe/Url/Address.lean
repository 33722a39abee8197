import CallScribe.Decimal.Basic
import CallScribe.Json.Printer

/-!
# CallScribe.Url.Address

Numeric internet addresses.

* `Ipv6.parse?`, `Ipv6.text`: addresses of eight 16-bit pieces, the longest run of zeros left out.
* `Ipv4.parseStrict?`: four decimal numbers.
* `Ipv4.parseLoose?`: one to four numbers in decimal, octal or hexadecimal, the last of which fills
  what is left.
* `SocketAddress.parse?`: an address with a port.
-/

namespace CallScribe

def addressHex? (c : Char) : Option Nat :=
  if '0' ≤ c && c ≤ '9' then some (c.toNat - 48)
  else if 'a' ≤ c && c ≤ 'f' then some (c.toNat - 87)
  else if 'A' ≤ c && c ≤ 'F' then some (c.toNat - 55)
  else none

/-- The number that digits spell in a base. -/
def addressNumber (base : Nat) (ds : List Char) : Nat :=
  ds.foldl (fun n c => n * base + (addressHex? c).getD 0) 0

/-- Splits at every occurrence of a character. -/
def splitChars (sep : Char) : List Char → List (List Char)
  | [] => [[]]
  | c :: rest =>
    if c = sep then [] :: splitChars sep rest
    else match splitChars sep rest with
      | first :: others => (c :: first) :: others
      | [] => [[c]]

namespace Ipv4

/-- A number from 0 to 255 without leading zeros. -/
def octet? (ds : List Char) : Option Nat :=
  if ds.isEmpty || 3 < ds.length || !ds.all Char.isDigit then none
  else if ds.head? = some '0' && 1 < ds.length then none
  else
    let n := addressNumber 10 ds
    if n ≤ 255 then some n else none

/-- Four decimal numbers. -/
def parseStrict? (cs : List Char) : Option (Nat × Nat × Nat × Nat) :=
  match splitChars '.' cs with
  | [a, b, c, d] => do some (← octet? a, ← octet? b, ← octet? c, ← octet? d)
  | _ => none

/-- A number in decimal, in octal after a zero, or in hexadecimal after 0x. -/
def number? (cs : List Char) : Option Nat :=
  match cs with
  | [] => none
  | '0' :: 'x' :: ds | '0' :: 'X' :: ds =>
    if ds.all fun c => (addressHex? c).isSome then some (addressNumber 16 ds) else none
  | '0' :: d :: ds =>
    if (d :: ds).all fun c => '0' ≤ c && c ≤ '7' then some (addressNumber 8 (d :: ds)) else none
  | ds => if ds.all Char.isDigit then some (addressNumber 10 ds) else none

/-- The parts between the dots; one at the end may be empty. -/
def parts (cs : List Char) : List (List Char) :=
  match (splitChars '.' cs).reverse with
  | [] :: p :: before => (p :: before).reverse
  | ps => ps.reverse

/-- Whether the last part is a number, so that the whole has to be an address. -/
def endsInNumber (cs : List Char) : Bool :=
  match (parts cs).getLast? with
  | none => false
  | some [] => false
  | some last => last.all Char.isDigit || (number? last).isSome

/-- The numbers before the last as the leading bytes, and the last as the rest. -/
def combine : Nat → List Nat → Option Nat
  | _, [] => none
  | width, [last] => if last < pow2 (8 * width) then some last else none
  | width, n :: rest => do
    let tail ← combine (width - 1) rest
    if n ≤ 255 then some (n * pow2 (8 * (width - 1)) + tail) else none

/-- One to four numbers as one address. -/
def parseLoose? (cs : List Char) : Option Nat :=
  let ps := parts cs
  if 4 < ps.length then none
  else (ps.mapM number?).bind (combine 4)

/-- The four bytes in decimal. -/
def text (n : Nat) : List Char :=
  Decimal.digitChars (n / 16777216) ++ '.' :: Decimal.digitChars (n / 65536 % 256) ++
    '.' :: Decimal.digitChars (n / 256 % 256) ++ '.' :: Decimal.digitChars (n % 256)

end Ipv4

namespace Ipv6

/-- Fills the place of the double colon with zeros. -/
def finish (pieces : List Nat) (gap : Option Nat) : Option (List Nat) :=
  match gap with
  | none => if pieces.length = 8 then some pieces else none
  | some k =>
    if pieces.length ≤ 7 then
      some (pieces.take k ++ List.replicate (8 - pieces.length) 0 ++ pieces.drop k)
    else none

/-- Pieces of up to four hex digits between colons, the last two of which may be written as an
address of four bytes. `acc` holds the pieces in reverse order. -/
def readPieces : Nat → List Nat → Option Nat → List Char → Option (List Nat)
  | 0, _, _, _ => none
  | fuel + 1, acc, gap, cs =>
    match cs with
    | [] => finish acc.reverse gap
    | ':' :: rest => if gap.isSome then none else readPieces fuel acc (some acc.length) rest
    | _ =>
      let ds := (cs.take 4).takeWhile fun c => (addressHex? c).isSome
      let piece := addressNumber 16 ds
      match cs.drop ds.length with
      | [] => finish (piece :: acc).reverse gap
      | '.' :: _ => do
        let (a, b, c, d) ← Ipv4.parseStrict? cs
        finish ((c * 256 + d) :: (a * 256 + b) :: acc).reverse gap
      | [':'] => none
      | ':' :: rest => readPieces fuel (piece :: acc) gap rest
      | _ => none

def parse? (cs : List Char) : Option (List Nat) :=
  match cs with
  | ':' :: ':' :: rest => readPieces (cs.length + 1) [] (some 0) rest
  | ':' :: _ => none
  | _ => readPieces (cs.length + 1) [] none cs

/-- The length of the zeros at the front. -/
def zeros (pieces : List Nat) : Nat := (pieces.takeWhile (· = 0)).length

/-- The first of the longest runs of at least two zeros: its start and its length. -/
def longestZeros (pieces : List Nat) : Option (Nat × Nat) :=
  let runs := (List.range 8).map fun i => (i, zeros (pieces.drop i))
  let best := runs.foldl (fun b r => if b.2 < r.2 then r else b) (0, 0)
  if 2 ≤ best.2 then some best else none

def hexText (n : Nat) : List Char := Nat.toDigits 16 n

def join (pieces : List Nat) : List Char :=
  match pieces with
  | [] => []
  | [p] => hexText p
  | p :: rest => hexText p ++ ':' :: join rest

/-- The address between brackets. -/
def text (pieces : List Nat) : List Char :=
  let inner := match longestZeros pieces with
    | some (i, n) => join (pieces.take i) ++ ':' :: ':' :: join (pieces.drop (i + n))
    | none => join pieces
  '[' :: inner ++ [']']

end Ipv6

/-- A numeric host. -/
inductive SocketHost
  | v4 (a b c d : Nat)
  | v6 (pieces : List Nat)
deriving DecidableEq, Repr

/-- A numeric host with a port. -/
structure SocketAddress where
  host : SocketHost
  port : Nat
deriving DecidableEq, Repr

namespace SocketAddress

/-- A port after its colon. -/
def port? (cs : List Char) : Option Nat :=
  if !cs.isEmpty && cs.all Char.isDigit && addressNumber 10 cs ≤ 65535 then
    some (addressNumber 10 cs)
  else none

/-- The text before the last colon and after it. -/
def splitAtLastColon (cs : List Char) : Option (List Char × List Char) :=
  let after := (cs.reverse.takeWhile (· ≠ ':')).reverse
  if after.length < cs.length then some (cs.take (cs.length - after.length - 1), after) else none

/-- A scope: nothing, or a 32-bit number after its sign. -/
def isScope : List Char → Bool
  | [] => true
  | _ :: ds => !ds.isEmpty && ds.all Char.isDigit && addressNumber 10 ds < pow2 32

/-- A numeric host; that of eight pieces stands in brackets and may have a scope. -/
def host? (cs : List Char) : Option SocketHost :=
  match cs with
  | '[' :: inner =>
    match inner.reverse with
    | ']' :: back =>
      let body := back.reverse
      let address := body.takeWhile (· ≠ '%')
      if isScope (body.drop address.length) then (Ipv6.parse? address).map .v6 else none
    | _ => none
  | _ => (Ipv4.parseStrict? cs).map fun (a, b, c, d) => .v4 a b c d

def parse? (s : String) : Option SocketAddress := do
  let (host, port) ← splitAtLastColon s.toList
  some ⟨← host? host, ← port? port⟩

/-- Whether every machine can listen at the address: it is unspecified, or leads back to the
machine itself. -/
def isLocal (a : SocketAddress) : Bool :=
  match a.host with
  | .v4 n b c d => n = 127 || (n = 0 && b = 0 && c = 0 && d = 0)
  | .v6 pieces => pieces = List.replicate 8 0 || pieces = List.replicate 7 0 ++ [1]

end SocketAddress
end CallScribe
