import CallScribe.Url.Address

/-!
# CallScribe.Url.Basic

Addresses of resources.

* `Url`: scheme, authority, path, query and fragment.
* `Url.text`: the normal form of an address.
* `Url.percentEncode`: what each part of an address may not hold as it is.
* `Url.resolve`: an address relative to another one, for a relative path of plain segments.
* `DomainNames`: the rules for domain names.
-/

namespace CallScribe

/-- The part of an address between the double slash and the path. -/
structure UrlAuthority where
  userInfo : Option String
  host : String
  port : Option Nat
deriving DecidableEq, Repr

/-- A path: segments, or a text that is not one. -/
inductive UrlPath
  | segments (ss : List String)
  | opaqueText (s : String)
deriving DecidableEq, Repr

/-- An address. -/
structure Url where
  scheme : String
  authority : Option UrlAuthority
  path : UrlPath
  query : Option String
  fragment : Option String
deriving DecidableEq, Repr

/-- Why a text is no address. -/
inductive UrlError
  | relativeWithoutBase | emptyHost | badPort | badIpv4 | badIpv6 | badDomainChar | badDomain
  | relativeToOpaque
deriving DecidableEq, Repr

def UrlError.message : UrlError → String
  | .relativeWithoutBase => "relative URL without a base"
  | .emptyHost => "empty host"
  | .badPort => "invalid port number"
  | .badIpv4 => "invalid IPv4 address"
  | .badIpv6 => "invalid IPv6 address"
  | .badDomainChar => "invalid domain character"
  | .badDomain => "invalid international domain name"
  | .relativeToOpaque => "relative URL with a cannot-be-a-base base"

namespace Url

/-- One byte as a percent sign and two capital hex digits. -/
def percentByte (b : UInt8) : List Char :=
  let digit (n : Nat) : Char := if n < 10 then Char.ofNat (48 + n) else Char.ofNat (55 + n)
  ['%', digit (b.toNat / 16), digit (b.toNat % 16)]

/-- The bytes of a character, each encoded. -/
def percentChar (c : Char) : List Char :=
  (String.ofList [c]).toUTF8.toList.flatMap percentByte

/-- Controls and everything beyond ASCII. -/
def isControl (c : Char) : Bool := c.toNat < 32 || 127 ≤ c.toNat

def inFragmentSet (c : Char) : Bool := isControl c || [' ', '"', '<', '>', '\x60'].contains c

def inPathSet (c : Char) : Bool :=
  inFragmentSet c || ['#', '?', '\x7b', '\x7d', '^'].contains c

def inUserSet (c : Char) : Bool :=
  inPathSet c || ['/', ':', ';', '=', '@', '[', '\\', ']', '|'].contains c

def inQuerySet (special : Bool) (c : Char) : Bool :=
  isControl c || [' ', '"', '#', '<', '>'].contains c || (special && c = '\'')

/-- Encodes the characters of a set. -/
def percentEncode (set : Char → Bool) (cs : List Char) : List Char :=
  cs.flatMap fun c => if set c then percentChar c else [c]

/-- The port that a scheme stands for. -/
def defaultPort (scheme : String) : Option Nat :=
  match scheme with
  | "http" | "ws" => some 80
  | "https" | "wss" => some 443
  | "ftp" => some 21
  | _ => none

/-- Schemes whose addresses always have a host and a path of segments. -/
def isSpecial (scheme : String) : Bool :=
  ["http", "https", "ws", "wss", "ftp", "file"].contains scheme

def UrlAuthority.text (a : UrlAuthority) : String :=
  "//" ++ (match a.userInfo with
    | some u => u ++ "@"
    | none => "") ++ a.host ++
    (match a.port with
    | some p => ":" ++ toString p
    | none => "")

/-- Segments with a slash before each. -/
def segmentsText (ss : List String) : String := String.join (ss.map fun s => "/" ++ s)

/-- The path; without an authority, an empty first segment must not look like one. -/
def pathText (u : Url) : String :=
  match u.path with
  | .opaqueText s => s
  | .segments ss =>
    if u.authority.isNone && ss.head? = some "" && 1 < ss.length then "/." ++ segmentsText ss
    else segmentsText ss

/-- The address as a text. -/
def text (u : Url) : String :=
  u.scheme ++ ":" ++
    (match u.authority with
    | some a => UrlAuthority.text a
    | none => "") ++ u.pathText ++
    (match u.query with
    | some q => "?" ++ q
    | none => "") ++
    (match u.fragment with
    | some f => "#" ++ f
    | none => "")

/-- A drive letter of a file's address in its normal form. -/
def isNormalDrive (s : String) : Bool :=
  match s.toList with
  | [a, b] => a.isAlpha && b = ':'
  | _ => false

/-- The path without its last segment; a drive letter stays. -/
def shorten (scheme : String) (ss : List String) : List String :=
  match ss with
  | [d] => if scheme = "file" && isNormalDrive d then ss else []
  | _ => ss.dropLast

/-- The address that a relative path of plain segments leads to: they take the place of the last
segment, and of query and fragment. -/
def resolve (base : Url) (relative : List String) : Except UrlError Url :=
  match base.path with
  | .opaqueText _ => .error .relativeToOpaque
  | .segments ss =>
    .ok { base with
      path := .segments (shorten base.scheme ss ++ relative), query := none, fragment := none }

end Url

/-- The rules for domain names: the ASCII form of a name as it is written, escapes included; none
for a name that cannot be one. Whatever reads addresses takes them from the context. -/
class DomainNames where
  toAscii? : List Char → Option (List Char)

end CallScribe
