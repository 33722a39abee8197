import CallScribe.Url.Basic

/-!
# CallScribe.Url.Parser

Reading addresses.

* `Url.parse`: an address from its text, or why the text is none.
* `Url.readAuthority`, `Url.readPort`, `Url.readPath`: parts of it.

Blanks and controls at the ends, and tabs and line breaks anywhere, do not count.
-/

namespace CallScribe
namespace Url

/-- The scheme in lower case and what follows its colon. -/
def readScheme (cs : List Char) : Option (String × List Char) :=
  let name := cs.takeWhile fun c => c.isAlphanum || c = '+' || c = '-' || c = '.'
  match name.head?, cs.drop name.length with
  | some c, ':' :: rest =>
    if c.isAlpha then some ((String.ofList name).toLower, rest) else none
  | _, _ => none

/-- Whether a character ends the authority. -/
def endsAuthority (special : Bool) (c : Char) : Bool :=
  c = '/' || c = '?' || c = '#' || (special && c = '\\')

/-- The text before the last at sign of an authority, if there is one, and the rest. -/
def splitUser (special : Bool) (cs : List Char) : Option (List Char) × List Char :=
  let authority := cs.takeWhile fun c => !endsAuthority special c
  let after := (authority.reverse.takeWhile (· ≠ '@')).reverse
  if after.length < authority.length then
    (some (authority.take (authority.length - after.length - 1)),
      after ++ cs.drop authority.length)
  else (none, cs)

/-- User name and password as they are written; neither if both are empty. -/
def userText (cs : List Char) : Option String :=
  let name := cs.takeWhile (· ≠ ':')
  let password := (cs.drop name.length).drop 1
  if name.isEmpty && password.isEmpty then none
  else some (String.ofList (percentEncode inUserSet name ++
    (if password.isEmpty then [] else ':' :: percentEncode inUserSet password)))

/-- The characters of a host; a colon within brackets belongs to it. -/
def hostChars (special : Bool) : Bool → List Char → List Char
  | _, [] => []
  | inside, c :: rest =>
    if endsAuthority special c || (c = ':' && !inside) then []
    else c :: hostChars special (if c = '[' then true else if c = ']' then false else inside) rest

/-- An address of eight pieces between brackets. -/
def readBracketed (cs : List Char) : Except UrlError String :=
  match cs.reverse with
  | ']' :: inner =>
    match Ipv6.parse? inner.reverse with
    | some pieces => .ok (String.ofList (Ipv6.text pieces))
    | none => .error .badIpv6
  | _ => .error .badIpv6

/-- The host of an address with a special scheme. -/
def specialHost [DomainNames] (cs : List Char) : Except UrlError String :=
  match cs with
  | '[' :: inner => readBracketed inner
  | _ =>
    match DomainNames.toAscii? cs with
    | none => .error .badDomain
    | some [] => .error .emptyHost
    | some domain =>
      if Ipv4.endsInNumber domain then
        match Ipv4.parseLoose? domain with
        | some n => .ok (String.ofList (Ipv4.text n))
        | none => .error .badIpv4
      else .ok (String.ofList domain)

/-- Characters that no host holds. -/
def isBadHostChar (c : Char) : Bool :=
  ['\x00', '\t', '\n', '\r', ' '].contains c ||
    ['#', '/', ':', '<', '>', '?', '@', '[', '\\', ']', '^', '|'].contains c

/-- The host of any other address, as it is written. -/
def plainHost (cs : List Char) : Except UrlError String :=
  match cs with
  | '[' :: inner => readBracketed inner
  | _ =>
    if cs.any isBadHostChar then .error .badDomainChar
    else .ok (String.ofList (percentEncode isControl cs))

/-- A port after its colon; that of the scheme is not written. -/
def readPort (scheme : String) (cs : List Char) : Except UrlError (Option Nat × List Char) :=
  let ds := cs.takeWhile Char.isDigit
  let rest := cs.drop ds.length
  let n := addressNumber 10 ds
  if 65535 < n then .error .badPort
  else if rest.head?.any fun c => !endsAuthority true c then .error .badPort
  else .ok (if ds.isEmpty || defaultPort scheme = some n then none else some n, rest)

/-- A drive letter, in either of its two forms. -/
def isDrive (cs : List Char) : Bool :=
  match cs with
  | [a, b] => a.isAlpha && (b = ':' || b = '|')
  | _ => false

/-- Two dots, also written with escapes. -/
def isDoubleDot (s : String) : Bool :=
  ["..", "%2e%2e", "%2e.", ".%2e"].contains s.toLower

/-- One dot, also written with escapes. -/
def isSingleDot (s : String) : Bool := [".", "%2e"].contains s.toLower

/-- Adds one segment to a path. The last one leaves an empty segment behind if it is only dots. -/
def addSegment (scheme : String) (ss : List String) (segment : List Char) (isLast : Bool) :
    List String :=
  let s := String.ofList (percentEncode inPathSet segment)
  if isDoubleDot s then shorten scheme ss ++ (if isLast then [""] else [])
  else if isSingleDot s then ss ++ (if isLast then [""] else [])
  else if scheme = "file" && (ss = [] || ss = [""]) && isDrive segment then
    ss ++ [String.ofList (segment.take 1 ++ [':'])]
  else ss ++ [s]

/-- Adds segments one after the other. -/
def addSegments (scheme : String) (ss : List String) : List (List Char) → List String
  | [] => ss
  | [s] => addSegment scheme ss s true
  | s :: rest => addSegments scheme (addSegment scheme ss s false) rest

/-- The path up to a query or a fragment, without its first slash. -/
def splitPath (special : Bool) (cs : List Char) : List (List Char) × List Char :=
  let body := cs.takeWhile fun c => c ≠ '?' && c ≠ '#'
  let slashes := if special then body.map fun c => if c = '\\' then '/' else c else body
  (splitChars '/' slashes, cs.drop body.length)

/-- Empty segments in front of a file's path do not count. -/
def trimFile (scheme : String) (ss : List String) : List String :=
  if scheme = "file" then
    match ss.dropWhile (· = "") with
    | [] => [""]
    | rest => rest
  else ss

/-- The segments of a path and what follows it. -/
def readPath (scheme : String) (cs : List Char) : List String × List Char :=
  let (parts, rest) := splitPath (isSpecial scheme) cs
  (trimFile scheme (addSegments scheme [] parts), rest)

/-- The path after an authority. -/
def readPathAfterHost (scheme : String) (cs : List Char) : List String × List Char :=
  match cs with
  | [] => if isSpecial scheme then ([""], []) else ([], [])
  | c :: rest =>
    if c = '/' || (isSpecial scheme && c = '\\') then readPath scheme rest
    else if c = '?' || c = '#' then (if isSpecial scheme then [""] else [], c :: rest)
    else readPath scheme (c :: rest)

/-- Query and fragment. -/
def readTail (special : Bool) (cs : List Char) : Option String × Option String :=
  let fragment (rest : List Char) := String.ofList (percentEncode inFragmentSet rest)
  match cs with
  | '?' :: rest =>
    let q := rest.takeWhile (· ≠ '#')
    (some (String.ofList (percentEncode (inQuerySet special) q)),
      match rest.drop q.length with
      | _ :: f => some (fragment f)
      | [] => none)
  | '#' :: rest => (none, some (fragment rest))
  | _ => (none, none)

/-- An address with the given path, and query and fragment from what follows. -/
def finish (scheme : String) (authority : Option UrlAuthority) (path : UrlPath)
    (rest : List Char) : Url :=
  let (query, fragment) := readTail (isSpecial scheme) rest
  ⟨scheme, authority, path, query, fragment⟩

/-- What follows the two slashes. -/
def readAuthority [DomainNames] (scheme : String) (cs : List Char) : Except UrlError Url := do
  let special := isSpecial scheme
  let (user, afterUser) := splitUser special cs
  if user = some [] && afterUser.head?.any (endsAuthority special) then .error .emptyHost
  else
    let host := hostChars special false afterUser
    let rest := afterUser.drop host.length
    if special && host.isEmpty then .error .emptyHost
    else
      let shown ← if special then specialHost host else plainHost host
      let userInfo := user.bind userText
      if shown.isEmpty && (rest.head? = some ':' || userInfo.isSome) then .error .emptyHost
      else
        let (port, rest) ← match rest with
          | ':' :: more => readPort scheme more
          | _ => .ok (none, rest)
        let (path, rest) := readPathAfterHost scheme rest
        .ok (finish scheme (some ⟨userInfo, shown, port⟩) (.segments path) rest)

/-- A file's host, up to a slash, and what follows. -/
def readFileHost [DomainNames] (cs : List Char) : Except UrlError Url := do
  let host := cs.takeWhile fun c => !endsAuthority true c
  if isDrive host || host.isEmpty then
    let (path, rest) := readPath "file" cs
    .ok (finish "file" (some ⟨none, "", none⟩) (.segments path) rest)
  else
    let shown ← specialHost host
    let (path, rest) := readPathAfterHost "file" (cs.drop host.length)
    let hidden := shown = "localhost" || path.head?.any isNormalDrive
    .ok (finish "file" (some ⟨none, if hidden then "" else shown, none⟩) (.segments path) rest)

/-- What follows the colon of a file's address. -/
def readFile [DomainNames] (cs : List Char) : Except UrlError Url :=
  let slash (c : Char) : Bool := c = '/' || c = '\\'
  match cs with
  | a :: b :: rest =>
    if slash a && slash b then readFileHost rest
    else
      let (path, rest) := readPath "file" (if slash a then b :: rest else cs)
      .ok (finish "file" (some ⟨none, "", none⟩) (.segments path) rest)
  | _ =>
    let (path, rest) := readPath "file" (cs.dropWhile slash)
    .ok (finish "file" (some ⟨none, "", none⟩) (.segments path) rest)

/-- What follows the colon of a scheme. -/
def readAfterScheme [DomainNames] (scheme : String) (cs : List Char) : Except UrlError Url :=
  if scheme = "file" then readFile cs
  else if isSpecial scheme then
    readAuthority scheme (cs.dropWhile fun c => c = '/' || c = '\\')
  else
    match cs with
    | '/' :: '/' :: rest => readAuthority scheme rest
    | '/' :: rest =>
      let (path, rest) := readPath scheme rest
      .ok (finish scheme none (.segments path) rest)
    | _ =>
      let body := cs.takeWhile fun c => c ≠ '?' && c ≠ '#'
      .ok (finish scheme none (.opaqueText (String.ofList (percentEncode isControl body)))
        (cs.drop body.length))

/-- The text without blanks and controls at its ends, and without tabs and line breaks. -/
def clean (cs : List Char) : List Char :=
  let low (c : Char) : Bool := c.toNat ≤ 32
  (((cs.dropWhile low).reverse.dropWhile low).reverse).filter fun c =>
    c ≠ '\t' && c ≠ '\n' && c ≠ '\r'

/-- Reads an address. -/
def parse [DomainNames] (s : String) : Except UrlError Url :=
  match readScheme (clean s.toList) with
  | none => .error .relativeWithoutBase
  | some (scheme, rest) => readAfterScheme scheme rest

end Url
end CallScribe
