import CallScribe.Pattern.Classes

/-!
# CallScribe.Pattern.Reader

Reading patterns from their text.

* `PatternFlags.readEscape`: what a backslash begins.
* `readClass`: bracketed classes with ranges, nested classes and the set operations.
* `readChoice`: groups, switches, choices and repetitions.
* `Pattern.read?`: a whole pattern; there is no result for a text that is no pattern. Of the
  properties of characters it knows those of `propertyClass?` and `propertyValueClass?`.
-/

namespace CallScribe

/-- Skips blanks, and comments from a hash sign to the end of the line. -/
def skipRemarks : Bool → List Char → List Char
  | _, [] => []
  | true, c :: rest => skipRemarks (c ≠ '\n') rest
  | false, c :: rest =>
    if isBlank c then skipRemarks false rest
    else if c = '#' then skipRemarks true rest
    else c :: rest

namespace PatternFlags

/-- In verbose mode, blanks and comments mean nothing. -/
def gap (f : PatternFlags) (cs : List Char) : List Char :=
  if f.verbose then skipRemarks false cs else cs

end PatternFlags

def hexDigit? (c : Char) : Option Nat :=
  if '0' ≤ c && c ≤ '9' then some (c.toNat - 48)
  else if 'a' ≤ c && c ≤ 'f' then some (c.toNat - 87)
  else if 'A' ≤ c && c ≤ 'F' then some (c.toNat - 55)
  else none

/-- The character with the given number, unless it is a surrogate or out of range. -/
def scalar? (n : Nat) : Option Char :=
  if n < 0xD800 || (0xE000 ≤ n && n ≤ 0x10FFFF) then some (Char.ofNat n) else none

/-- The smallest elements of a pattern. A byte is a character written with two hex digits. -/
inductive PatternAtom
  | char (c : Char) (byte : Bool)
  | set (s : CharSet)
  | look (l : Look)

namespace PatternFlags

/-- A fixed number of hex digits. -/
def readHexDigits (f : PatternFlags) : Nat → Nat → List Char → Option (Nat × List Char)
  | 0, value, cs => some (value, cs)
  | _ + 1, _, [] => none
  | n + 1, value, c :: rest => do
    let d ← hexDigit? c
    f.readHexDigits n (value * 16 + d) (f.gap rest)

/-- Hex digits up to a closing brace, at least one of them. -/
def readHexBraced (f : PatternFlags) : Nat → Option Nat → List Char → Option (Nat × List Char)
  | 0, _, _ => none
  | fuel + 1, value, cs =>
    match f.gap cs with
    | [] => none
    | '}' :: rest => value.map fun v => (v, f.gap rest)
    | c :: rest => do
      let d ← hexDigit? c
      let v := value.getD 0 * 16 + d
      if v < 0x100000000 then f.readHexBraced fuel (some v) rest else none

/-- The name between braces of a property. -/
def readBraced (f : PatternFlags) : Nat → List Char → List Char → Option (List Char × List Char)
  | 0, _, _ => none
  | fuel + 1, name, cs =>
    match f.gap cs with
    | [] => none
    | '}' :: rest => some (name.reverse, rest)
    | c :: rest => f.readBraced fuel (c :: name) rest

/-- Splits at the first occurrence of a separator. -/
def splitAt? (sep : List Char) : List Char → List Char → Option (List Char × List Char)
  | _, [] => none
  | before, c :: rest =>
    if sep.isPrefixOf (c :: rest) then some (before.reverse, (c :: rest).drop sep.length)
    else splitAt? sep (c :: before) rest

/-- The class that a property's text between the braces names. -/
def property? (name : List Char) : Option (CharSet × Bool) :=
  match splitAt? ['!', '='] [] name with
  | some (k, v) => (propertyValueClass? (String.ofList k) (String.ofList v)).map (·, true)
  | none =>
    match (splitAt? [':'] [] name).orElse fun _ => splitAt? ['='] [] name with
    | some (k, v) => (propertyValueClass? (String.ofList k) (String.ofList v)).map (·, false)
    | none => (propertyClass? (String.ofList name)).map (·, false)

/-- A property after its letter; a capital letter negates it. -/
def readProperty (f : PatternFlags) (negated : Bool) (cs : List Char) :
    Option (CharSet × List Char) := do
  if !f.unicode then none
  else
    let (found, rest) ← match f.gap cs with
      | [] => none
      | '{' :: rest => do
        let (name, rest) ← f.readBraced (rest.length + 1) [] rest
        some (← property? name, rest)
      | c :: rest =>
        if c = '\\' then none
        else do some ((← propertyClass? (String.ofList [c]), false), f.gap rest)
    let s := f.fold found.1
    some (if negated != found.2 then f.negate s else s, rest)

/-- The letters of a word edge's name between braces. -/
def readEdgeName (f : PatternFlags) : Nat → List Char → List Char → Option (List Char × List Char)
  | 0, _, _ => none
  | fuel + 1, name, cs =>
    match cs with
    | [] => none
    | '}' :: rest => some (name.reverse, rest)
    | c :: rest =>
      if c.isAlpha || c = '-' then f.readEdgeName fuel (c :: name) (f.gap rest) else none

/-- A word edge, with the kind that braces may name. Braces that begin otherwise are counts. -/
def readWordEdge (f : PatternFlags) (cs : List Char) : Option (Look × List Char) :=
  match cs with
  | '{' :: rest =>
    match f.gap rest with
    | [] => none
    | c :: _ =>
      if c.isAlpha || c = '-' then do
        let (name, after) ← f.readEdgeName (rest.length + 1) [] (f.gap rest)
        let edge ← match String.ofList name with
          | "start" => some WordEdge.start
          | "end" => some WordEdge.stop
          | "start-half" => some WordEdge.startHalf
          | "end-half" => some WordEdge.stopHalf
          | _ => none
        some (.word edge f.words, after)
      else some (.word .either f.words, cs)
  | _ => some (.word .either f.words, cs)

/-- What follows a backslash. -/
def readEscape (f : PatternFlags) : List Char → Option (PatternAtom × List Char)
  | [] => none
  | c :: rest =>
    let hex (n : Nat) : Option (PatternAtom × List Char) :=
      match f.gap rest with
      | [] => none
      | '{' :: more => do
        let (v, after) ← f.readHexBraced (more.length + 1) none more
        some (.char (← scalar? v) false, after)
      | more => do
        let (v, after) ← f.readHexDigits n 0 more
        some (.char (← scalar? v) (n = 2), after)
    let look (l : Look) : Option (PatternAtom × List Char) := some (.look l, rest)
    let shorthand (s : CharSet) : Option (PatternAtom × List Char) := do
      some (.set (← f.check s), rest)
    match c with
    | 'x' => hex 2
    | 'u' => hex 4
    | 'U' => hex 8
    | 'p' => (f.readProperty false rest).map fun (s, after) => (.set s, after)
    | 'P' => (f.readProperty true rest).map fun (s, after) => (.set s, after)
    | 'd' => shorthand f.digits
    | 's' => shorthand f.blanks
    | 'w' => shorthand f.words
    | 'D' => shorthand (f.negate f.digits)
    | 'S' => shorthand (f.negate f.blanks)
    | 'W' => shorthand (f.negate f.words)
    | 'a' => some (.char '\x07' false, rest)
    | 'f' => some (.char '\x0c' false, rest)
    | 't' => some (.char '\t' false, rest)
    | 'n' => some (.char '\n' false, rest)
    | 'r' => some (.char '\r' false, rest)
    | 'v' => some (.char '\x0b' false, rest)
    | 'A' => look .textStart
    | 'z' => look .textStop
    | 'b' => (f.readWordEdge rest).map fun (l, after) => (.look l, after)
    | 'B' => look (.word .neither f.words)
    | '<' => look (.word .start f.words)
    | '>' => look (.word .stop f.words)
    | _ => if c.toNat < 128 && !c.isAlphanum then some (.char c false, rest) else none

/-- An element of a class as a set. -/
def atomSet (f : PatternFlags) : PatternAtom → Option CharSet
  | .char c byte => if !f.unicode && !byte && 127 < c.toNat then none else some (CharSet.single c)
  | .set s => some s
  | .look _ => none

/-- An end of a range. -/
def atomChar (f : PatternFlags) : PatternAtom → Option Char
  | .char c byte => if !f.unicode && !byte && 127 < c.toNat then none else some c
  | _ => none

/-- One element of a class, before any range is looked for. -/
def readClassAtom (f : PatternFlags) : List Char → Option (PatternAtom × List Char)
  | [] => none
  | '\\' :: rest => f.readEscape rest
  | c :: rest => some (.char c false, rest)

/-- One element of a class, or a range of characters. -/
def readClassRange (f : PatternFlags) (cs : List Char) : Option (CharSet × List Char) := do
  let (first, rest) ← f.readClassAtom cs
  match f.gap rest with
  | [] => none
  | '-' :: more =>
    match f.gap more with
    | [] => none
    | ']' :: _ => some (← f.atomSet first, f.gap rest)
    | '-' :: _ => some (← f.atomSet first, f.gap rest)
    | next => do
      let (last, after) ← f.readClassAtom next
      let a ← f.atomChar first
      let b ← f.atomChar last
      if a ≤ b then some (⟨[(a.toNat, b.toNat)]⟩, after) else none
  | next => some (← f.atomSet first, next)

end PatternFlags

/-- A named ASCII class in its own brackets, after the first bracket. -/
def readAsciiClass (f : PatternFlags) : List Char → Option (CharSet × List Char)
  | ':' :: rest =>
    let (negated, rest) := match rest with
      | '^' :: more => (true, more)
      | _ => (false, rest)
    let name := rest.takeWhile (· ≠ ':')
    match rest.drop name.length with
    | ':' :: ']' :: after =>
      (asciiClass? (String.ofList name)).map fun s =>
        (if negated then f.negate (f.fold s) else f.fold s, after)
    | _ => none
  | _ => none

/-- The operations on classes. -/
inductive ClassOp
  | both | without | either

def ClassOp.apply (op : ClassOp) (s t : CharSet) : CharSet :=
  match op with
  | .both => s.inter t
  | .without => s.diff t
  | .either => s.symmDiff t

/-- The elements of a class since its bracket or its last operation: what they match together, how
many there are, and the greatest depth among them. -/
structure ClassUnion where
  set : CharSet := CharSet.none
  size : Nat := 0
  depth : Nat := 0

namespace ClassUnion

def add (u : ClassUnion) (s : CharSet) (depth : Nat) : ClassUnion :=
  ⟨u.set.union s, u.size + 1, max u.depth depth⟩

/-- Several elements lie one level below what holds them. -/
def nesting (u : ClassUnion) : Nat := if 1 < u.size then u.depth + 1 else u.depth

/-- Closes an operation that waits for its right-hand side; there is a depth with each set. -/
def close (u : ClassUnion) (f : PatternFlags) (waiting : Option (ClassOp × CharSet × Nat)) :
    CharSet × Nat :=
  match waiting with
  | none => (u.set, u.nesting)
  | some (op, left, depth) => (op.apply (f.fold left) (f.fold u.set), max depth u.nesting + 1)

end ClassUnion

/-- What a class may begin with: a negation, then hyphens, or a closing bracket, as themselves. -/
def readClassHead (f : PatternFlags) (cs : List Char) : Bool × ClassUnion × List Char :=
  let (negated, cs) := match f.gap cs with
    | '^' :: rest => (true, f.gap rest)
    | cs => (false, cs)
  let rec hyphens : Nat → ClassUnion → List Char → ClassUnion × List Char
    | fuel + 1, u, '-' :: rest => hyphens fuel (u.add (CharSet.single '-') 0) (f.gap rest)
    | _, u, rest => (u, rest)
  match hyphens cs.length {} cs with
  | (u, rest) =>
    match rest with
    | ']' :: more =>
      if u.size = 0 then (negated, u.add (CharSet.single ']') 0, f.gap more)
      else (negated, u, rest)
    | _ => (negated, u, rest)

/-- The rest of a class up to its closing bracket, with its depth of nesting. -/
def readClass (f : PatternFlags) : Nat → Bool → ClassUnion → Option (ClassOp × CharSet × Nat) →
    List Char → Option (CharSet × Nat × List Char)
  | 0, _, _, _, _ => none
  | fuel + 1, negated, found, waiting, cs =>
    let next (op : ClassOp) (rest : List Char) :=
      readClass f fuel negated {} (some (op, found.close f waiting)) rest
    match f.gap cs with
    | [] => none
    | ']' :: rest => do
      let (s, depth) := found.close f waiting
      let s := f.fold s
      let s ← f.check (if negated then f.negate s else s)
      some (s, depth + 1, rest)
    | '[' :: rest =>
      match readAsciiClass f rest with
      | some (s, after) => readClass f fuel negated (found.add s 0) waiting after
      | none =>
        let (negated', found', inner) := readClassHead f rest
        match readClass f fuel negated' found' none inner with
        | none => none
        | some (s, depth, after) => readClass f fuel negated (found.add s depth) waiting after
    | '&' :: '&' :: rest => next .both rest
    | '-' :: '-' :: rest => next .without rest
    | '~' :: '~' :: rest => next .either rest
    | more => do
      let (s, after) ← f.readClassRange more
      readClass f fuel negated (found.add s 0) waiting after

/-- A part of a pattern, with its depth of nesting. Switches on their own cannot be repeated. -/
structure PatternPart where
  pattern : Pattern
  depth : Nat
  repeatable : Bool

namespace PatternPart

/-- Parts one after the other; they come in reverse order. -/
def sequence (items : List PatternPart) : PatternPart :=
  match items with
  | [] => ⟨.empty, 0, true⟩
  | [p] => p
  | _ => ⟨Pattern.chain (items.reverse.map (·.pattern)),
      (items.map (·.depth)).foldl max 0 + 1, true⟩

/-- A choice between sequences, of which the last is still open. -/
def choice (branches : List PatternPart) (items : List PatternPart) : PatternPart :=
  match branches with
  | [] => sequence items
  | _ =>
    let all := branches ++ [sequence items]
    ⟨Pattern.altAll (all.map (·.pattern)), (all.map (·.depth)).foldl max 0 + 1, true⟩

/-- A part repeated. What is repeated no times at all is nothing. -/
def repeated (p : PatternPart) (least : Nat) (most : Option Nat) (greedy : Bool) : PatternPart :=
  let pattern := match most with
    | some 0 => Pattern.empty
    | _ => match p.pattern with
      | .one s => .run s least most greedy
      | .empty => .empty
      | .look l => .loop (.look l) (min least 1) (some 1) greedy
      | q => .loop q least most greedy
  ⟨pattern, p.depth + 1, true⟩

end PatternPart

/-- A place in the text of a pattern: what is left, the switches in force, and the names given to
groups so far. -/
structure PatternReading where
  rest : List Char
  flags : PatternFlags
  names : List String

/-- What a group begins with. -/
inductive GroupHead
  | switches (f : PatternFlags)
  | group (f : PatternFlags) (name : Option String)

namespace PatternFlags

/-- Sets one switch. -/
def set? (f : PatternFlags) (on : Bool) : Char → Option PatternFlags
  | 'i' => some { f with ignoreCase := on }
  | 'm' => some { f with multiLine := on }
  | 's' => some { f with dotAll := on }
  | 'U' => some { f with swapGreed := on }
  | 'u' => some { f with unicode := on }
  | 'x' => some { f with verbose := on }
  | 'R' => some { f with crlf := on }
  | _ => none

/-- Switches up to a colon or a closing parenthesis: each at most once, and a negation has to be
followed by one. -/
def readSwitches (used : List Char) (on : Bool) (f : PatternFlags) :
    List Char → Option (PatternFlags × List Char × List Char)
  | [] => none
  | c :: rest =>
    if c = ':' || c = ')' then
      if used.head? = some '-' then none else some (f, used, c :: rest)
    else if used.contains c then none
    else if c = '-' then readSwitches (c :: used) false f rest
    else match f.set? on c with
      | none => none
      | some g => readSwitches (c :: used) on g rest

end PatternFlags

/-- A character of a group's name. -/
def isNameChar (first : Bool) (c : Char) : Bool :=
  let alphabetic := if c.toNat < 128 then c.isAlpha else
    ((Category.property? "alphabetic").getD CharSet.none).contains c
  if first then c = '_' || alphabetic
  else c = '_' || c = '.' || c = '[' || c = ']' || c.isDigit || alphabetic ||
    (127 < c.toNat && Category.inGroup "N" (Category.ofChar c))

/-- The name of a group, after its opening bracket. -/
def readGroupName : List Char → List Char → Option (String × List Char)
  | _, [] => none
  | name, c :: rest =>
    if c = '>' then
      if name.isEmpty then none else some (String.ofList name.reverse, rest)
    else if isNameChar name.isEmpty c then readGroupName (c :: name) rest
    else none

namespace PatternReading

/-- The beginning of a group, after its parenthesis. -/
def readGroupHead (r : PatternReading) : Option (GroupHead × PatternReading) :=
  let cs := r.flags.gap r.rest
  let named (rest : List Char) : Option (GroupHead × PatternReading) := do
    let (name, rest) ← readGroupName [] rest
    if r.names.contains name then none
    else some (.group r.flags (some name), { r with rest, names := name :: r.names })
  match cs with
  | '?' :: '=' :: _ | '?' :: '!' :: _ | '?' :: '<' :: '=' :: _ | '?' :: '<' :: '!' :: _ => none
  | '?' :: 'P' :: '<' :: rest => named rest
  | '?' :: '<' :: rest => named rest
  | '?' :: rest => do
    let (f, used, after) ← r.flags.readSwitches [] true rest
    match after with
    | ')' :: rest => if used.isEmpty then none else some (.switches f, { r with rest })
    | ':' :: rest => some (.group f none, { r with rest })
    | _ => none
  | _ => some (.group r.flags none, { r with rest := cs })

end PatternReading

/-- A decimal number with blanks around it. -/
def readCount (f : PatternFlags) (cs : List Char) : Option (Nat × List Char) :=
  let rec digits : Nat → Option Nat → List Char → Option Nat × List Char
    | fuel + 1, n, c :: rest =>
      if c.isDigit then digits fuel (some (n.getD 0 * 10 + (c.toNat - 48))) (f.gap rest)
      else (n, c :: rest)
    | _, n, rest => (n, rest)
  let cs := cs.dropWhile isBlank
  match digits cs.length none cs with
  | (some n, rest) => if n < 0x100000000 then some (n, f.gap (rest.dropWhile isBlank)) else none
  | (none, _) => none

/-- The bounds of a counted repetition, after the opening brace. -/
def readBounds (f : PatternFlags) (cs : List Char) : Option (Nat × Option Nat × List Char) := do
  let (least, rest) ← readCount f (f.gap cs)
  let (most, rest) ← match rest with
    | ',' :: more =>
      match f.gap more with
      | '}' :: after => some (none, '}' :: after)
      | next => (readCount f next).map fun (m, after) => (some m, after)
    | _ => some (some least, rest)
  match rest with
  | '}' :: after =>
    match most with
    | some m => if least ≤ m then some (least, most, f.gap after) else none
    | none => some (least, most, f.gap after)
  | _ => none

/-- A question mark after a repetition makes it a lazy one. -/
def readGreed (f : PatternFlags) : List Char → Bool × List Char
  | '?' :: rest => (f.swapGreed, rest)
  | rest => (!f.swapGreed, rest)

/-- Repeats the last part of a sequence. -/
def repeatLast (items : List PatternPart) (least : Nat) (most : Option Nat) (greedy : Bool) :
    Option (List PatternPart) :=
  match items with
  | [] => none
  | p :: before => if p.repeatable then some (p.repeated least most greedy :: before) else none

/-- The greatest depth of nesting. -/
def deepest : Nat := 250

/-- A choice up to a closing parenthesis or the end: its finished branches, and in reverse order
the parts of the branch that is being read. -/
def readChoice : Nat → List PatternPart → List PatternPart → PatternReading →
    Option (PatternPart × PatternReading)
  | 0, _, _, _ => none
  | fuel + 1, branches, items, r =>
    let f := r.flags
    let repetition (least : Nat) (most : Option Nat) (rest : List Char) := do
      let (greedy, rest) := readGreed f rest
      let items ← repeatLast items least most greedy
      readChoice fuel branches items { r with rest }
    let atom (p : Pattern) (rest : List Char) :=
      readChoice fuel branches (⟨p, 0, true⟩ :: items) { r with rest }
    match f.gap r.rest with
    | [] => some (PatternPart.choice branches items, { r with rest := [] })
    | ')' :: rest => some (PatternPart.choice branches items, { r with rest := ')' :: rest })
    | '|' :: rest => readChoice fuel (branches ++ [PatternPart.sequence items]) [] { r with rest }
    | '(' :: rest => do
      let (head, inner) ← { r with rest }.readGroupHead
      match head with
      | .switches g =>
        readChoice fuel branches (⟨.empty, 0, false⟩ :: items) { inner with flags := g }
      | .group g name => do
        let (p, after) ← readChoice fuel [] [] { inner with flags := g }
        match after.rest with
        | ')' :: rest =>
          let q := if name = some "prefix" then Pattern.lead p.pattern else p.pattern
          readChoice fuel branches (⟨q, p.depth + 1, true⟩ :: items)
            { after with rest, flags := f }
        | _ => none
    | '[' :: rest => do
      let (negated, found, inner) := readClassHead f rest
      let (s, depth, after) ← readClass f (inner.length + 1) negated found none inner
      readChoice fuel branches (⟨.one s, depth, true⟩ :: items) { r with rest := after }
    | '?' :: rest => repetition 0 (some 1) rest
    | '*' :: rest => repetition 0 none rest
    | '+' :: rest => repetition 1 none rest
    | '{' :: rest => do
      let (least, most, after) ← readBounds f rest
      repetition least most after
    | '.' :: rest => do atom (.one (← f.check f.anything)) rest
    | '^' :: rest => atom (.look (if f.multiLine then
        (if f.crlf then .lineStartCrlf else .lineStart) else .textStart)) rest
    | '$' :: rest => atom (.look (if f.multiLine then
        (if f.crlf then .lineStopCrlf else .lineStop) else .textStop)) rest
    | '\\' :: rest => do
      let (a, after) ← f.readEscape rest
      match a with
      | .look l => atom (.look l) after
      | .set s => atom (.one s) after
      | .char c byte =>
        if !f.unicode && 127 < c.toNat && (byte || f.ignoreCase) then none
        else atom (.one (f.character c)) after
    | c :: rest =>
      if !f.unicode && f.ignoreCase && 127 < c.toNat then none
      else atom (.one (f.character c)) rest

/-- Reads a pattern; nothing for a text that is none, that is nested too deeply, or that makes a
pattern which does not fit. -/
def Pattern.read? (fits : Pattern → Bool) (text : String) : Option Pattern := do
  let cs := text.toList
  let (p, r) ← readChoice (cs.length + 1) [] [] ⟨cs, {}, []⟩
  if r.rest.isEmpty && p.depth ≤ deepest && fits p.pattern then some p.pattern else none

end CallScribe
