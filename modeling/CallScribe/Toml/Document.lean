import CallScribe.Toml.Lexical

/-!
# CallScribe.Toml.Document

Whole TOML documents.

* `Toml.readValue`: a value with all that is in it.
* `TomlDocument`: a document of which some lines have been read.
* `Toml.parse?`: the table of a document; there is none for a text that breaks a rule.
-/

namespace CallScribe
namespace Toml

mutual

/-- A value. `depth` bounds the nesting of arrays and inline tables. -/
def readValue : Nat → Nat → List Char → Option (Toml × List Char)
  | 0, _, _ => none
  | fuel + 1, depth, cs =>
    match cs with
    | '"' :: _ | '\'' :: _ => (readString cs).map fun (s, rest) => (.string s, rest)
    | '[' :: rest =>
      match depth with
      | 0 => none
      | d + 1 => (readItems fuel d [] rest).map fun (vs, after) => (.array vs, after)
    | '\x7b' :: rest =>
      match depth with
      | 0 => none
      | d + 1 =>
        match skipBlank rest with
        | '\x7d' :: after => some (.table [], after)
        | more => (readPairs fuel d [] more).map fun (es, after) =>
            (.table (TomlNode.freezeEntries es), after)
    | _ => readScalar cs

/-- The elements of an array up to its bracket, after which a comma may be left out. -/
def readItems : Nat → Nat → List Toml → List Char → Option (List Toml × List Char)
  | 0, _, _, _ => none
  | fuel + 1, depth, acc, cs =>
    match skipLines cs.length cs with
    | ']' :: rest => some (acc.reverse, rest)
    | more => do
      let (v, rest) ← readValue fuel depth more
      match skipLines rest.length rest with
      | ',' :: after => readItems fuel depth (v :: acc) after
      | ']' :: after => some ((v :: acc).reverse, after)
      | _ => none

/-- The pairs of an inline table up to its brace. -/
def readPairs : Nat → Nat → TomlEntries → List Char → Option (TomlEntries × List Char)
  | 0, _, _, _ => none
  | fuel + 1, depth, acc, cs => do
    let (path, key, rest) ← readKey cs
    let rest ← readMark '=' rest
    let (v, rest) ← readValue fuel depth (skipBlank rest)
    let acc ← TomlNode.addValue path key v acc
    match skipBlank rest with
    | ',' :: after => readPairs fuel depth acc after
    | '\x7d' :: after => some (acc, after)
    | _ => none

end

end Toml

/-- A document of which some lines have been read: the finished tables, the table that the last
header began, and the path of that header. -/
structure TomlDocument where
  root : TomlEntries
  current : TomlEntries
  path : List String
  isArray : Bool

namespace TomlDocument

def start : TomlDocument := ⟨[], [], [], false⟩

/-- Puts the current table into its place. -/
def close (d : TomlDocument) : Option TomlEntries :=
  match d.path.reverse with
  | [] => some d.current
  | key :: before =>
    TomlNode.extend false (fun _ parent =>
      match parent.lookup key with
      | none =>
        some (parent ++ [(key, if d.isArray then .tables [d.current]
          else .table false false d.current)])
      | some (.tables items) =>
        if d.isArray then some (TomlNode.set key (.tables (items ++ [d.current])) parent) else none
      | some _ => none) before.reverse false d.root

/-- Takes a key out of a table. -/
def remove (key : String) (entries : TomlEntries) : TomlEntries := entries.filter (·.1 ≠ key)

/-- Begins a table. One that so far stood only on the way to others is taken up. -/
def openTable (d : TomlDocument) (parents : List String) (key : String) : Option TomlDocument := do
  let root ← d.close
  let parent ← TomlNode.tableAt root parents
  let current ← match parent.lookup key with
    | none => some []
    | some (.table true false inner) => some inner
    | some _ => none
  let root ← TomlNode.extend false (fun _ entries => some (remove key entries)) parents false root
  some ⟨root, current, parents ++ [key], false⟩

/-- Begins a further table of an array of tables. -/
def openArray (d : TomlDocument) (parents : List String) (key : String) : Option TomlDocument := do
  let root ← d.close
  let root ← TomlNode.extend false (fun _ parent =>
    match parent.lookup key with
    | none => some parent
    | some (.tables _) => some parent
    | some _ => none) parents false root
  some ⟨root, [], parents ++ [key], true⟩

end TomlDocument

namespace Toml

/-- A header after its first bracket: its key, and the text after the closing brackets. -/
def readHeader (brackets : Nat) (cs : List Char) : Option (List String × String × List Char) := do
  let (path, key, rest) ← readKey cs
  let rest ← readMark ']' rest
  let rest ← if brackets = 2 then readMark ']' rest else some rest
  some (path, key, ← readLineEnd rest)

/-- Reads line after line. -/
def readLines : Nat → TomlDocument → List Char → Option TomlDocument
  | 0, _, _ => none
  | fuel + 1, d, cs =>
    match skipBlank cs with
    | [] => some d
    | '#' :: rest => do readLines fuel d (← readLineEnd ('#' :: rest))
    | '\n' :: rest => readLines fuel d rest
    | '\r' :: rest => do readLines fuel d (← readNewline ('\r' :: rest))
    | '[' :: '[' :: rest => do
      let (path, key, after) ← readHeader 2 rest
      readLines fuel (← d.openArray path key) after
    | '[' :: rest => do
      let (path, key, after) ← readHeader 1 rest
      readLines fuel (← d.openTable path key) after
    | rest => do
      let (path, key, rest) ← readKey rest
      let rest ← readMark '=' rest
      let (v, rest) ← readValue (2 * rest.length + 2) (depthLimit - 1) (skipBlank rest)
      let after ← readLineEnd rest
      readLines fuel { d with current := ← TomlNode.addValue path key v d.current } after

/-- The table of a document. A byte order mark at the beginning does not count. -/
def parse? (text : String) : Option Toml := do
  let cs := match text.toList with
    | '\ufeff' :: rest => rest
    | cs => cs
  let d ← readLines (cs.length + 1) TomlDocument.start cs
  let root ← d.close
  some (.table (TomlNode.freezeEntries root))

end Toml
end CallScribe
