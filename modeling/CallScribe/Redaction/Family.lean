import CallScribe.Pattern.Rewriting
import CallScribe.Text.Blank

/-!
# CallScribe.Redaction.Family

Families of secrets: a name and the pattern that recognises a member.

* `Family.maskAll`: a text with every match of the family masked.
* `Family.occursIn`: whether the family recognises anything in a text.
* `Family.ofEntry`: a configured family, if its pattern can be compiled.
* `Family.builtin`: the five families that every redactor starts with.

A family with a lead keeps that part of a match, so that the name of a credential stays readable
where its value does not.
-/

namespace CallScribe

/-- What is written in place of a secret. -/
def marker : List Char := "[REDACTED_API_KEY]".toList

/-- A family of secrets. -/
structure Family where
  name : String
  pattern : Pattern
deriving DecidableEq, Repr

/-- A family as it is configured: a name and the text of a pattern. -/
structure FamilyEntry where
  name : String
  pattern : String
deriving DecidableEq, Repr

/-- The pattern of a configured family cannot be compiled, and what the compiler says of it. -/
structure InvalidFamily where
  name : String
  reason : Option String
deriving DecidableEq, Repr

def InvalidFamily.message (e : InvalidFamily) : String :=
  match e.reason with
  | some reason => "invalid redaction pattern '" ++ e.name ++ "': " ++ reason
  | none => "invalid redaction pattern '" ++ e.name ++ "'"

namespace Family

def ofEntry [PatternCompiler] (e : FamilyEntry) : Except InvalidFamily Family :=
  match PatternCompiler.compile e.pattern with
  | .ok p => .ok ⟨e.name, p⟩
  | .error reason => .error ⟨e.name, reason⟩

def occursIn (f : Family) (text : List Char) : Bool := f.pattern.occursIn text

def edits (f : Family) (text : List Char) : List Edit := f.pattern.edits text

/-- Masks every match; each gives way to one marker, its lead apart. -/
def maskAll (f : Family) (text : List Char) : List Char := Edit.run marker (f.edits text) text

/-- Letters and digits of ASCII, the underscore and the hyphen. -/
def keyChars : CharSet := ⟨[(45, 45), (48, 57), (65, 90), (95, 95), (97, 122)]⟩

/-- The characters of a bearer token before its padding, and the star of a masked one; of the
letters every case. -/
def bearerChars : CharSet :=
  ⟨[(42, 43), (45, 57), (65, 90), (95, 95), (97, 122), (126, 126), (383, 383), (8490, 8490)]⟩

/-- The characters of an assigned value, of the letters every case. -/
def valueChars : CharSet :=
  ⟨[(43, 43), (45, 57), (65, 90), (95, 95), (97, 122), (126, 126), (383, 383), (8490, 8490)]⟩

def hyphenOrUnderscore : CharSet := ⟨[(45, 45), (95, 95)]⟩

def quoteMark : CharSet := ⟨[(34, 34), (39, 39)]⟩

def colonOrEquals : CharSet := ⟨[(58, 58), (61, 61)]⟩

open Pattern

/-- Keys that begin with sk-ant-. -/
def anthropic : Family :=
  ⟨"anthropic", seqAll [wordEdge, word "sk-ant-", many keyChars 8]⟩

/-- Keys that begin with sk-lf- or pk-lf-. -/
def langfuse : Family :=
  ⟨"langfuse", seqAll [wordEdge, altAll [word "sk", word "pk"], word "-lf-", many keyChars 8]⟩

/-- Keys that begin with sk-. -/
def openai : Family :=
  ⟨"openai", seqAll [wordEdge, word "sk-", many keyChars 4]⟩

/-- Tokens after the word bearer, with their padding. -/
def bearer : Family :=
  ⟨"bearer", seqAll [
    lead (seqAll [wordEdge, wordAnyCase "bearer", many CharSet.blank 1]),
    many bearerChars 1,
    many (CharSet.single '=') 0]⟩

/-- The names that an assigned credential may have. -/
def credentialName : Pattern :=
  altAll [
    seqAll [wordAnyCase "api", maybe hyphenOrUnderscore, wordAnyCase "key"],
    seqAll [wordAnyCase "secret", maybe hyphenOrUnderscore, wordAnyCase "key"],
    seqAll [wordAnyCase "access", maybe hyphenOrUnderscore, wordAnyCase "token"],
    seqAll [wordAnyCase "auth", maybe hyphenOrUnderscore, wordAnyCase "token"],
    seqAll [wordAnyCase "client", maybe hyphenOrUnderscore, wordAnyCase "secret"],
    wordAnyCase "password"]

/-- Values of sixteen or more characters that are assigned to a credential's name. -/
def assignment : Family :=
  ⟨"assignment", seqAll [
    lead (seqAll [credentialName, maybe quoteMark, many CharSet.blank 0, .one colonOrEquals,
      many CharSet.blank 0, maybe quoteMark]),
    many valueChars 16]⟩

/-- The families that every redactor starts with. Those with a longer beginning come first, so
that they take a key whole before the shorter beginning splits it. -/
def builtin : List Family := [anthropic, langfuse, openai, bearer, assignment]

/-- The version of the built-in families. -/
def builtinVersion : Nat := 2

end Family
end CallScribe
