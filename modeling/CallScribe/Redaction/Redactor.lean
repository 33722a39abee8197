import CallScribe.Redaction.Family
import CallScribe.Text.Folding
import CallScribe.Json.Basic

/-!
# CallScribe.Redaction.Redactor

Redaction of texts and of structured values.

* `Redactor`: the families, in the order in which they are applied.
* `Redactor.redact`: masks the secrets of a text.
* `Redactor.redactValue`: masks the secrets in the strings of a value, and whole values under
  names that announce a secret.
* `Redactor.build`: the built-in families, if wanted, and then configured ones.
-/

namespace CallScribe

/-- The families of secrets that are masked, in order. -/
structure Redactor where
  families : List Family
deriving DecidableEq, Repr

namespace Redactor

def builtin : Redactor := ⟨Family.builtin⟩

/-- Families from configured entries; the first one that cannot be compiled is the error. -/
def readEntries [PatternCompiler] : List FamilyEntry → Except InvalidFamily (List Family)
  | [] => .ok []
  | e :: rest =>
    match Family.ofEntry e with
    | .error err => .error err
    | .ok f =>
      match readEntries rest with
      | .error err => .error err
      | .ok fs => .ok (f :: fs)

/-- The built-in families, unless they are left out, and then the configured ones. -/
def build [PatternCompiler] (extra : List FamilyEntry) (withBuiltin : Bool) :
    Except InvalidFamily Redactor :=
  match readEntries extra with
  | .error err => .error err
  | .ok fs => .ok ⟨(if withBuiltin then Family.builtin else []) ++ fs⟩

/-- Each family in turn masks what the ones before it have left. -/
def redactChars (r : Redactor) (text : List Char) : List Char :=
  r.families.foldl (fun t f => f.maskAll t) text

def redact (r : Redactor) (text : String) : String := String.ofList (r.redactChars text.toList)

/-- The parts of a name that announce a secret. -/
def sensitiveParts : List (List Char) :=
  ["api_key", "apikey", "api-key", "secret", "password", "authorization", "access_token",
    "private_key"].map String.toList

/-- Whether `part` occurs somewhere in a text. -/
def hasInfix (part : List Char) : List Char → Bool
  | [] => part.isEmpty
  | c :: rest => part.isPrefixOf (c :: rest) || hasInfix part rest

/-- Whether the lower-case name contains a part that announces a secret. -/
def isSensitiveKey (key : String) : Bool :=
  sensitiveParts.any fun part => hasInfix part (lowerName key).toList

mutual

/-- Masks all strings of a value, and each value that is not null under a sensitive key. -/
def redactValue (r : Redactor) : Json → Json
  | .null => .null
  | .bool b => .bool b
  | .int n => .int n
  | .real d => .real d
  | .string s => .string (r.redact s)
  | .array items => .array (redactItems r items)
  | .object fields => .object (redactFields r fields)

def redactItems (r : Redactor) : List Json → List Json
  | [] => []
  | v :: rest => redactValue r v :: redactItems r rest

def redactFields (r : Redactor) : List (String × Json) → List (String × Json)
  | [] => []
  | (k, v) :: rest =>
    (k, if isSensitiveKey k && !v.isNull then .string (String.ofList marker)
      else redactValue r v) ::
      redactFields r rest

end

end Redactor
end CallScribe
