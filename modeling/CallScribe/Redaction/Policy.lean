import CallScribe.Redaction.Redactor

/-!
# CallScribe.Redaction.Policy

What may leave the process, and how single credentials are shown.

* `Policy.scrub`: a text as it may leave: the placeholder if messages are suppressed, redacted
  otherwise.
* `maskSecret`: the first and last four characters of a long credential, stars for a short one.
* `Secret`: a credential whose printed forms never contain it.
-/

namespace CallScribe

/-- What stands in place of suppressed content. -/
def placeholder : String := "redacted-by-policy: message logging is turned off"

/-- Whether message content is suppressed, and the redactor for what is not. -/
structure Policy where
  suppressed : Bool
  redactor : Redactor
deriving DecidableEq, Repr

namespace Policy

/-- Content is logged, the secrets of the built-in families masked. -/
def standard : Policy := ⟨false, Redactor.builtin⟩

/-- Content is suppressed. -/
def suppressing : Policy := ⟨true, Redactor.builtin⟩

/-- A text as it may leave the process. -/
def scrub (p : Policy) (text : String) : String :=
  if p.suppressed then placeholder else p.redactor.redact text

end Policy

/-- A recognisable hint of a credential; twelve characters or fewer give stars only. -/
def maskSecret (secret : String) : String :=
  let cs := secret.toList
  if cs.length ≤ 12 then String.ofList (List.replicate (max cs.length 4) '*')
  else String.ofList (cs.take 4 ++ ['*', '*', '*', '*'] ++ cs.drop (cs.length - 4))

/-- A credential. -/
structure Secret where
  value : String
deriving DecidableEq

namespace Secret

/-- The text that every printed form shows. -/
def shown : String := "[REDACTED]"

def display (_ : Secret) : String := shown

def describe (_ : Secret) : String := "SecretString(\"" ++ shown ++ "\")"

def isEmpty (s : Secret) : Bool := s.value.isEmpty

/-- The credential as a value to be written. -/
def toJson (s : Secret) : Json := .string s.display

end Secret
end CallScribe
