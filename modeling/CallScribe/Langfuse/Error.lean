/-!
# CallScribe.Langfuse.Error

What can go wrong between a call and its record in Langfuse.

* `LangfuseError`, `LangfuseError.message`.
* `LangfuseError.isBackend`: whether the other side failed, or this one.
-/

namespace CallScribe

/-- A failure to record a call. -/
inductive LangfuseError
  | missingCredentials (key : String)
  | invalidHost (host reason : String)
  | invalidMetadata (key expected actual : String)
  | serialization (detail : String)
  | transport (detail : String)
  | status (code : Nat) (body : String)
  | rejected (event message : String)
deriving DecidableEq, Repr

namespace LangfuseError

def message : LangfuseError → String
  | .missingCredentials v => "Missing Langfuse credentials: " ++ v ++ " not set"
  | .invalidHost host reason => "Invalid Langfuse host '" ++ host ++ "': " ++ reason
  | .invalidMetadata key expected actual =>
    "Invalid metadata key '" ++ key ++ "': expected " ++ expected ++ ", got " ++ actual
  | .serialization detail => "Serialization error: " ++ detail
  | .transport detail => "HTTP error: " ++ detail
  | .status code body => "Langfuse returned status " ++ toString code ++ ": " ++ body
  | .rejected event message => "Langfuse rejected event " ++ event ++ ": " ++ message

/-- Failures of the other side: no answer, a bad status, or a rejection. -/
def isBackend : LangfuseError → Bool
  | .transport _ | .status .. | .rejected .. => true
  | _ => false

end LangfuseError
end CallScribe
