import CallScribe.Langfuse.Record

/-!
# CallScribe.Langfuse.Backend

The other side of a record: something that accepts traces and generations, or does not.

* `LangfuseBackend`: the answers to the two calls.
* `BackendCall`: a call that was made.
* `LangfuseBackend.send`: a trace, and once that is accepted, its generation.
-/

namespace CallScribe

/-- The answers of a backend. An accepted trace or generation gets an id. -/
structure LangfuseBackend where
  trace : TraceParams → Except LangfuseError String
  generation : String → GenerationParams → Except LangfuseError String

/-- A call to a backend. A generation names the trace that it belongs to. -/
inductive BackendCall
  | trace (params : TraceParams)
  | generation (traceId : String) (params : GenerationParams)

/-- The ids of a call's record. -/
structure RecordIds where
  trace : String
  generation : String
deriving DecidableEq, Repr

namespace RecordIds

def toJson (i : RecordIds) : Json :=
  .object [("generation_id", .string i.generation), ("trace_id", .string i.trace)]

end RecordIds

namespace BackendCall

def toJson : BackendCall → Json
  | .trace p => .object [("call", .string "trace"), ("params", p.toJson)]
  | .generation t p =>
    .object [("call", .string "generation"), ("params", p.toJson), ("trace_id", .string t)]

/-- Whether the backend accepts the call. -/
def accepted (b : LangfuseBackend) : BackendCall → Bool
  | .trace p => (b.trace p).isOk
  | .generation t p => (b.generation t p).isOk

end BackendCall

namespace LangfuseBackend

/-- Sends the trace and, if that is accepted, the generation. With the calls that were made. -/
def send (b : LangfuseBackend) (r : Record) : List BackendCall × Except LangfuseError RecordIds :=
  match b.trace r.trace with
  | .error e => ([.trace r.trace], .error e)
  | .ok t =>
    match b.generation t r.generation with
    | .error e => ([.trace r.trace, .generation t r.generation], .error e)
    | .ok g => ([.trace r.trace, .generation t r.generation], .ok ⟨t, g⟩)

end LangfuseBackend
end CallScribe
