import CallScribe.Dispatch.Adapter

/-!
# CallScribe.Langfuse.Recorder

An adapter that records every call that ends.

* `Recorder`: a backend, a redactor for error texts, and the release.
* `Recorder.record`: a payload's record is built and sent; every failure ends in one log line.
* `Adapter.langfuse`: the adapter, which acts on success and failure and always succeeds.
-/

namespace CallScribe

/-- Records calls with a backend. -/
structure Recorder where
  backend : LangfuseBackend
  redactor : Redactor := Redactor.builtin
  release : Option String := none

/-- What became of one record: its ids if it was accepted, the calls to the backend, and one log
line. -/
structure Recorded where
  ids : Option RecordIds
  calls : List BackendCall
  line : LogLine

namespace Recorder

def adapterName : String := "langfuse"

/-- The line of a failure. -/
def failureLine (r : Recorder) (callId message severity : String) (e : LangfuseError) : LogLine :=
  ⟨.error, message,
    [("adapter", .string adapterName), ("call_id", .string callId),
      ("error", .string (r.redactor.redact e.message)), ("severity", .string severity)], []⟩

/-- The line of a success. -/
def successLine (callId : String) (ids : RecordIds) : LogLine :=
  ⟨.debug, "Langfuse generation recorded",
    [("call_id", .string callId), ("generation_id", .string ids.generation),
      ("trace_id", .string ids.trace)], []⟩

/-- Failures of the backend are errors, all others exceptions. -/
def severity (e : LangfuseError) : String := if e.isBackend then "error" else "exception"

/-- Builds and sends the record of a payload. -/
def record (r : Recorder) (p : Payload) (metadata : Fields Json) : Recorded :=
  match Record.build r.release p metadata with
  | .error e =>
    ⟨none, [],
      r.failureLine p.callId "Langfuse logging failed while building content" "exception" e⟩
  | .ok rec =>
    match r.backend.send rec with
    | (calls, .error e) =>
      ⟨none, calls, r.failureLine p.callId "Langfuse logging failed" (severity e) e⟩
    | (calls, .ok ids) => ⟨some ids, calls, successLine p.callId ids⟩

end Recorder

/-- Records every call that ends. -/
def Adapter.langfuse (r : Recorder) : Adapter :=
  ⟨Recorder.adapterName, fun p s =>
    match p.event with
    | .preCall => { store := s }
    | _ =>
      let done := r.record p (p.metadata s)
      { store := s
        entries := done.calls.map (fun c => .call c (c.accepted r.backend)) ++ [.log done.line] }⟩

end CallScribe
