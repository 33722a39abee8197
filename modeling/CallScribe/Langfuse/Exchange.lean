import CallScribe.Langfuse.Ingestion
import CallScribe.Langfuse.Recorder

/-!
# CallScribe.Langfuse.Exchange

A payload recorded at an ingestion endpoint.

* `Ingestion.ofConfig`: the endpoint that settings name, with the keys for it.
* `Ingestion.connectedLine`, `Ingestion.ingestedLine`: the log lines of a new connection and of an
  accepted event.
* `Exchange`, `Ingestion.exchange`: what is returned, sent and written down for a payload.
-/

namespace CallScribe

/-- What recording a payload at an endpoint returns, sends and writes down. -/
structure Exchange where
  ids : Option RecordIds
  requests : List HttpRequest
  lines : List LogLine

/-- The span around the calls to a backend. -/
def Recorder.span (callId : String) : LogSpan :=
  ⟨"callback.adapter", [("adapter", .string adapterName), ("call_id", .string callId)]⟩

namespace Ingestion

/-- The endpoint of the settings. `env` supplies what they leave open. -/
def ofConfig [DomainNames] (config : LangfuseConfig) (env : String → Option String) :
    Except LangfuseError Ingestion := do
  connect (← Credentials.resolve config env)

def connectedLine (i : Ingestion) : LogLine :=
  ⟨.info, "Langfuse HTTP backend initialized", [("endpoint", .string i.endpoint.text)], []⟩

/-- The line of an event that was accepted. -/
def ingestedLine (i : Ingestion) (c : BackendCall) : LogLine :=
  let (event, kind) := match c with
    | .trace _ => (i.traceEvent, "trace-create")
    | .generation .. => (i.generationEvent, "generation-create")
  ⟨.debug, "Langfuse event ingested", [("event_id", .string event), ("kind", .string kind)], []⟩

/-- Records a payload, for given replies to the two requests. -/
def exchange (i : Ingestion) (first second : HttpReply) (redactor : Redactor)
    (release : Option String) (p : Payload) (metadata : Fields Json) : Exchange :=
  let b := i.backend first second
  let done := ({ backend := b, redactor, release } : Recorder).record p metadata
  let accepted := done.calls.filter fun c => c.accepted b
  { ids := done.ids
    requests := i.received first second done.calls
    lines := accepted.map (fun c => (i.ingestedLine c).within (Recorder.span p.callId)) ++
      [done.line] }

end Ingestion
end CallScribe
