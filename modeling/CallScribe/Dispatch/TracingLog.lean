import CallScribe.Dispatch.Adapter

/-!
# CallScribe.Dispatch.TracingLog

An adapter that writes a log line for each event.

* `TracingLog.line`: the line of a payload. Metadata is redacted.
* `Adapter.tracing`: the adapter.
-/

namespace CallScribe
namespace TracingLog

def adapterName : String := "tracing"

/-- The redacted metadata as a text, null if there is none. -/
def metadataText (r : Redactor) (p : Payload) (s : MetadataStore) : String :=
  match p.params.metadata with
  | some h => (r.redactValue (.object (s.read h))).compact
  | none => Json.null.compact

/-- The latency as the line shows it. -/
def latencyText (p : Payload) : String :=
  match p.latencyMillis with
  | some ms => "Some(" ++ String.ofList (Decimal.intChars ms) ++ ")"
  | none => "None"

/-- The line of a payload. -/
def line (r : Redactor) (p : Payload) (s : MetadataStore) : LogLine :=
  let callId := ("call_id", Json.string p.callId)
  let callType := ("call_type", p.callType.toJson)
  let latency := ("latency_ms", Json.string (latencyText p))
  let metadata := ("metadata", Json.string (metadataText r p s))
  let model := ("model", Json.string p.model)
  match p.event with
  | .preCall =>
    ⟨.info, "Outbound call starting",
      [callId, callType, metadata, model, ("stream", .bool p.stream)], []⟩
  | .success =>
    ⟨.info, "Outbound call succeeded", [callId, callType, latency, metadata, model], []⟩
  | .failure =>
    let exception := match p.exception with
      | some e => r.redact e
      | none => ""
    ⟨.warn, "Outbound call failed",
      [callId, callType, ("exception", .string exception), latency, metadata, model], []⟩

end TracingLog

/-- Writes a log line for each event. -/
def Adapter.tracing (r : Redactor) : Adapter :=
  ⟨TracingLog.adapterName, fun p s => { store := s, entries := [.log (TracingLog.line r p s)] }⟩

end CallScribe
