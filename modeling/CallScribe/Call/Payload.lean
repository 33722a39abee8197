import CallScribe.Call.Types
import CallScribe.Metadata.Store
import CallScribe.Time.Instant

/-!
# CallScribe.Call.Payload

What is handed to an adapter for one event of a call.

* `Payload`, `Payload.toJson`.
* `Payload.latencyMillis`: the time between start and end.
-/

namespace CallScribe

/-- The data of a call at one event. -/
structure Payload where
  event : CallEvent
  model : String
  messages : List Message
  stream : Bool
  callType : CallType
  callId : String
  functionId : String
  startTime : Option Instant
  endTime : Option Instant
  params : CallParams
  response : Option Json
  exception : Option String

namespace Payload

def latencyMillis (p : Payload) : Option Int :=
  match p.startTime, p.endTime with
  | some a, some b => some (Instant.millisBetween a b)
  | _, _ => none

/-- The content of the metadata mapping, empty if there is none. -/
def metadata (p : Payload) (s : MetadataStore) : Fields Json :=
  match p.params.metadata with
  | some h => s.read h
  | none => []

def toJson (p : Payload) (s : MetadataStore) : Json :=
  .object [
    ("call_id", .string p.callId),
    ("call_type", p.callType.toJson),
    ("end_time", Instant.toJson? p.endTime),
    ("event", p.event.toJson),
    ("exception", Json.ofString? p.exception),
    ("function_id", .string p.functionId),
    ("litellm_params", p.params.toJson s),
    ("messages", messagesJson p.messages),
    ("model", .string p.model),
    ("response", p.response.getD .null),
    ("start_time", Instant.toJson? p.startTime),
    ("stream", .bool p.stream)]

end Payload
end CallScribe
