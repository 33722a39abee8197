import CallScribe.Call.Context
import CallScribe.Json.Parser

/-!
# CallScribe.Command.Replay

A recorded call run through the hooks again.

* `RecordedCall`: the call as it was recorded, all of it optional.
* `RecordedCall.replay`: its hooks, and one dispatch before and one after it.
* `ReplayReport`: what the dispatches report, and the metadata at the end.
-/

namespace CallScribe

/-- A call as it was recorded. A call with an error has failed. -/
structure RecordedCall where
  model : String := "gpt-3.5-turbo"
  messages : List Message := []
  callType : CallType := .completion
  apiKey : Option String := none
  args : RequestArgs := {}
  metadata : Option (Fields Json) := none
  response : Option Json := none
  error : Option String := none

/-- The outcome of a replay. -/
structure ReplayReport where
  callId : String
  metadata : Option (Fields Json)
  before : DispatchReport
  after : DispatchReport
  journal : List JournalEntry

def ReplayReport.toJson (r : ReplayReport) : Json :=
  .object [
    ("call_id", .string r.callId),
    ("dispatch", .array [r.before.toJson, r.after.toJson]),
    ("metadata", match r.metadata with
      | some fs => .object fs
      | none => .null)]

namespace RecordedCall

def keys : List String :=
  ["model", "messages", "call_type", "api_key", "additional_args", "metadata", "response", "error"]

def decode (v : Json) : Option RecordedCall := do
  let initial : RecordedCall := {}
  match ← Decode.record keys v with
  | [model, messages, callType, apiKey, args, metadata, response, error] =>
    some {
      model := ← Decode.field (some initial.model) Decode.string model
      messages := ← Decode.field (some []) (Decode.list Message.decode) messages
      callType := ← Decode.field (some initial.callType) CallType.decode callType
      apiKey := ← Decode.field (some none) (Decode.optional Decode.string) apiKey
      args := ← Decode.field (some {}) RequestArgs.decode args
      metadata := ← Decode.field (some none) (Decode.optional Decode.object) metadata
      response := ← Decode.field (some none) (Decode.optional Decode.value) response
      error := ← Decode.field (some none) (Decode.optional Decode.string) error }
  | _ => none

/-- What is looked at in a recorded call: its keys, and those of its messages and of its request. -/
def shape : JsonShape :=
  .record (keys.map fun key => (key, match key with
    | "messages" => .list (.record [("role", .whole), ("content", .whole)])
    | "additional_args" =>
      .record [("api_base", .whole), ("headers", .whole), ("complete_input_dict", .whole)]
    | _ => .whole))

/-- A recorded call from the bytes of a file, if it holds one. -/
def load? (content : ByteArray) : Option RecordedCall := do
  decode (← Json.readAs? shape Json.depthLimit (← String.fromUTF8? content))

/-- The parameters of the call; its metadata becomes a mapping of the store. -/
def params (r : RecordedCall) (s : MetadataStore) : CallParams × MetadataStore :=
  match r.metadata with
  | some fs =>
    let (h, s) := s.add fs
    ({ metadata := some h, apiBase := r.args.apiBase }, s)
  | none => ({ apiBase := r.args.apiBase }, s)

/-- The context of the call under live settings. -/
def context (r : RecordedCall) (l : LiveConfig) (callId : String) (now : Instant)
    (s : MetadataStore) : CallContext × MetadataStore :=
  let (p, s) := r.params s
  let c := CallContext.ofLive l r.model r.messages r.callType callId
  ({ c with startTime := some now }.withParams p, s)

/-- The last hook: failure with the recorded error, or success with the recorded response. -/
def complete (r : RecordedCall) (c : CallContext) (d : Dispatcher) (live : LiveStore)
    (now : Instant) (scene : CallScene) : CallContext × DispatchReport × CallScene :=
  match r.error with
  | some e => c.failure d live now e scene
  | none => c.success d live now r.response scene

/-- Runs the call: the hook before it with a dispatch, then the last hook. -/
def replay (r : RecordedCall) (l : LiveConfig) (adapters : List Adapter) (callId : String)
    (now : Instant) : ReplayReport :=
  let (h, live) := ({} : LiveStore).add l
  let d : Dispatcher := { adapters, limit := Deadline.ofMillis l.timeoutMillis, live := some h }
  let (c, store) := r.context l callId now {}
  let (c, scene) := c.preCall (messagesJson c.messages) r.apiKey r.model r.args
    { store, journal := [d.countEntry] }
  let (before, scene) := c.dispatch d live .preCall none scene
  let (c, after, scene) := r.complete c d live now scene
  { callId := c.callId, metadata := c.metadata.map scene.store.read, before, after,
    journal := scene.journal }

end RecordedCall
end CallScribe
