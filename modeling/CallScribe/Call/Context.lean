import CallScribe.Call.RawRequest
import CallScribe.Dispatch.Dispatcher

/-!
# CallScribe.Call.Context

One outbound call while it is being logged.

* `CallContext`: identity, policy and the details that the hooks gather.
* `CallContext.preCall`, `.postCall`, `.success`, `.failure`: the hooks.
* `CallContext.payload`: what adapters are handed.

The policy and whether requests are captured are fixed when the context is made.
-/

namespace CallScribe

/-- What the hooks of a call gather. -/
structure CallDetails where
  params : CallParams := {}
  input : Option Json := none
  apiKey : Option String := none
  args : Option RequestArgs := none
  response : Option String := none
  exception : Option String := none

namespace CallDetails

def toJson (d : CallDetails) (s : MetadataStore) : Json :=
  .object [
    ("additional_args", match d.args with
      | some a => a.toJson
      | none => .null),
    ("api_key", Json.ofString? d.apiKey),
    ("exception", Json.ofString? d.exception),
    ("input", d.input.getD .null),
    ("litellm_params", d.params.toJson s),
    ("original_response", Json.ofString? d.response)]

end CallDetails

/-- One outbound call. -/
structure CallContext where
  model : String
  messages : List Message
  callType : CallType
  callId : String
  stream : Bool := false
  functionId : String := ""
  startTime : Option Instant := none
  endTime : Option Instant := none
  details : CallDetails := {}
  captures : Bool := false
  policy : Policy := Policy.standard

/-- What the hooks of all calls share and leave behind: metadata, and the journal. -/
structure CallScene where
  store : MetadataStore := {}
  journal : List JournalEntry := []

namespace CallScene

def write (s : CallScene) (es : List JournalEntry) : CallScene :=
  { s with journal := s.journal ++ es }

end CallScene

/-- The kind of a value. -/
def Json.kindName : Json → String
  | .null => "null"
  | .bool _ => "bool"
  | .int _ | .real _ => "number"
  | .string _ => "string"
  | .array _ => "array"
  | .object _ => "object"

/-- A line for a value that is no text and was replaced under the reserved key. -/
def replacedEntries (previous : Option Json) : List JournalEntry :=
  match previous with
  | none | some (.string _) => []
  | some v =>
    [.log ⟨.debug, "Replaced non-string value under reserved raw_request key",
      [("previous_type", .string v.kindName)], []⟩]

namespace CallContext

/-- A value as it may leave the process. -/
def scrubValue (c : CallContext) (v : Json) : Json :=
  if c.policy.suppressed then .string placeholder else c.policy.redactor.redactValue v

/-- The context of a call under live settings. -/
def ofLive (l : LiveConfig) (model : String) (messages : List Message) (callType : CallType)
    (callId : String) : CallContext :=
  { model, messages, callType, callId, captures := l.config.policy.captureRequests,
    policy := l.policy }

def metadata (c : CallContext) : Option MetadataHandle := c.details.params.metadata

def withParams (c : CallContext) (p : CallParams) : CallContext :=
  { c with details := { c.details with params := p } }

/-- The handle of the call, with a new empty mapping if it has none. -/
def ensureMetadata (c : CallContext) (s : MetadataStore) :
    MetadataHandle × CallContext × MetadataStore :=
  let (h, p, s) := c.details.params.ensureMetadata s
  (h, c.withParams p, s)

/-- The line of a captured request. -/
def capturedLine (c : CallContext) : LogLine :=
  ⟨.debug, "Captured raw request",
    [("call_id", .string c.callId), ("model", .string c.model),
      ("suppressed", .bool c.policy.suppressed)], []⟩

/-- The line of a request that is not captured. -/
def uncapturedLine (c : CallContext) : LogLine :=
  ⟨.trace, "Raw request logging disabled", [("call_id", .string c.callId)], []⟩

/-- Before the call: the details of the request, and with capture the scrubbed request itself in
the metadata. -/
def preCall (c : CallContext) (input : Json) (apiKey : Option String) (model : String)
    (args : RequestArgs) (scene : CallScene) : CallContext × CallScene :=
  let (h, c, store) := c.ensureMetadata scene.store
  let c := { c with
    model := if model.isEmpty then c.model else model
    details := { c.details with
      input := some (c.scrubValue input), apiKey := apiKey.map maskSecret, args := some args } }
  if c.captures then
    let (previous, store) := store.setRawRequest h (c.policy.scrub args.command)
    (c, { scene with store }.write (replacedEntries previous ++ [JournalEntry.log c.capturedLine]))
  else (c, { scene with store }.write [.log c.uncapturedLine])

/-- After the call: the text of the answer, scrubbed. -/
def postCall (c : CallContext) (text : String) : CallContext :=
  { c with details := { c.details with response := some (c.policy.scrub text) } }

/-- What adapters are handed for an event. -/
def payload (c : CallContext) (event : CallEvent) (response : Option Json) : Payload where
  event := event
  model := c.model
  messages :=
    if c.policy.suppressed then c.messages.map fun m => m.withText placeholder else c.messages
  stream := c.stream
  callType := c.callType
  callId := c.callId
  functionId := c.functionId
  startTime := c.startTime
  endTime := c.endTime
  params := c.details.params
  response := response.map c.scrubValue
  exception := c.details.exception

/-- Hands an event of the call to every adapter. -/
def dispatch (c : CallContext) (d : Dispatcher) (live : LiveStore) (event : CallEvent)
    (response : Option Json) (scene : CallScene) : DispatchReport × CallScene :=
  let (report, store, entries) := d.dispatch live (c.payload event response) scene.store
  (report, { scene with store }.write entries)

/-- The call has succeeded. -/
def success (c : CallContext) (d : Dispatcher) (live : LiveStore) (now : Instant)
    (response : Option Json) (scene : CallScene) : CallContext × DispatchReport × CallScene :=
  let c := { c with endTime := some now }
  (c, c.dispatch d live .success response scene)

/-- The call has failed; the text of the error is redacted and kept. -/
def failure (c : CallContext) (d : Dispatcher) (live : LiveStore) (now : Instant)
    (error : String) (scene : CallScene) : CallContext × DispatchReport × CallScene :=
  let c := { c with
    endTime := some now
    details := { c.details with exception := some (c.policy.redactor.redact error) } }
  (c, c.dispatch d live .failure none scene)

end CallContext
end CallScribe
