import CallScribe.Call.Payload
import CallScribe.Langfuse.Error
import CallScribe.Redaction.Policy

/-!
# CallScribe.Langfuse.Record

A call as Langfuse records it: a trace and a generation.

* `TraceParams`, `GenerationParams`: the bodies of the two.
* `Record.build`: both from a payload. Keys of its metadata override the defaults.
-/

namespace CallScribe

/-- How grave an observation is. -/
inductive ObservationLevel
  | debug | default | warning | error
deriving DecidableEq, Repr

namespace ObservationLevel

def name : ObservationLevel → String
  | .debug => "DEBUG"
  | .default => "DEFAULT"
  | .warning => "WARNING"
  | .error => "ERROR"

def all : List ObservationLevel := [.debug, .default, .warning, .error]

def toJson (l : ObservationLevel) : Json := .string l.name

def decode : Json → Option ObservationLevel :=
  Decode.variant Json.isNull (all.map fun l => (l.name, l))

end ObservationLevel

/-- Numbers of tokens. -/
structure Usage where
  input : Nat
  output : Nat
  total : Nat
deriving DecidableEq, Repr

namespace Usage

def toJson (u : Usage) : Json :=
  .object [("input", .int u.input), ("output", .int u.output), ("total", .int u.total)]

def decode (v : Json) : Option Usage := do
  match ← Decode.record ["input", "output", "total"] v with
  | [i, o, t] =>
    some ⟨← Decode.field none Decode.natural i, ← Decode.field none Decode.natural o,
      ← Decode.field none Decode.natural t⟩
  | _ => none

/-- The token numbers of a response; the total is the sum unless it is given. -/
def ofResponse? (response : Json) : Option Usage := do
  let usage ← response.get? "usage"
  let count (key : String) : Option Nat := (usage.get? key).bind Json.asNatural?
  let input := (count "prompt_tokens").getD 0
  let output := (count "completion_tokens").getD 0
  some ⟨input, output, (count "total_tokens").getD (input + output)⟩

end Usage

/-- The body of a trace. -/
structure TraceParams where
  id : String
  name : String
  timestamp : Option Instant
  userId : Option String
  sessionId : Option String
  tags : List String
  release : Option String
  input : Json
  output : Json

/-- A member that is left out if there is no value. -/
def optionalField (key : String) : Option String → List (String × Json)
  | some s => [(key, .string s)]
  | none => []

def TraceParams.toJson (t : TraceParams) : Json :=
  .object (
    [("id", .string t.id), ("input", t.input), ("name", .string t.name), ("output", t.output)] ++
    optionalField "release" t.release ++ optionalField "sessionId" t.sessionId ++
    (if t.tags.isEmpty then [] else [("tags", .array (t.tags.map .string))]) ++
    [("timestamp", Instant.toJson? t.timestamp)] ++ optionalField "userId" t.userId)

/-- The body of a generation. -/
structure GenerationParams where
  id : String
  name : String
  model : String
  startTime : Option Instant
  endTime : Option Instant
  input : Json
  output : Json
  metadata : Fields Json
  level : ObservationLevel
  statusMessage : Option String
  usage : Option Usage

def GenerationParams.toJson (g : GenerationParams) : Json :=
  .object (
    [("endTime", Instant.toJson? g.endTime), ("id", .string g.id), ("input", g.input),
      ("level", g.level.toJson), ("metadata", .object g.metadata), ("model", .string g.model),
      ("name", .string g.name), ("output", g.output),
      ("startTime", Instant.toJson? g.startTime)] ++
    optionalField "statusMessage" g.statusMessage ++
    (match g.usage with
      | some u => [("usage", u.toJson)]
      | none => []))

/-- A trace and the generation that belongs to it. -/
structure Record where
  trace : TraceParams
  generation : GenerationParams

namespace Record

/-- The text of a scalar that may stand for a string. -/
def textKey (metadata : Fields Json) (key : String) : Except LangfuseError (Option String) :=
  match metadata.get? key with
  | none | some .null => .ok none
  | some (.string s) => .ok (some s)
  | some (.int n) => .ok (some (Json.int n).compact)
  | some (.real d) => .ok (some (Json.real d).compact)
  | some other => .error (.invalidMetadata key "a string" other.compact)

/-- A switch, off unless it is given. -/
def switchKey (metadata : Fields Json) (key : String) : Except LangfuseError Bool :=
  match metadata.get? key with
  | none | some .null => .ok false
  | some (.bool b) => .ok b
  | some other => .error (.invalidMetadata key "a boolean" other.compact)

def badTags (actual : Json) : LangfuseError :=
  .invalidMetadata "tags" "a list of strings" actual.compact

/-- Strings only; the first other element is the error. -/
def tagItems : List Json → Except LangfuseError (List String)
  | [] => .ok []
  | .string s :: rest =>
    match tagItems rest with
    | .ok ss => .ok (s :: ss)
    | .error e => .error e
  | other :: _ => .error (badTags other)

def tagsKey (metadata : Fields Json) : Except LangfuseError (List String) :=
  match metadata.get? "tags" with
  | none | some .null => .ok []
  | some (.array items) => tagItems items
  | some other => .error (badTags other)

/-- The messages; those of an embedding are wrapped. -/
def inputOf (p : Payload) : Json :=
  if p.callType.isEmbedding then .object [("input", messagesJson p.messages)]
  else messagesJson p.messages

/-- The message of the first choice, or else the whole response. -/
def outputOf (p : Payload) : Json :=
  match p.response with
  | none => .null
  | some r => (r.at? ["choices", "0", "message"]).getD r

/-- The trace and the generation of a payload. -/
def build (release : Option String) (p : Payload) (metadata : Fields Json) :
    Except LangfuseError Record := do
  let generationName := (← textKey metadata "generation_name").getD ("litellm-" ++ p.callType.name)
  let generationId := (← textKey metadata "generation_id").getD p.callId
  let traceId := (← textKey metadata "trace_id").getD p.callId
  let traceName := (← textKey metadata "trace_name").getD generationName
  let sessionId ← textKey metadata "session_id"
  let userId ← textKey metadata "trace_user_id"
  let tags ← tagsKey metadata
  let maskInput ← switchKey metadata "mask_input"
  let maskOutput ← switchKey metadata "mask_output"
  let input := if maskInput then .string placeholder else inputOf p
  let output := if maskOutput then .string placeholder else outputOf p
  let failed := p.event = .failure
  .ok {
    trace := {
      id := traceId, name := traceName, timestamp := p.startTime, userId, sessionId, tags,
      release, input, output }
    generation := {
      id := generationId, name := generationName, model := p.model, startTime := p.startTime,
      endTime := p.endTime, input, output, metadata,
      level := if failed then .error else .default,
      statusMessage := if failed then p.exception else none,
      usage := p.response.bind Usage.ofResponse? } }

end Record
end CallScribe
