import CallScribe.Json.Parser
import CallScribe.Langfuse.Backend
import CallScribe.Langfuse.Credentials
import CallScribe.Text.Base64

/-!
# CallScribe.Langfuse.Ingestion

The backend that posts each trace and each generation to the ingestion endpoint.

* `HttpRequest`, `HttpReply`: what is sent, and what comes of it.
* `answerShape`, `listedFailures`: what is looked at in an answer, and the failures that it lists.
* `Ingestion`: an endpoint with its keys, and the names of the next two events.
* `Ingestion.request`: the request of a call.
* `Ingestion.verdict`: whether a reply means that the event was accepted.
* `Ingestion.backend`: the backend for given replies to the first and the second request.
-/

namespace CallScribe

/-- A request as the other side receives it. -/
structure HttpRequest where
  line : String
  authorization : String
  contentType : String
  body : Json

/-- What comes of a request: an answer, or none and the reason. -/
inductive HttpReply
  | answered (status : Nat) (body : String)
  | dropped (reason : String)
  | silent (reason : String)
  | unreachable (reason : String)
deriving DecidableEq, Repr

/-- Whether the request has come to the other side. -/
def HttpReply.received : HttpReply → Bool
  | .unreachable _ => false
  | _ => true

/-- An event that the endpoint has not taken. -/
structure IngestionFailure where
  id : String
  message : Option String
  error : Option Json

namespace IngestionFailure

/-- What is looked at in a failure. -/
def shape : JsonShape := .record [("id", .whole), ("message", .whole), ("error", .whole)]

def decode (v : Json) : Option IngestionFailure := do
  match ← Decode.record ["id", "message", "error"] v with
  | [id, message, error] =>
    some ⟨← Decode.field (some "") Decode.string id,
      ← Decode.field (some none) (Decode.optional Decode.string) message,
      ← Decode.field (some none) (Decode.optional Decode.value) error⟩
  | _ => none

/-- The text of the failure, or its error as a value. -/
def text (f : IngestionFailure) : String :=
  match f.message, f.error with
  | some m, _ => m
  | none, some e => e.compact
  | none, none => "unknown error"

end IngestionFailure

/-- What is looked at in an answer. -/
def answerShape : JsonShape := .record [("errors", .list IngestionFailure.shape)]

def decodeAnswer (v : Json) : Option (List IngestionFailure) := do
  match ← Decode.record ["errors"] v with
  | [errors] => Decode.field (some []) (Decode.list IngestionFailure.decode) errors
  | _ => none

/-- The failures that an answer lists. An answer of any other shape lists none. -/
def listedFailures (body : String) : List IngestionFailure :=
  ((Json.readAs? answerShape Json.depthLimit body).bind decodeAnswer).getD []

/-- An endpoint with its keys. The events of the next trace and generation have names, and a
time. -/
structure Ingestion where
  endpoint : Url
  publicKey : Secret
  secretKey : Secret
  traceEvent : String := ""
  generationEvent : String := ""
  time : String := ""

namespace Ingestion

/-- The endpoint of a host. -/
def connect (c : Credentials) : Except LangfuseError Ingestion :=
  match c.endpoint with
  | .ok u => .ok { endpoint := u, publicKey := c.publicKey, secretKey := c.secretKey }
  | .error e => .error e

/-- Public and secret key in the form of basic authorization. -/
def authorization (i : Ingestion) : String :=
  "Basic " ++ String.ofList
    (Base64.encode (i.publicKey.value ++ ":" ++ i.secretKey.value).toUTF8.toList)

/-- The body of a batch of one event. -/
def batch (id time kind : String) (body : Json) : Json :=
  .object [("batch", .array [.object [
    ("body", body), ("id", .string id), ("timestamp", .string time), ("type", .string kind)]])]

/-- The body of a generation with the id of its trace. -/
def generationBody (traceId : String) (p : GenerationParams) : Json :=
  match p.toJson with
  | .object fs => .object (Fields.insert "traceId" (.string traceId) fs)
  | v => v

/-- The request of a call. -/
def request (i : Ingestion) (c : BackendCall) : HttpRequest where
  line := "POST " ++ i.endpoint.pathText ++ " HTTP/1.1"
  authorization := i.authorization
  contentType := "application/json"
  body := match c with
    | .trace p => batch i.traceEvent i.time "trace-create" p.toJson
    | .generation t p => batch i.generationEvent i.time "generation-create" (generationBody t p)

/-- Whether a reply means that the event was accepted: a good status, and no listed failure. -/
def verdict (event : String) : HttpReply → Except LangfuseError Unit
  | .answered status body =>
    if 200 ≤ status && status < 300 then
      match listedFailures body with
      | [] => .ok ()
      | f :: _ => .error (.rejected (if f.id.isEmpty then event else f.id) f.text)
    else .error (.status status body)
  | .dropped reason | .silent reason | .unreachable reason => .error (.transport reason)

/-- The backend for given replies to the two requests. -/
def backend (i : Ingestion) (first second : HttpReply) : LangfuseBackend where
  trace := fun p =>
    match verdict i.traceEvent first with
    | .ok () => .ok p.id
    | .error e => .error e
  generation := fun _ p =>
    match verdict i.generationEvent second with
    | .ok () => .ok p.id
    | .error e => .error e

/-- The requests that have come to the other side. -/
def received (i : Ingestion) (first second : HttpReply) (calls : List BackendCall) :
    List HttpRequest :=
  (calls.zip [first, second]).filterMap fun (c, reply) =>
    if reply.received then some (i.request c) else none

end Ingestion
end CallScribe
