import CallScribe.Json.Decode
import CallScribe.Json.Printer

/-!
# CallScribe.Call.Types

What a logged call consists of.

* `CallType`: the kind of the call.
* `CallEvent`: the stages that are reported.
* `Message`: one message of a conversation.
* `RequestArgs`: the request as it is about to be sent.

Each type comes with `toJson` and `decode`.
-/

namespace CallScribe

/-- The kind of a call. -/
inductive CallType
  | completion | acompletion | textCompletion | embedding | aembedding | imageGeneration
  | transcription | speech | moderation | rerank
deriving DecidableEq, Repr

namespace CallType

def name : CallType → String
  | .completion => "completion"
  | .acompletion => "acompletion"
  | .textCompletion => "text_completion"
  | .embedding => "embedding"
  | .aembedding => "aembedding"
  | .imageGeneration => "image_generation"
  | .transcription => "transcription"
  | .speech => "speech"
  | .moderation => "moderation"
  | .rerank => "rerank"

def all : List CallType :=
  [.completion, .acompletion, .textCompletion, .embedding, .aembedding, .imageGeneration,
    .transcription, .speech, .moderation, .rerank]

/-- Embeddings have vectors for output, not text. -/
def isEmbedding : CallType → Bool
  | .embedding | .aembedding => true
  | _ => false

def toJson (t : CallType) : Json := .string t.name

def decode : Json → Option CallType :=
  Decode.variant Json.isNull (all.map fun t => (t.name, t))

end CallType

/-- The stages of a call that are reported. -/
inductive CallEvent
  | preCall | success | failure
deriving DecidableEq, Repr

namespace CallEvent

def name : CallEvent → String
  | .preCall => "pre_call"
  | .success => "success"
  | .failure => "failure"

def all : List CallEvent := [.preCall, .success, .failure]

def toJson (e : CallEvent) : Json := .string e.name

def decode : Json → Option CallEvent :=
  Decode.variant Json.isNull (all.map fun e => (e.name, e))

end CallEvent

/-- One message; its content is a text or a list of parts. -/
structure Message where
  role : String
  content : Json

namespace Message

def toJson (m : Message) : Json := .object [("content", m.content), ("role", .string m.role)]

def decode (v : Json) : Option Message := do
  match ← Decode.record ["role", "content"] v with
  | [role, content] =>
    some ⟨← Decode.field none Decode.string role, ← Decode.field (some .null) Decode.value content⟩
  | _ => none

/-- The same role with other content. -/
def withText (m : Message) (text : String) : Message := { m with content := .string text }

end Message

/-- Messages as one value. -/
def messagesJson (ms : List Message) : Json := .array (ms.map Message.toJson)

/-- A request as it is about to be sent: its address, its headers and its body. -/
structure RequestArgs where
  apiBase : Option String := none
  headers : Fields Json := []
  body : Json := .null

namespace RequestArgs

def toJson (a : RequestArgs) : Json :=
  .object [("api_base", Json.ofString? a.apiBase), ("complete_input_dict", a.body),
    ("headers", .object a.headers)]

def decode (v : Json) : Option RequestArgs := do
  match ← Decode.record ["api_base", "headers", "complete_input_dict"] v with
  | [base, headers, body] =>
    some ⟨← Decode.field (some none) (Decode.optional Decode.string) base,
      ← Decode.field (some []) Decode.object headers,
      ← Decode.field (some .null) Decode.value body⟩
  | _ => none

end RequestArgs
end CallScribe
