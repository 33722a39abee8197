import CallScribe.Config.Basic
import CallScribe.Dispatch.TracingLog
import CallScribe.Langfuse.Ingestion
import CallScribe.Langfuse.Recorder

/-!
# CallScribe.Dispatch.Configured

Adapters as the settings name them.

* `buildAdapter`: one adapter.
* `buildAdapters`: all of them in order; the first that cannot be built is the error.
-/

namespace CallScribe

variable [DomainNames]

/-- One adapter. `env` supplies credentials that the settings leave open, `reply` what comes of
each request. -/
def buildAdapter (config : LoggingConfig) (r : Redactor) (env : String → Option String)
    (reply : HttpReply) : AdapterKind → Except LangfuseError Adapter
  | .tracing => .ok (Adapter.tracing r)
  | .langfuse => do
    let credentials ← Credentials.resolve config.langfuse env
    let ingestion ← Ingestion.connect credentials
    .ok (Adapter.langfuse {
      backend := ingestion.backend reply reply, redactor := r,
      release := config.langfuse.release })

/-- The adapters of a list of kinds. -/
def buildKinds (config : LoggingConfig) (r : Redactor) (env : String → Option String)
    (reply : HttpReply) : List AdapterKind → Except LangfuseError (List Adapter)
  | [] => .ok []
  | k :: rest => do
    let a ← buildAdapter config r env reply k
    let others ← buildKinds config r env reply rest
    .ok (a :: others)

/-- The adapters of the settings. -/
def buildAdapters (config : LoggingConfig) (r : Redactor) (env : String → Option String)
    (reply : HttpReply) : Except LangfuseError (List Adapter) :=
  buildKinds config r env reply config.callbacks.adapters

end CallScribe
