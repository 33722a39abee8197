import CallScribe.Redaction.Policy

/-!
# CallScribe.Config.Basic

The settings of the logging pipeline.

* `LoggingConfig`: all settings, in tables.
* `AdapterKind`: the adapters that settings can name.

Every field has a default; a `FamilyEntry` alone has none.
-/

namespace CallScribe

/-- What is logged of each call. -/
structure PolicyConfig where
  suppressMessages : Bool := false
  captureRequests : Bool := false
deriving DecidableEq, Repr

/-- Families of secrets beside the built-in ones. -/
structure RedactionConfig where
  families : List FamilyEntry := []
deriving DecidableEq, Repr

/-- The adapters that settings can name. -/
inductive AdapterKind
  | langfuse | tracing
deriving DecidableEq, Repr

namespace AdapterKind

def name : AdapterKind → String
  | .langfuse => "langfuse"
  | .tracing => "tracing"

/-- The name as messages show it. -/
def title : AdapterKind → String
  | .langfuse => "Langfuse"
  | .tracing => "Tracing"

def all : List AdapterKind := [.langfuse, .tracing]

end AdapterKind

/-- The adapters in order, and how long each may take. -/
structure CallbacksConfig where
  adapters : List AdapterKind := [.tracing]
  timeoutMillis : Nat := 5000
deriving DecidableEq, Repr

/-- Where records go, and with which keys. -/
structure LangfuseConfig where
  host : String := "https://cloud.langfuse.com"
  publicKey : Option Secret := none
  secretKey : Option Secret := none
  release : Option String := none
  requestTimeoutSecs : Nat := 10
deriving DecidableEq

/-- The form of log lines. -/
inductive LogFormat
  | pretty | json
deriving DecidableEq, Repr

namespace LogFormat

def name : LogFormat → String
  | .pretty => "pretty"
  | .json => "json"

def all : List LogFormat := [.pretty, .json]

end LogFormat

/-- What the pipeline tells about itself. -/
structure ObservabilityConfig where
  logLevel : String := "info"
  logFormat : LogFormat := .pretty
  metricsEnabled : Bool := false
  metricsAddress : String := "127.0.0.1:9090"
deriving DecidableEq, Repr

/-- All settings. -/
structure LoggingConfig where
  policy : PolicyConfig := {}
  redaction : RedactionConfig := {}
  callbacks : CallbacksConfig := {}
  langfuse : LangfuseConfig := {}
  observability : ObservabilityConfig := {}
deriving DecidableEq

/-- The log filter of the settings: the level for the pipeline's own lines. -/
def ObservabilityConfig.directive (c : ObservabilityConfig) : String :=
  "callback_logging=" ++ c.logLevel

end CallScribe
