import CallScribe.Config.Basic
import CallScribe.Text.Blank
import CallScribe.Text.Quoted
import CallScribe.Url.Parser

/-!
# CallScribe.Config.Validation

The rules that settings have to keep.

* `SettingError`: a rule that is broken, with the field that breaks it.
* `LoggingConfig.errors`: all broken rules, in a fixed order.
-/

namespace CallScribe

/-- A field and what is wrong with it. -/
structure SettingError where
  field : String
  message : String
deriving DecidableEq, Repr

def SettingError.text (e : SettingError) : String := e.field ++ ": " ++ e.message

/-- Log levels, from the most talkative. -/
def logLevels : List String := ["trace", "debug", "info", "warn", "error"]

/-- One error if a rule is broken. -/
def errorIf (broken : Bool) (field message : String) : List SettingError :=
  if broken then [⟨field, message⟩] else []

/-- An error for each adapter that is named again. -/
def repeatedAdapters : List AdapterKind → List AdapterKind → List SettingError
  | _, [] => []
  | seen, k :: rest =>
    errorIf (seen.contains k) "callbacks.adapters" (k.title ++ " is registered more than once") ++
      repeatedAdapters (k :: seen) rest

/-- The errors of a family: a blank name, and then a pattern that cannot be
compiled. -/
def familyErrors [PatternCompiler] (index : Nat) (e : FamilyEntry) : List SettingError :=
  let field := "redaction.extra_patterns[" ++ toString index ++ "]"
  errorIf (blankText e.name) field "name must not be empty" ++
    match Family.ofEntry e with
    | .ok _ => []
    | .error err => [⟨field, err.message⟩]

def allFamilyErrors [PatternCompiler] : Nat → List FamilyEntry → List SettingError
  | _, [] => []
  | i, e :: rest => familyErrors i e ++ allFamilyErrors (i + 1) rest

def hostErrors [DomainNames] (c : LangfuseConfig) : List SettingError :=
  match Url.parse c.host with
  | .ok _ => []
  | .error e => [⟨"langfuse.host", "invalid URL " ++ quoted c.host ++ ": " ++ e.message⟩]

namespace LoggingConfig

variable [PatternCompiler] [DomainNames]

/-- All broken rules. The settings of Langfuse count only if it is among the adapters, the address
of the metrics only if they are enabled. -/
def errors (c : LoggingConfig) : List SettingError :=
  errorIf (c.callbacks.timeoutMillis = 0) "callbacks.timeout_ms" "must be greater than zero" ++
  repeatedAdapters [] c.callbacks.adapters ++
  allFamilyErrors 0 c.redaction.families ++
  (if c.callbacks.adapters.contains .langfuse then
    hostErrors c.langfuse ++
    errorIf (c.langfuse.requestTimeoutSecs = 0) "langfuse.request_timeout_secs"
      "must be greater than zero"
  else []) ++
  errorIf (!logLevels.contains c.observability.logLevel.toLower) "observability.log_level"
    ("unknown level " ++ quoted c.observability.logLevel ++ ", expected one of " ++
      String.intercalate ", " logLevels) ++
  errorIf (c.observability.metricsEnabled &&
      (SocketAddress.parse? c.observability.metricsAddress).isNone)
    "observability.metrics_address"
    ("invalid socket address " ++ quoted c.observability.metricsAddress)

/-- The settings, or all rules that they break. -/
def validate (c : LoggingConfig) : Except (List SettingError) LoggingConfig :=
  match c.errors with
  | [] => .ok c
  | es => .error es

end LoggingConfig
end CallScribe
