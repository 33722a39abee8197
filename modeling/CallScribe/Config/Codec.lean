import CallScribe.Config.Basic
import CallScribe.Json.Decode

/-!
# CallScribe.Config.Codec

Settings as values.

* `SettingsFormat`: the formats that settings are read from.
* `LoggingConfig.toJson` and the like: settings as a value; keys are never shown.
* `LoggingConfig.decode` and the like: settings from a value. Each table is an object by name or an
  array by position, and what is not there takes its default.
-/

namespace CallScribe

/-- The formats that settings are read from. -/
inductive SettingsFormat
  | json | toml
deriving DecidableEq, Repr

/-- What stands for nothing beside a name: null, or in TOML, which has no null, an empty table or
array. -/
def SettingsFormat.isUnit (f : SettingsFormat) (v : Json) : Bool :=
  match f, v with
  | .json, .null => true
  | .toml, .object [] => true
  | .toml, .array [] => true
  | _, _ => false

/-- Reads a field, or takes its default. -/
def settingOr {α : Type} (default : α) (read : Json → Option α) (v : Option Json) : Option α :=
  Decode.field (some default) read v

namespace PolicyConfig

def toJson (c : PolicyConfig) : Json :=
  .object [
    ("log_raw_request_response", .bool c.captureRequests),
    ("turn_off_message_logging", .bool c.suppressMessages)]

def keys : List String := ["turn_off_message_logging", "log_raw_request_response"]

def decode (v : Json) : Option PolicyConfig := do
  match ← Decode.record keys v with
  | [suppress, capture] =>
    some ⟨← settingOr false Decode.bool suppress, ← settingOr false Decode.bool capture⟩
  | _ => none

end PolicyConfig

namespace FamilyEntry

def toJson (e : FamilyEntry) : Json :=
  .object [("name", .string e.name), ("pattern", .string e.pattern)]

def decode (v : Json) : Option FamilyEntry := do
  match ← Decode.record ["name", "pattern"] v with
  | [name, pattern] =>
    some ⟨← Decode.field none Decode.string name, ← Decode.field none Decode.string pattern⟩
  | _ => none

end FamilyEntry

namespace RedactionConfig

def toJson (c : RedactionConfig) : Json :=
  .object [("extra_patterns", .array (c.families.map FamilyEntry.toJson))]

def decode (v : Json) : Option RedactionConfig := do
  match ← Decode.record ["extra_patterns"] v with
  | [families] => some ⟨← settingOr [] (Decode.list FamilyEntry.decode) families⟩
  | _ => none

end RedactionConfig

namespace CallbacksConfig

def toJson (c : CallbacksConfig) : Json :=
  .object [
    ("adapters", .array (c.adapters.map fun k => .string k.name)),
    ("timeout_ms", .int c.timeoutMillis)]

def decode (f : SettingsFormat) (v : Json) : Option CallbacksConfig := do
  match ← Decode.record ["adapters", "timeout_ms"] v with
  | [adapters, timeout] =>
    let kind := Decode.variant f.isUnit (AdapterKind.all.map fun k => (k.name, k))
    some ⟨← settingOr [.tracing] (Decode.list kind) adapters,
      ← settingOr 5000 Decode.natural timeout⟩
  | _ => none

end CallbacksConfig

namespace LangfuseConfig

/-- A key as it is shown, or null. -/
def keyJson : Option Secret → Json
  | some k => k.toJson
  | none => .null

def toJson (c : LangfuseConfig) : Json :=
  .object [
    ("host", .string c.host),
    ("public_key", keyJson c.publicKey),
    ("release", Json.ofString? c.release),
    ("request_timeout_secs", .int c.requestTimeoutSecs),
    ("secret_key", keyJson c.secretKey)]

def decodeKey (v : Json) : Option Secret := (Decode.string v).map Secret.mk

def keys : List String := ["host", "public_key", "secret_key", "release", "request_timeout_secs"]

def decode (v : Json) : Option LangfuseConfig := do
  match ← Decode.record keys v with
  | [host, publicKey, secretKey, release, timeout] =>
    let default : LangfuseConfig := {}
    some ⟨← settingOr default.host Decode.string host,
      ← settingOr none (Decode.optional decodeKey) publicKey,
      ← settingOr none (Decode.optional decodeKey) secretKey,
      ← settingOr none (Decode.optional Decode.string) release,
      ← settingOr default.requestTimeoutSecs Decode.natural timeout⟩
  | _ => none

end LangfuseConfig

namespace ObservabilityConfig

def toJson (c : ObservabilityConfig) : Json :=
  .object [
    ("log_format", .string c.logFormat.name),
    ("log_level", .string c.logLevel),
    ("metrics_address", .string c.metricsAddress),
    ("metrics_enabled", .bool c.metricsEnabled)]

def decode (f : SettingsFormat) (v : Json) : Option ObservabilityConfig := do
  match ← Decode.record ["log_level", "log_format", "metrics_enabled", "metrics_address"] v with
  | [level, format, enabled, address] =>
    let default : ObservabilityConfig := {}
    let form := Decode.variant f.isUnit (LogFormat.all.map fun x => (x.name, x))
    some ⟨← settingOr default.logLevel Decode.string level,
      ← settingOr default.logFormat form format,
      ← settingOr default.metricsEnabled Decode.bool enabled,
      ← settingOr default.metricsAddress Decode.string address⟩
  | _ => none

end ObservabilityConfig

namespace LoggingConfig

def toJson (c : LoggingConfig) : Json :=
  .object [
    ("callbacks", c.callbacks.toJson),
    ("langfuse", c.langfuse.toJson),
    ("observability", c.observability.toJson),
    ("policy", c.policy.toJson),
    ("redaction", c.redaction.toJson)]

def keys : List String := ["policy", "redaction", "callbacks", "langfuse", "observability"]

def decode (f : SettingsFormat) (v : Json) : Option LoggingConfig := do
  match ← Decode.record keys v with
  | [policy, redaction, callbacks, langfuse, observability] =>
    some ⟨← settingOr {} PolicyConfig.decode policy,
      ← settingOr {} RedactionConfig.decode redaction,
      ← settingOr {} (CallbacksConfig.decode f) callbacks,
      ← settingOr {} LangfuseConfig.decode langfuse,
      ← settingOr {} (ObservabilityConfig.decode f) observability⟩
  | _ => none

end LoggingConfig
end CallScribe
