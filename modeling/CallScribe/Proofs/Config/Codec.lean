import CallScribe.Config.Codec
import CallScribe.Proofs.Json.Decode
import CallScribe.Proofs.Json.RoundTrip

/-!
# CallScribe.Proofs.Config.Codec

Settings that are written and read again.

* `decode_toJson`, for each table: what was written is read, keys excepted.
* `decode_spelled`, for each table: fields by name and by position mean the same, and those that
  are left out count as in the default table.
* `LoggingConfig.masked`: settings with their keys as they are written.
* `LoggingConfig.Sized`: the numbers fit 64 bits. Settings that were read are of this kind.
* `LoggingConfig.rewritten_masked`: writing and reading settings masks their keys and does nothing
  else.
-/

namespace CallScribe

open Decode

section Fields

variable {α : Type} {default : α} {read : Json → Option α}

theorem settingOr_getD {d : Json} (hd : read d = some default) (v : Option Json) :
    settingOr default read (some (v.getD d)) = settingOr default read v := by
  cases v with
  | none => exact hd
  | some w => rfl

theorem settingOr_forall {P : α → Prop} (hdefault : P default)
    (hread : ∀ w x, read w = some x → P x) {v : Option Json} {x : α}
    (h : settingOr default read v = some x) : P x := by
  cases v with
  | none => exact Option.some.inj h ▸ hdefault
  | some w => exact hread w x h

theorem settingOr_int {n : Nat} (hn : n < pow2 64) (default : Nat) :
    settingOr default natural (some (.int n)) = some n := by
  rw [settingOr, field, natural_int hn]

end Fields

namespace PolicyConfig

theorem decode_toJson (c : PolicyConfig) : decode c.toJson = some c := rfl

theorem decode_spelled : Spelled keys ({} : PolicyConfig).toJson decode := by
  refine .of_record (by decide) (fun v w h => by rw [decode, decode, h]) rfl ?_
  intro v w fields hv hw hlen
  match fields, hlen with
  | [suppress, capture], _ =>
    have hw : record keys w =
      some [some (suppress.getD (.bool false)), some (capture.getD (.bool false))] := hw
    have hfalse : Decode.bool (.bool false) = some false := rfl
    rw [decode, decode, hv, hw]
    simp only [Option.bind_eq_bind, Option.bind_some, settingOr_getD hfalse]

end PolicyConfig

namespace FamilyEntry

theorem decode_toJson (e : FamilyEntry) : decode e.toJson = some e := rfl

theorem decode_alike : Alike ["name", "pattern"] decode :=
  alike_of_record (by decide) fun v w h => by rw [decode, decode, h]

end FamilyEntry

namespace RedactionConfig

theorem decode_toJson (c : RedactionConfig) : decode c.toJson = some c := by
  have hrecord : record ["extra_patterns"] c.toJson =
      some [some (.array (c.families.map FamilyEntry.toJson))] := rfl
  rw [decode, hrecord]
  simp only [Option.bind_eq_bind, Option.bind_some, settingOr, field, list,
    all_map FamilyEntry.decode_toJson]

theorem decode_spelled : Spelled ["extra_patterns"] ({} : RedactionConfig).toJson decode := by
  refine .of_record (by decide) (fun v w h => by rw [decode, decode, h]) rfl ?_
  intro v w fields hv hw hlen
  match fields, hlen with
  | [families], _ =>
    have hw : record ["extra_patterns"] w = some [some (families.getD (.array []))] := hw
    have hnone : list FamilyEntry.decode (.array []) = some [] := rfl
    rw [decode, decode, hv, hw]
    simp only [Option.bind_eq_bind, Option.bind_some, settingOr_getD hnone]

end RedactionConfig

namespace CallbacksConfig

theorem decode_kind (f : SettingsFormat) (k : AdapterKind) :
    variant f.isUnit (AdapterKind.all.map fun k => (k.name, k)) (.string k.name) = some k := by
  cases k <;> rfl

theorem decode_toJson (f : SettingsFormat) {c : CallbacksConfig} (hc : c.timeoutMillis < pow2 64) :
    decode f c.toJson = some c := by
  have hrecord : record ["adapters", "timeout_ms"] c.toJson =
      some [some (.array (c.adapters.map fun k => .string k.name)), some (.int c.timeoutMillis)] :=
    rfl
  rw [decode, hrecord]
  simp only [Option.bind_eq_bind, Option.bind_some, settingOr_int hc]
  simp only [settingOr, field, list, all_map (decode_kind f), Option.bind_some]

theorem decode_spelled (f : SettingsFormat) :
    Spelled ["adapters", "timeout_ms"] ({} : CallbacksConfig).toJson (decode f) := by
  refine .of_record (by decide) (fun v w h => by rw [decode, decode, h]) rfl ?_
  intro v w fields hv hw hlen
  match fields, hlen with
  | [adapters, timeout], _ =>
    have hw : record ["adapters", "timeout_ms"] w =
      some [some (adapters.getD (.array [.string "tracing"])),
        some (timeout.getD (.int 5000))] := hw
    have hadapters : list (variant f.isUnit (AdapterKind.all.map fun k => (k.name, k)))
        (.array [.string "tracing"]) = some [.tracing] := rfl
    have htimeout : natural (.int 5000) = some 5000 := rfl
    rw [decode, decode, hv, hw]
    simp only [Option.bind_eq_bind, Option.bind_some, settingOr_getD hadapters,
      settingOr_getD htimeout]

theorem timeout_of_decode {f : SettingsFormat} {v : Json} {c : CallbacksConfig}
    (h : decode f v = some c) : c.timeoutMillis < pow2 64 := by
  obtain ⟨fields, -, h⟩ := Option.bind_eq_some_iff.mp h
  split at h
  · simp only [Option.bind_eq_bind, Option.bind_eq_some_iff, Option.some.injEq] at h
    obtain ⟨adapters, -, timeout, htimeout, rfl⟩ := h
    exact settingOr_forall (P := (· < pow2 64)) (by decide) (fun _ _ => lt_of_natural) htimeout
  · cases h

end CallbacksConfig

namespace LangfuseConfig

/-- The settings with each key as it is written. -/
def masked (c : LangfuseConfig) : LangfuseConfig :=
  { c with
    publicKey := c.publicKey.map fun _ => ⟨"[REDACTED]"⟩
    secretKey := c.secretKey.map fun _ => ⟨"[REDACTED]"⟩ }

theorem decode_keyJson (k : Option Secret) :
    optional decodeKey (keyJson k) = some (k.map fun _ => ⟨"[REDACTED]"⟩) := by
  cases k <;> rfl

theorem decode_toJson {c : LangfuseConfig} (hc : c.requestTimeoutSecs < pow2 64) :
    decode c.toJson = some c.masked := by
  have hrecord : record keys c.toJson =
      some [some (.string c.host), some (keyJson c.publicKey), some (keyJson c.secretKey),
        some (Json.ofString? c.release), some (.int c.requestTimeoutSecs)] := rfl
  rw [decode, hrecord]
  simp only [Option.bind_eq_bind, Option.bind_some, settingOr_int hc]
  simp only [settingOr, field, string, Json.asString?, decode_keyJson, optional_ofString?,
    Option.bind_some, masked]

theorem toJson_masked (c : LangfuseConfig) : c.masked.toJson = c.toJson := by
  obtain ⟨host, publicKey, secretKey, release, timeout⟩ := c
  cases publicKey <;> cases secretKey <;> rfl

theorem decode_spelled : Spelled keys ({} : LangfuseConfig).toJson decode := by
  refine .of_record (by decide) (fun v w h => by rw [decode, decode, h]) rfl ?_
  intro v w fields hv hw hlen
  match fields, hlen with
  | [host, publicKey, secretKey, release, timeout], _ =>
    have hw : record keys w =
      some [some (host.getD (.string "https://cloud.langfuse.com")), some (publicKey.getD .null),
        some (secretKey.getD .null), some (release.getD .null),
        some (timeout.getD (.int 10))] := hw
    have hhost : string (.string "https://cloud.langfuse.com") =
      some "https://cloud.langfuse.com" := rfl
    have hkey : optional decodeKey .null = some none := rfl
    have hrelease : optional string .null = some none := rfl
    have htimeout : natural (.int 10) = some 10 := rfl
    rw [decode, decode, hv, hw]
    simp only [Option.bind_eq_bind, Option.bind_some, settingOr_getD hhost, settingOr_getD hkey,
      settingOr_getD hrelease, settingOr_getD htimeout]

theorem timeout_of_decode {v : Json} {c : LangfuseConfig} (h : decode v = some c) :
    c.requestTimeoutSecs < pow2 64 := by
  obtain ⟨fields, -, h⟩ := Option.bind_eq_some_iff.mp h
  split at h
  · simp only [Option.bind_eq_bind, Option.bind_eq_some_iff, Option.some.injEq] at h
    obtain ⟨host, -, publicKey, -, secretKey, -, release, -, timeout, htimeout, rfl⟩ := h
    exact settingOr_forall (P := (· < pow2 64)) (by decide) (fun _ _ => lt_of_natural) htimeout
  · cases h

end LangfuseConfig

namespace ObservabilityConfig

theorem decode_format (f : SettingsFormat) (x : LogFormat) :
    variant f.isUnit (LogFormat.all.map fun x => (x.name, x)) (.string x.name) = some x := by
  cases x <;> rfl

theorem decode_toJson (f : SettingsFormat) (c : ObservabilityConfig) :
    decode f c.toJson = some c := by
  have hrecord :
      record ["log_level", "log_format", "metrics_enabled", "metrics_address"] c.toJson =
        some [some (.string c.logLevel), some (.string c.logFormat.name),
          some (.bool c.metricsEnabled), some (.string c.metricsAddress)] := rfl
  rw [decode, hrecord]
  simp only [Option.bind_eq_bind, Option.bind_some, settingOr, field, string, Json.asString?,
    Decode.bool, decode_format]

theorem decode_spelled (f : SettingsFormat) :
    Spelled ["log_level", "log_format", "metrics_enabled", "metrics_address"]
      ({} : ObservabilityConfig).toJson (decode f) := by
  refine .of_record (by decide) (fun v w h => by rw [decode, decode, h]) rfl ?_
  intro v w fields hv hw hlen
  match fields, hlen with
  | [level, format, enabled, address], _ =>
    have hw : record ["log_level", "log_format", "metrics_enabled", "metrics_address"] w =
      some [some (level.getD (.string "info")), some (format.getD (.string "pretty")),
        some (enabled.getD (.bool false)), some (address.getD (.string "127.0.0.1:9090"))] := hw
    have hlevel : string (.string "info") = some "info" := rfl
    have hformat : variant f.isUnit (LogFormat.all.map fun x => (x.name, x))
        (.string "pretty") = some .pretty := rfl
    have henabled : Decode.bool (.bool false) = some false := rfl
    have haddress : string (.string "127.0.0.1:9090") = some "127.0.0.1:9090" := rfl
    rw [decode, decode, hv, hw]
    simp only [Option.bind_eq_bind, Option.bind_some, settingOr_getD hlevel,
      settingOr_getD hformat, settingOr_getD henabled, settingOr_getD haddress]

end ObservabilityConfig

namespace LoggingConfig

/-- The settings with each key as it is written. -/
def masked (c : LoggingConfig) : LoggingConfig := { c with langfuse := c.langfuse.masked }

/-- The numbers of the settings fit 64 bits. -/
structure Sized (c : LoggingConfig) : Prop where
  timeout : c.callbacks.timeoutMillis < pow2 64
  requestTimeout : c.langfuse.requestTimeoutSecs < pow2 64

theorem toJson_masked (c : LoggingConfig) : c.masked.toJson = c.toJson := by
  simp only [toJson, masked, LangfuseConfig.toJson_masked]

theorem decode_toJson (f : SettingsFormat) {c : LoggingConfig} (hc : c.Sized) :
    decode f c.toJson = some c.masked := by
  have hrecord : record keys c.toJson =
      some [some c.policy.toJson, some c.redaction.toJson, some c.callbacks.toJson,
        some c.langfuse.toJson, some c.observability.toJson] := rfl
  rw [decode, hrecord]
  simp only [Option.bind_eq_bind, Option.bind_some, settingOr, field,
    PolicyConfig.decode_toJson, RedactionConfig.decode_toJson,
    CallbacksConfig.decode_toJson f hc.timeout, LangfuseConfig.decode_toJson hc.requestTimeout,
    ObservabilityConfig.decode_toJson, masked]

theorem decode_spelled (f : SettingsFormat) :
    Spelled keys ({} : LoggingConfig).toJson (decode f) := by
  refine .of_record (by decide) (fun v w h => by rw [decode, decode, h]) rfl ?_
  intro v w fields hv hw hlen
  match fields, hlen with
  | [policy, redaction, callbacks, langfuse, observability], _ =>
    have hw : record keys w =
      some [some (policy.getD ({} : PolicyConfig).toJson),
        some (redaction.getD ({} : RedactionConfig).toJson),
        some (callbacks.getD ({} : CallbacksConfig).toJson),
        some (langfuse.getD ({} : LangfuseConfig).toJson),
        some (observability.getD ({} : ObservabilityConfig).toJson)] := hw
    have hcallbacks : CallbacksConfig.decode f ({} : CallbacksConfig).toJson = some {} :=
      CallbacksConfig.decode_toJson f (by decide)
    have hlangfuse : LangfuseConfig.decode ({} : LangfuseConfig).toJson = some {} :=
      LangfuseConfig.decode_toJson (by decide)
    rw [decode, decode, hv, hw]
    simp only [Option.bind_eq_bind, Option.bind_some,
      settingOr_getD (PolicyConfig.decode_toJson {}),
      settingOr_getD (RedactionConfig.decode_toJson {}), settingOr_getD hcallbacks,
      settingOr_getD hlangfuse, settingOr_getD (ObservabilityConfig.decode_toJson f {})]

theorem sized_of_decode {f : SettingsFormat} {v : Json} {c : LoggingConfig}
    (h : decode f v = some c) : c.Sized := by
  obtain ⟨fields, -, h⟩ := Option.bind_eq_some_iff.mp h
  split at h
  · simp only [Option.bind_eq_bind, Option.bind_eq_some_iff, Option.some.injEq] at h
    obtain ⟨policy, -, redaction, -, callbacks, hcallbacks, langfuse, hlangfuse, observability, -,
      rfl⟩ := h
    exact {
      timeout := settingOr_forall (P := fun c => c.timeoutMillis < pow2 64) (by decide)
        (fun _ _ => CallbacksConfig.timeout_of_decode) hcallbacks
      requestTimeout := settingOr_forall (P := fun c => c.requestTimeoutSecs < pow2 64)
        (by decide) (fun _ _ => LangfuseConfig.timeout_of_decode) hlangfuse }
  · cases h

open Json (Readable)

theorem toJson_readable {c : LoggingConfig} (hc : c.Sized) : Readable 4 c.toJson := by
  have htext (s : Option String) : Readable 2 (Json.ofString? s) := by
    cases s with
    | none => exact .null
    | some s => exact .string s
  have hkey (k : Option Secret) : Readable 2 (LangfuseConfig.keyJson k) := by
    cases k with
    | none => exact .null
    | some k => exact .string _
  have hfamily (e : FamilyEntry) : Readable 1 e.toJson :=
    .object (by simp [Readable.string])
  have hpolicy : Readable 3 c.policy.toJson := .object (by simp [Readable.bool])
  have hredaction : Readable 3 c.redaction.toJson :=
    .object (by simpa using Readable.array (by simpa using fun e _ => hfamily e))
  have hcallbacks : Readable 3 c.callbacks.toJson :=
    .object (by simpa [Readable.int (Json.exactInt_ofNat hc.timeout)] using
      Readable.array (by simp [Readable.string]))
  have hlangfuse : Readable 3 c.langfuse.toJson :=
    .object (by simp [Readable.string, htext, hkey,
      Readable.int (Json.exactInt_ofNat hc.requestTimeout)])
  have hobservability : Readable 3 c.observability.toJson :=
    .object (by simp [Readable.string, Readable.bool])
  exact .object (by simp [hpolicy, hredaction, hcallbacks, hlangfuse, hobservability])

/-- Settings that are written and read again, as a value or as a text, have their keys masked and
nothing else changed. Each table means the same by name and by position, and what it leaves out
counts as in the default table; a family has no defaults. -/
theorem rewritten_masked {c : LoggingConfig} (hc : c.Sized) :
    decode .json c.toJson = some c.masked ∧
      (Json.read? c.toJson.compact).bind (decode .json) = some c.masked ∧
      (decode .json c.toJson).map toJson = some c.toJson ∧
      (∀ f v d, decode f v = some d → d.Sized) ∧
      ∀ f, Spelled keys ({} : LoggingConfig).toJson (decode f) ∧
        Spelled PolicyConfig.keys ({} : PolicyConfig).toJson PolicyConfig.decode ∧
        Spelled ["extra_patterns"] ({} : RedactionConfig).toJson RedactionConfig.decode ∧
        Alike ["name", "pattern"] FamilyEntry.decode ∧
        Spelled ["adapters", "timeout_ms"] ({} : CallbacksConfig).toJson
          (CallbacksConfig.decode f) ∧
        Spelled LangfuseConfig.keys ({} : LangfuseConfig).toJson LangfuseConfig.decode ∧
        Spelled ["log_level", "log_format", "metrics_enabled", "metrics_address"]
          ({} : ObservabilityConfig).toJson (ObservabilityConfig.decode f) := by
  have hvalue := decode_toJson .json hc
  have htext : Json.read? c.toJson.compact = some c.toJson :=
    Json.read?_compact (toJson_readable hc) (by decide)
  refine ⟨hvalue, ?_, ?_, fun f v d => sized_of_decode, fun f => ?_⟩
  · rw [htext, Option.bind_some, hvalue]
  · rw [hvalue, Option.map_some, toJson_masked]
  · exact ⟨decode_spelled f, PolicyConfig.decode_spelled, RedactionConfig.decode_spelled,
      FamilyEntry.decode_alike, CallbacksConfig.decode_spelled f, LangfuseConfig.decode_spelled,
      ObservabilityConfig.decode_spelled f⟩

/-- Settings with one key, the greatest number, and a text that has to be escaped. -/
def keyedConfig : LoggingConfig where
  redaction := ⟨[⟨"a\"b\n", "\\d+"⟩]⟩
  callbacks := ⟨[.langfuse, .langfuse], 18446744073709551615⟩
  langfuse := { publicKey := some ⟨"pk-lf-1"⟩, release := some "" }

theorem keyedConfig_masked :
    keyedConfig.Sized ∧
      (Json.read? keyedConfig.toJson.compact).bind (decode .json) =
        some { keyedConfig with
          langfuse := { keyedConfig.langfuse with publicKey := some ⟨"[REDACTED]"⟩ } } :=
  have hsized : keyedConfig.Sized := ⟨by decide, by decide⟩
  ⟨hsized, (rewritten_masked hsized).2.1⟩

end LoggingConfig
end CallScribe
