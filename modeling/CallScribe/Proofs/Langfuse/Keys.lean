import CallScribe.Config.Codec
import CallScribe.Config.Validation
import CallScribe.Dispatch.Configured
import CallScribe.Langfuse.Exchange
import CallScribe.Pattern.Compiler
import CallScribe.Proofs.Except
import CallScribe.Url.Domain

/-!
# CallScribe.Proofs.Langfuse.Keys

The keys for the backend are seen in the authorization of its requests, and nowhere else.

* `LoggingConfig.SameButKeys`: settings that may differ in the values of their keys.
* `Credentials.resolve_alike`: both resolve, to the same host, or both fail in the same way.
* `Exchange.unsigned`: an exchange without the authorization of its requests.
* `Ingestion.exchange_unsigned`: it depends on the endpoint alone.
* `LoggingConfig.keys_unseen`: nothing else tells two such settings apart.
-/

namespace CallScribe

/-- Two keys of which nobody can say more than whether they are there. -/
inductive KeysAlike : Option Secret → Option Secret → Prop
  | same (k : Option Secret) : KeysAlike k k
  | differ {k k' : Secret} (h : k.isEmpty = false) (h' : k'.isEmpty = false) :
    KeysAlike (some k) (some k')

def LoggingConfig.withKeys (c : LoggingConfig) (publicKey secretKey : Option Secret) :
    LoggingConfig :=
  { c with langfuse := { c.langfuse with publicKey, secretKey } }

structure LoggingConfig.SameButKeys (c c' : LoggingConfig) : Prop where
  publicKey : KeysAlike c.langfuse.publicKey c'.langfuse.publicKey
  secretKey : KeysAlike c.langfuse.secretKey c'.langfuse.secretKey
  rest : c' = c.withKeys c'.langfuse.publicKey c'.langfuse.secretKey

theorem KeysAlike.keyJson {k k' : Option Secret} (h : KeysAlike k k') :
    LangfuseConfig.keyJson k' = LangfuseConfig.keyJson k := by
  cases h with
  | same => rfl
  | differ => rfl

namespace Credentials

variable {k k' : Option Secret} {c c' : LangfuseConfig}

theorem resolveKey_configured {k : Secret} (h : k.isEmpty = false) (env : String → Option String)
    (name : String) : resolveKey env (some k) name = .ok k := by
  simp [resolveKey, Option.filter, h]

theorem resolveKey_alike (h : KeysAlike k k') (env : String → Option String) (name : String) :
    EndAlike (fun _ _ => True) (resolveKey env k name) (resolveKey env k' name) := by
  cases h with
  | same => exact .refl (fun _ => trivial) _
  | differ h h' =>
    rw [resolveKey_configured h, resolveKey_configured h']
    exact .ok trivial

theorem resolve_alike [DomainNames] (hpublic : KeysAlike c.publicKey c'.publicKey)
    (hsecret : KeysAlike c.secretKey c'.secretKey) (hhost : c'.host = c.host)
    (env : String → Option String) :
    EndAlike (fun a a' => a'.host = a.host) (resolve c env) (resolve c' env) := by
  have htext : hostText c' env = hostText c env := by rw [hostText, hostText, hhost]
  unfold resolve
  refine (resolveKey_alike hpublic env publicKeyVariable).bind fun a a' _ => ?_
  refine (resolveKey_alike hsecret env secretKeyVariable).bind fun b b' _ => ?_
  dsimp only
  rw [htext]
  cases Url.parse (hostText c env) with
  | ok u => exact .ok rfl
  | error e => exact .error _

end Credentials

/-- The request without its authorization. -/
def HttpRequest.unsigned (r : HttpRequest) : HttpRequest := { r with authorization := "" }

/-- The exchange without the authorization of its requests. -/
def Exchange.unsigned (x : Exchange) : Exchange :=
  { x with requests := x.requests.map HttpRequest.unsigned }

namespace Ingestion

variable {i i' : Ingestion}

/-- The endpoint, with names for the next two events and a time. -/
def naming (i : Ingestion) (traceEvent generationEvent time : String) : Ingestion :=
  { i with traceEvent, generationEvent, time }

/-- Two endpoints that differ in their keys at most. -/
structure SameButKeys (i i' : Ingestion) : Prop where
  endpoint : i'.endpoint = i.endpoint
  traceEvent : i'.traceEvent = i.traceEvent
  generationEvent : i'.generationEvent = i.generationEvent
  time : i'.time = i.time

theorem SameButKeys.naming (h : i.SameButKeys i') (traceEvent generationEvent time : String) :
    (i.naming traceEvent generationEvent time).SameButKeys
      (i'.naming traceEvent generationEvent time) := ⟨h.endpoint, rfl, rfl, rfl⟩

theorem backend_congr (h : i.SameButKeys i') (first second : HttpReply) :
    i'.backend first second = i.backend first second := by
  rw [backend, backend, h.traceEvent, h.generationEvent]

theorem request_unsigned (h : i.SameButKeys i') (c : BackendCall) :
    (i'.request c).unsigned = (i.request c).unsigned := by
  obtain ⟨endpoint, publicKey, secretKey, traceEvent, generationEvent, time⟩ := i
  obtain ⟨endpoint', publicKey', secretKey', traceEvent', generationEvent', time'⟩ := i'
  obtain ⟨rfl, rfl, rfl, rfl⟩ := h
  cases c <;> rfl

theorem received_unsigned (h : i.SameButKeys i') (first second : HttpReply)
    (calls : List BackendCall) :
    (i'.received first second calls).map HttpRequest.unsigned =
      (i.received first second calls).map HttpRequest.unsigned := by
  unfold received
  rw [List.map_filterMap, List.map_filterMap]
  congr 1
  funext x
  obtain ⟨c, reply⟩ := x
  cases hreply : reply.received with
  | false => simp [hreply]
  | true => simp [hreply, request_unsigned h c]

theorem ingestedLine_congr (h : i.SameButKeys i') (c : BackendCall) :
    i'.ingestedLine c = i.ingestedLine c := by
  cases c with
  | trace p => simp only [ingestedLine, h.traceEvent]
  | generation t p => simp only [ingestedLine, h.generationEvent]

/-- Ids, log lines, and all of the requests but their authorization depend on the endpoint. -/
theorem exchange_unsigned (h : i.SameButKeys i') (first second : HttpReply) (redactor : Redactor)
    (release : Option String) (p : Payload) (metadata : Fields Json) :
    (i'.exchange first second redactor release p metadata).unsigned =
      (i.exchange first second redactor release p metadata).unsigned := by
  have hlines : i'.ingestedLine = i.ingestedLine := funext (ingestedLine_congr h)
  simp only [exchange, Exchange.unsigned, backend_congr h, received_unsigned h, hlines]

theorem connect_alike {a a' : Credentials} (h : a'.host = a.host) :
    EndAlike SameButKeys (connect a) (connect a') := by
  have hendpoint : a'.endpoint = a.endpoint := by rw [Credentials.endpoint, Credentials.endpoint, h]
  unfold connect
  rw [hendpoint]
  cases a.endpoint with
  | ok u => exact .ok ⟨rfl, rfl, rfl, rfl⟩
  | error e => exact .error e

end Ingestion

theorem buildAdapter_langfuse [DomainNames] (c : LoggingConfig) (r : Redactor)
    (env : String → Option String) (reply : HttpReply) : buildAdapter c r env reply .langfuse =
      (Ingestion.ofConfig c.langfuse env).map fun i => Adapter.langfuse
        { backend := i.backend reply reply, redactor := r, release := c.langfuse.release } := by
  unfold buildAdapter Ingestion.ofConfig
  cases hresolve : Credentials.resolve c.langfuse env with
  | error e => rfl
  | ok a =>
    cases hconnect : Ingestion.connect a <;> simp [hconnect, bind, Except.bind, Except.map]

namespace LoggingConfig

variable {c c' : LoggingConfig}

theorem SameButKeys.host (h : c.SameButKeys c') : c'.langfuse.host = c.langfuse.host := by
  rw [h.rest]
  rfl

theorem SameButKeys.release (h : c.SameButKeys c') : c'.langfuse.release = c.langfuse.release := by
  rw [h.rest]
  rfl

theorem ofConfig_alike [DomainNames] (h : c.SameButKeys c') (env : String → Option String) :
    EndAlike Ingestion.SameButKeys (Ingestion.ofConfig c.langfuse env)
      (Ingestion.ofConfig c'.langfuse env) :=
  (Credentials.resolve_alike h.publicKey h.secretKey h.host env).bind fun _ _ hhost =>
    Ingestion.connect_alike hhost

theorem toJson_alike (h : c.SameButKeys c') : c'.toJson = c.toJson := by
  have hlangfuse : c'.langfuse.toJson = c.langfuse.toJson := by
    rw [LangfuseConfig.toJson, LangfuseConfig.toJson, h.publicKey.keyJson, h.secretKey.keyJson,
      h.rest]
    rfl
  rw [toJson, toJson, hlangfuse, h.rest]
  rfl

theorem errors_alike [PatternCompiler] [DomainNames] (h : c.SameButKeys c') :
    c'.errors = c.errors := by
  rw [h.rest]
  rfl

theorem validate_alike [PatternCompiler] [DomainNames] (h : c.SameButKeys c') :
    c'.validate.map (fun _ => ()) = c.validate.map (fun _ => ()) := by
  unfold validate
  rw [errors_alike h]
  cases c.errors <;> rfl

theorem buildAdapter_alike [DomainNames] (h : c.SameButKeys c') (r : Redactor)
    (env : String → Option String) (reply : HttpReply) (k : AdapterKind) :
    buildAdapter c' r env reply k = buildAdapter c r env reply k := by
  cases k with
  | tracing => rfl
  | langfuse =>
    rw [buildAdapter_langfuse, buildAdapter_langfuse, h.release]
    refine (ofConfig_alike h env).map_eq fun i i' hsame => ?_
    rw [Ingestion.backend_congr hsame]

theorem buildAdapters_alike [DomainNames] (h : c.SameButKeys c') (r : Redactor)
    (env : String → Option String) (reply : HttpReply) :
    buildAdapters c' r env reply = buildAdapters c r env reply := by
  have hkinds : ∀ ks, buildKinds c' r env reply ks = buildKinds c r env reply ks := by
    intro ks
    induction ks with
    | nil => rfl
    | cons k ks ih => rw [buildKinds, buildKinds, buildAdapter_alike h, ih]
  have hadapters : c'.callbacks.adapters = c.callbacks.adapters := by rw [h.rest]; rfl
  rw [buildAdapters, buildAdapters, hkinds, hadapters]

/-- Two settings that differ in the values of their keys are printed alike, validated alike and
give the same adapters or the same failure. Their credentials resolve to the same host, or fail in
the same way. Whatever is recorded at their endpoints, and whatever the replies are, returns the
same ids, writes the same lines and sends the same requests but for the authorization. -/
theorem keys_unseen [PatternCompiler] [DomainNames] (h : c.SameButKeys c') :
    c'.toJson = c.toJson ∧
    c'.validate.map (fun _ => ()) = c.validate.map (fun _ => ()) ∧
    ∀ env,
      (∀ r reply, buildAdapters c' r env reply = buildAdapters c r env reply) ∧
      (Credentials.resolve c'.langfuse env).map Credentials.host =
        (Credentials.resolve c.langfuse env).map Credentials.host ∧
      (Ingestion.ofConfig c'.langfuse env).map Ingestion.connectedLine =
        (Ingestion.ofConfig c.langfuse env).map Ingestion.connectedLine ∧
      ∀ traceEvent generationEvent time first second redactor p metadata,
        let seen (c : LoggingConfig) (i : Ingestion) : Exchange :=
          ((i.naming traceEvent generationEvent time).exchange first second redactor
            c.langfuse.release p metadata).unsigned
        (Ingestion.ofConfig c'.langfuse env).map (seen c') =
          (Ingestion.ofConfig c.langfuse env).map (seen c) := by
  refine ⟨toJson_alike h, validate_alike h, fun env =>
    ⟨fun r reply => buildAdapters_alike h r env reply, ?_, ?_, ?_⟩⟩
  · exact (Credentials.resolve_alike h.publicKey h.secretKey h.host env).map_eq
      fun _ _ hhost => hhost
  · refine (ofConfig_alike h env).map_eq fun i i' hsame => ?_
    rw [Ingestion.connectedLine, Ingestion.connectedLine, hsame.endpoint]
  · intro traceEvent generationEvent time first second redactor p metadata
    refine (ofConfig_alike h env).map_eq fun i i' hsame => ?_
    dsimp only
    rw [h.release]
    exact Ingestion.exchange_unsigned (hsame.naming traceEvent generationEvent time) first second
      redactor _ p metadata

def original : LoggingConfig where
  callbacks := { adapters := [.langfuse] }
  langfuse := { publicKey := some ⟨"pk-lf-1"⟩, secretKey := some ⟨"sk-lf-1"⟩ }

def rotated : LoggingConfig := original.withKeys (some ⟨"pk-lf-2"⟩) (some ⟨"sk-lf-22"⟩)

/-- Both connect to the default host, and authorize themselves in different ways. -/
theorem rotated_unseen :
    let line := Ingestion.connectedLine
    let env := fun _ => none
    rotated.toJson = original.toJson ∧
    (Ingestion.ofConfig rotated.langfuse env).map line =
      (Ingestion.ofConfig original.langfuse env).map line ∧
    ((Ingestion.ofConfig original.langfuse env).map Ingestion.authorization).toOption =
      some "Basic cGstbGYtMTpzay1sZi0x" ∧
    ((Ingestion.ofConfig rotated.langfuse env).map Ingestion.authorization).toOption =
      some "Basic cGstbGYtMjpzay1sZi0yMg==" := by
  have hsame : original.SameButKeys rotated :=
    ⟨.differ (by decide) (by decide), .differ (by decide) (by decide), rfl⟩
  obtain ⟨hjson, -, hseen⟩ := keys_unseen hsame
  obtain ⟨-, -, hline, -⟩ := hseen fun _ => none
  exact ⟨hjson, hline, by decide +kernel, by decide +kernel⟩

end LoggingConfig
end CallScribe
