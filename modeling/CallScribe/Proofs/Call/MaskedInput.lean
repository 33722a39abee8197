import CallScribe.Proofs.Call.SharedMetadata

/-!
# CallScribe.Proofs.Call.MaskedInput

Calls whose metadata ask for their input to be masked: what two prompts make of one call.

* `Fields.withRequest`, `BackendCall.withRequest`: the same with another captured request.
* `Record.build_alike`, `Recorder.record_withRequest`: with a masked input the messages do not
  count, and a captured request is seen in the metadata of the generation only.
* `Adapter.Plain`: adapters that write no metadata, and call backends with records at most.
* `CallState.SameButPrompt`: what two runs have in common, with `SameButPrompt.apply` for one hook
  and `SameButPrompt.run` for those after the first.
* `CallContext.sent_masked_iff`: the backends are handed the same if and only if the captured
  requests are the same.
-/

namespace CallScribe

/-- The mapping with a captured request, if there is one. -/
def Fields.withRequest (request : Option String) (metadata : Fields Json) : Fields Json :=
  match request with
  | some text => metadata.insert rawRequestKey (.string text)
  | none => metadata

theorem Fields.get?_withRequest {key : String} (hkey : key ≠ rawRequestKey)
    (request : Option String) (metadata : Fields Json) :
    (metadata.withRequest request).get? key = metadata.get? key := by
  cases request with
  | none => rfl
  | some text => exact Fields.get?_insert_of_ne hkey _ _

def Payload.withMessages (p : Payload) (messages : List Message) : Payload := { p with messages }

namespace Record

variable {metadata : Fields Json} {key : String}

def withRequest (request : Option String) (rec : Record) : Record :=
  { rec with
    generation := { rec.generation with metadata := rec.generation.metadata.withRequest request } }

theorem textKey_withRequest (hkey : key ≠ rawRequestKey) (request : Option String) :
    textKey (metadata.withRequest request) key = textKey metadata key := by
  rw [textKey, textKey, Fields.get?_withRequest hkey]

theorem switchKey_withRequest (hkey : key ≠ rawRequestKey) (request : Option String) :
    switchKey (metadata.withRequest request) key = switchKey metadata key := by
  rw [switchKey, switchKey, Fields.get?_withRequest hkey]

theorem tagsKey_withRequest (request : Option String) :
    tagsKey (metadata.withRequest request) = tagsKey metadata := by
  rw [tagsKey, tagsKey, Fields.get?_withRequest (by decide)]

theorem switchKey_of_get? (h : metadata.get? key = some (.bool true)) :
    switchKey metadata key = .ok true := by rw [switchKey, h]

/-- A record whose input is masked shows its payload without the messages. -/
theorem build_alike (hmask : metadata.get? "mask_input" = some (.bool true))
    (release : Option String) (p : Payload) (messages : List Message) (request : Option String) :
    EndAlike (fun rec rec' => rec' = rec.withRequest request) (build release p metadata)
      (build release (p.withMessages messages) (metadata.withRequest request)) := by
  unfold build
  simp only [textKey_withRequest (show "generation_name" ≠ rawRequestKey by decide),
    textKey_withRequest (show "generation_id" ≠ rawRequestKey by decide),
    textKey_withRequest (show "trace_id" ≠ rawRequestKey by decide),
    textKey_withRequest (show "trace_name" ≠ rawRequestKey by decide),
    textKey_withRequest (show "session_id" ≠ rawRequestKey by decide),
    textKey_withRequest (show "trace_user_id" ≠ rawRequestKey by decide), tagsKey_withRequest,
    switchKey_withRequest (show "mask_input" ≠ rawRequestKey by decide),
    switchKey_withRequest (show "mask_output" ≠ rawRequestKey by decide),
    switchKey_of_get? hmask]
  refine .bind_same _ fun generationName => .bind_same _ fun generationId => ?_
  refine .bind_same _ fun traceId => .bind_same _ fun traceName => .bind_same _ fun session => ?_
  refine .bind_same _ fun user => .bind_same _ fun tags => ?_
  -- The first switch is known, and has put the placeholder where the messages would be.
  exact .bind_same (switchKey metadata "mask_output") fun maskOutput => .ok rfl

end Record

namespace BackendCall

/-- The same call with another captured request in the metadata of a generation. -/
def withRequest (request : Option String) : BackendCall → BackendCall
  | .trace t => .trace t
  | .generation t g => .generation t { g with metadata := g.metadata.withRequest request }

theorem eq_of_withRequest {call : BackendCall} {text text' : String}
    (h : call.withRequest (some text) = call.withRequest (some text')) :
    text = text' ∨ ∃ t, call = .trace t := by
  cases call with
  | trace t => exact .inr ⟨t, rfl⟩
  | generation t g =>
    simp only [withRequest, Fields.withRequest, generation.injEq, GenerationParams.mk.injEq,
      true_and, and_true] at h
    have hget := congrArg (Fields.get? rawRequestKey) h
    rw [Fields.get?_insert_self, Fields.get?_insert_self] at hget
    exact .inl (Json.string.inj (Option.some.inj hget))

/-- A request is seen in every generation. -/
theorem eq_iff_of_withRequest {calls calls' : List BackendCall} {text text' : String}
    (hcalls : calls = calls.map (withRequest (some text)))
    (hcalls' : calls' = calls.map (withRequest (some text'))) :
    calls' = calls ↔ text' = text ∨ ∀ call ∈ calls, ∃ t, call = .trace t := by
  constructor
  · intro hsame
    have heach := List.map_inj_left.mp (hcalls'.symm.trans (hsame.trans hcalls))
    by_cases htext : text' = text
    · exact .inl htext
    · exact .inr fun call hcall => (eq_of_withRequest (heach call hcall)).resolve_left htext
  · intro h
    refine (hcalls'.trans (List.map_congr_left fun call hcall => ?_)).trans hcalls.symm
    rcases h with rfl | htraces
    · rfl
    · obtain ⟨t, rfl⟩ := htraces call hcall
      rfl

end BackendCall

theorem LangfuseBackend.send_withRequest (b : LangfuseBackend) (request : Option String)
    (rec : Record) : (b.send (rec.withRequest request)).1 =
      (b.send rec).1.map (BackendCall.withRequest request) := by
  have htrace : (rec.withRequest request).trace = rec.trace := rfl
  rw [send_eq, send_eq, htrace]
  cases b.trace rec.trace <;> rfl

/-- With a masked input a record makes the same calls for any messages. -/
theorem Recorder.record_withRequest {metadata : Fields Json}
    (hmask : metadata.get? "mask_input" = some (.bool true)) (r : Recorder) (p : Payload)
    (messages : List Message) (request : Option String) :
    (r.record (p.withMessages messages) (metadata.withRequest request)).calls =
      (r.record p metadata).calls.map (BackendCall.withRequest request) := by
  rw [record_calls_eq, record_calls_eq]
  have halike := Record.build_alike hmask r.release p messages request
  generalize Record.build r.release p metadata = x at halike ⊢
  generalize Record.build r.release (p.withMessages messages) (metadata.withRequest request) = y
    at halike ⊢
  cases halike with
  | ok h =>
    subst h
    exact r.backend.send_withRequest request _
  | error e => rfl

/-- An adapter that writes no metadata, and calls backends with its records or not at all. -/
def Adapter.Plain (a : Adapter) : Prop :=
  (∃ r, a = Adapter.langfuse r) ∨ a.Keeps ∧ ∀ p s, backendCalls (a.hook p s).entries = []

theorem Adapter.Own.plain {a : Adapter} (h : a.Own) : a.Plain := by
  rcases h with ⟨r, rfl⟩ | hrecords
  · exact .inr ⟨fun _ _ => rfl, fun _ _ => rfl⟩
  · exact .inl hrecords

namespace Adapter.Plain

variable {a : Adapter}

theorem keeps (ha : a.Plain) : a.Keeps := by
  rcases ha with ⟨r, rfl⟩ | ⟨hkeeps, -⟩
  · exact langfuse_keeps r
  · exact hkeeps

theorem calls_withRequest (ha : a.Plain) {p : Payload} {s s' : MetadataStore}
    (hmask : (p.metadata s).get? "mask_input" = some (.bool true)) {request : Option String}
    (hmeta : p.metadata s' = (p.metadata s).withRequest request) (messages : List Message) :
    backendCalls (a.hook (p.withMessages messages) s').entries =
      (backendCalls (a.hook p s).entries).map (BackendCall.withRequest request) := by
  rcases ha with ⟨r, rfl⟩ | ⟨-, hnone⟩
  · have hmeta' : (p.withMessages messages).metadata s' = (p.metadata s).withRequest request :=
      hmeta
    have hevent : (p.withMessages messages).event = p.event := rfl
    rw [langfuse_calls, langfuse_calls, hmeta', hevent]
    split
    · rfl
    · exact r.record_withRequest hmask p messages request
  · rw [hnone, hnone]
    rfl

end Adapter.Plain

namespace Dispatcher

theorem runAll_withRequest {as : List Adapter} (has : ∀ a ∈ as, a.Plain) {p : Payload}
    {s s' : MetadataStore} (hmask : (p.metadata s).get? "mask_input" = some (.bool true))
    {request : Option String} (hmeta : p.metadata s' = (p.metadata s).withRequest request)
    (messages : List Message) (limit : Deadline) (r : Redactor) :
    backendCalls (runAll limit r (p.withMessages messages) as s').entries =
      (backendCalls (runAll limit r p as s).entries).map (BackendCall.withRequest request) := by
  induction as with
  | nil => rfl
  | cons a as ih =>
    obtain ⟨ha, has⟩ := List.forall_mem_cons.mp has
    simp only [runAll, backendCalls_append, List.map_append]
    rw [ha.keeps, ha.keeps, ha.calls_withRequest hmask hmeta, ih has]

theorem dispatch_withRequest {d : Dispatcher} (hd : ∀ a ∈ d.adapters, a.Plain) {p : Payload}
    {s s' : MetadataStore} (hmask : (p.metadata s).get? "mask_input" = some (.bool true))
    {request : Option String} (hmeta : p.metadata s' = (p.metadata s).withRequest request)
    (messages : List Message) (live : LiveStore) :
    backendCalls (d.dispatch live (p.withMessages messages) s').2.2 =
      (backendCalls (d.dispatch live p s).2.2).map (BackendCall.withRequest request) := by
  simp only [dispatch, backendCalls_append, backendCalls_within, backendCalls_outcomes,
    List.append_nil]
  exact runAll_withRequest hd hmask hmeta messages _ _

end Dispatcher

def CallHook.isPreCall : CallHook → Bool
  | .preCall .. => true
  | _ => false

/-- The same call with another prompt. -/
def CallContext.withPrompt (c : CallContext) (messages : List Message) (input : Option Json)
    (args : Option RequestArgs) : CallContext :=
  { c with messages, details := { c.details with input, args } }

namespace CallState

/-- Two states of a call whose input is masked, in runs that differ in the prompt: of what the
second run hands to backends only the captured request is its own. -/
structure SameButPrompt (request : Option String) (st st' : CallState) : Prop where
  context : ∃ messages input args, st'.context = st.context.withPrompt messages input args
  masked : (st.context.mapping st.scene.store).get? "mask_input" = some (.bool true)
  mapping : st'.context.mapping st'.scene.store =
    (st.context.mapping st.scene.store).withRequest request
  calls : backendCalls st'.scene.journal =
    (backendCalls st.scene.journal).map (BackendCall.withRequest request)

variable {request : Option String} {st st' : CallState}

namespace SameButPrompt

/-- A change of both calls that has nothing to do with prompt and parameters. -/
theorem edited (hst : SameButPrompt request st st') {f : CallContext → CallContext}
    (hprompt : ∀ c messages input args,
      f (c.withPrompt messages input args) = (f c).withPrompt messages input args)
    (hparams : ∀ c, (f c).details.params = c.details.params) :
    SameButPrompt request ⟨f st.context, st.scene⟩ ⟨f st'.context, st'.scene⟩ := by
  have hmapping : ∀ c s, (f c).mapping s = c.mapping s := fun c s => by
    rw [CallContext.mapping, CallContext.mapping, hparams]
  obtain ⟨⟨messages, input, args, hcontext⟩, hmask, hmeta, hcalls⟩ := hst
  refine ⟨⟨messages, input, args, by rw [hcontext, hprompt]⟩, ?_, ?_, hcalls⟩
  · rw [hmapping, hmask]
  · rw [hmapping, hmapping, hmeta]

theorem dispatched (hst : SameButPrompt request st st') {d : Dispatcher}
    (hd : ∀ a ∈ d.adapters, a.Plain) (live : LiveStore) (event : CallEvent)
    (response : Option Json) :
    SameButPrompt request ⟨st.context, (st.context.dispatch d live event response st.scene).2⟩
      ⟨st'.context, (st'.context.dispatch d live event response st'.scene).2⟩ := by
  have hstore : ∀ (c : CallContext) (scene : CallScene),
      (c.dispatch d live event response scene).2.store = scene.store := fun c scene =>
    Dispatcher.dispatch_store (fun a ha => (hd a ha).keeps) live _ scene.store
  obtain ⟨⟨messages, input, args, hcontext⟩, hmask, hmeta, hcalls⟩ := hst
  have hpayload : st'.context.payload event response =
      (st.context.payload event response).withMessages
        (st'.context.payload event response).messages := by
    rw [hcontext]
    rfl
  have hmask' : ((st.context.payload event response).metadata st.scene.store).get? "mask_input" =
      some (.bool true) := hmask
  have hmeta' : (st.context.payload event response).metadata st'.scene.store =
      ((st.context.payload event response).metadata st.scene.store).withRequest request := by
    rw [hcontext] at hmeta
    exact hmeta
  refine ⟨⟨messages, input, args, hcontext⟩, ?_, ?_, ?_⟩
  · rw [hstore, hmask]
  · rw [hstore, hstore, hmeta]
  · unfold CallContext.dispatch
    dsimp only [CallScene.write]
    rw [backendCalls_append, backendCalls_append, List.map_append, hcalls, hpayload,
      Dispatcher.dispatch_withRequest hd hmask' hmeta']

theorem apply {h : CallHook} (hlater : h.isPreCall = false) (hplain : ∀ a ∈ h.adapters, a.Plain)
    (hst : SameButPrompt request st st') : SameButPrompt request (h.apply st) (h.apply st') := by
  cases h with
  | preCall input apiKey model args => cases hlater
  | postCall text =>
    exact hst.edited (f := (CallContext.postCall · text)) (fun _ _ _ _ => rfl) fun _ => rfl
  | success d live now response =>
    exact (hst.edited (f := fun c => { c with endTime := some now }) (fun _ _ _ _ => rfl)
      fun _ => rfl).dispatched hplain live .success response
  | failure d live now error =>
    exact (hst.edited (f := fun c => { c with
      endTime := some now
      details := { c.details with exception := some (c.policy.redactor.redact error) } })
      (fun _ _ _ _ => rfl) fun _ => rfl).dispatched hplain live .failure none

theorem run (hst : SameButPrompt request st st') {hooks : List CallHook}
    (hlater : ∀ h ∈ hooks, h.isPreCall = false)
    (hplain : ∀ h ∈ hooks, ∀ a ∈ h.adapters, a.Plain) :
    SameButPrompt request (st.run hooks) (st'.run hooks) := by
  induction hooks generalizing st st' with
  | nil => exact hst
  | cons h hooks ih =>
    obtain ⟨hh, hhooks⟩ := List.forall_mem_cons.mp hlater
    obtain ⟨hah, hahooks⟩ := List.forall_mem_cons.mp hplain
    exact ih (hst.apply hh hah) hhooks hahooks

end SameButPrompt
end CallState

namespace CallContext

variable {c : CallContext} {store : MetadataStore}

/-- What is captured of a request. -/
def request? (c : CallContext) (args : RequestArgs) : Option String :=
  if c.captures then some (c.policy.scrub args.command) else none

/-- The calls to backends that some hooks of a new call make. -/
def sent (c : CallContext) (store : MetadataStore) (hooks : List CallHook) : List BackendCall :=
  backendCalls (CallState.run ⟨c, { store }⟩ hooks).scene.journal

theorem holds_of_masked (hmask : (c.mapping store).get? "mask_input" = some (.bool true))
    (h : MetadataHandle) (hc : c.metadata = some h) : store.Holds h := by
  rw [mapping, CallParams.mapping_of_metadata hc] at hmask
  exact MetadataStore.holds_of_get? hmask

theorem preCall_withPrompt (c : CallContext) (messages : List Message) (input input' : Json)
    (apiKey : Option String) (model : String) (args args' : RequestArgs) (scene : CallScene) :
    (({ c with messages } : CallContext).preCall input' apiKey model args' scene).1 =
      (c.preCall input apiKey model args scene).1.withPrompt messages (some (c.scrubValue input'))
        (some args') := by
  unfold preCall ensureMetadata
  dsimp only
  generalize c.details.params.ensureMetadata scene.store = e
  obtain ⟨h, p, s⟩ := e
  cases hcap : c.captures with
  | true => simp only [withParams, hcap, if_true]; rfl
  | false => simp only [withParams, hcap]; rfl

theorem preCall_mapping_masked (hmask : (c.mapping store).get? "mask_input" = some (.bool true))
    (input : Json) (apiKey : Option String) (model : String) (args : RequestArgs) :
    (c.preCall input apiKey model args { store }).1.mapping
      (c.preCall input apiKey model args { store }).2.store =
        (c.mapping store).withRequest (c.request? args) := by
  unfold request?
  cases hcap : c.captures with
  | true =>
    rw [preCall_mapping_of_holds hcap (holds_of_masked hmask)]
    rfl
  | false =>
    rw [preCall_mapping, hcap]
    rfl

/-- A captured request takes the place of one that was captured before. -/
theorem withRequest_request? (c : CallContext) (args args' : RequestArgs)
    (metadata : Fields Json) : (metadata.withRequest (c.request? args)).withRequest
      (c.request? args') = metadata.withRequest (c.request? args') := by
  unfold request?
  cases c.captures with
  | true => exact Fields.insert_insert _ _ _ _
  | false => rfl

theorem preCall_sameButPrompt (hmask : (c.mapping store).get? "mask_input" = some (.bool true))
    (messages : List Message) (input input' : Json) (apiKey : Option String) (model : String)
    (args args' : RequestArgs) :
    CallState.SameButPrompt (c.request? args')
      ((CallHook.preCall input apiKey model args).apply ⟨c, { store }⟩)
      ((CallHook.preCall input' apiKey model args').apply ⟨{ c with messages }, { store }⟩) := by
  have hmap := preCall_mapping_masked hmask input apiKey model args
  have hmap' := preCall_mapping_masked (c := { c with messages }) hmask input' apiKey model args'
  refine ⟨⟨messages, _, _, c.preCall_withPrompt messages input input' apiKey model args args' _⟩,
    ?_, ?_, ?_⟩
  · dsimp only [CallHook.apply]
    rw [hmap, Fields.get?_withRequest (by decide)]
    exact hmask
  · dsimp only [CallHook.apply]
    rw [hmap, hmap', withRequest_request?]
    rfl
  · dsimp only [CallHook.apply]
    rw [CallHook.preCall_calls, CallHook.preCall_calls]
    rfl

/-- Two runs of a call that differ in the prompt hand the same to the backends, apart from the
requests that they have captured. Each of these is seen in the metadata of every generation of its
run, so that only requests that are the same once redacted, or no generation, leave no trace of the
prompt. -/
theorem sent_masked_iff {hooks : List CallHook}
    (hmask : (c.mapping store).get? "mask_input" = some (.bool true))
    (hlater : ∀ h ∈ hooks, h.isPreCall = false)
    (hplain : ∀ h ∈ hooks, ∀ a ∈ h.adapters, a.Plain) (messages : List Message)
    (input input' : Json) (apiKey : Option String) (model : String) (args : RequestArgs)
    (body' : Json) :
    let args' : RequestArgs := { args with body := body' }
    let request := c.policy.scrub args.command
    let request' := c.policy.scrub args'.command
    let calls := c.sent store (.preCall input apiKey model args :: hooks)
    let calls' := ({ c with messages } : CallContext).sent store
      (.preCall input' apiKey model args' :: hooks)
    (c.captures = false → calls' = calls) ∧
    (c.captures = true → calls = calls.map (BackendCall.withRequest (some request)) ∧
      calls' = calls.map (BackendCall.withRequest (some request'))) ∧
    (calls' = calls ↔
      (c.captures = true → request' = request ∨ ∀ call ∈ calls, ∃ t, call = .trace t)) := by
  intro args' request request' calls calls'
  -- The first run against itself: every generation shows the request of its own run.
  have hcalls : calls = calls.map (BackendCall.withRequest (c.request? args)) :=
    ((preCall_sameButPrompt hmask c.messages input input apiKey model args args).run hlater
      hplain).calls
  have hcalls' : calls' = calls.map (BackendCall.withRequest (c.request? args')) :=
    ((preCall_sameButPrompt hmask messages input input' apiKey model args args').run hlater
      hplain).calls
  unfold request? at hcalls hcalls'
  cases hcap : c.captures with
  | false =>
    rw [hcap, if_neg Bool.false_ne_true] at hcalls hcalls'
    have hsame : calls' = calls := hcalls'.trans hcalls.symm
    exact ⟨fun _ => hsame, nofun, iff_of_true hsame nofun⟩
  | true =>
    rw [hcap, if_pos rfl] at hcalls hcalls'
    have hiff := BackendCall.eq_iff_of_withRequest hcalls hcalls'
    exact ⟨nofun, fun _ => ⟨hcalls, hcalls'⟩, fun h _ => hiff.mp h, fun h => hiff.mpr (h rfl)⟩

/-- A call that asks for its input to be masked and whose requests are captured. -/
def discreet (name : String) : CallContext :=
  { CallState.asking name with
    details := { params := { metadata := some ⟨0⟩ } } }

def discreetStore : MetadataStore := ⟨[[("mask_input", .bool true)]]⟩

/-- The request sends the text of the one message. -/
def discreetArgs (name : String) : RequestArgs where
  apiBase := some "here"
  body := .string name

def discreetEnd : CallHook := .success Session.watching {} ⟨0, 0, 0⟩ none

/-- What the backend is handed. -/
def discreetCalls (name : String) : List BackendCall :=
  (discreet name).sent discreetStore
    [.preCall (discreetArgs name).body none "" (discreetArgs name), discreetEnd]

/-- For two names the backend is handed the same, apart from the captured request. -/
theorem discreetCalls_alike : (discreetCalls "Ann").length = 2 ∧
    discreetCalls "Bob" = (discreetCalls "Ann").map
      (BackendCall.withRequest (some (Policy.standard.scrub (discreetArgs "Bob").command))) := by
  have hlater : ∀ h ∈ [discreetEnd], h.isPreCall = false := by
    intro h hh
    obtain rfl := List.mem_singleton.mp hh
    rfl
  have hplain : ∀ h ∈ [discreetEnd], ∀ a ∈ h.adapters, a.Plain := by
    intro h hh a ha
    obtain rfl := List.mem_singleton.mp hh
    exact (Session.watching_own ha).plain
  obtain ⟨-, hcaptured, -⟩ := @sent_masked_iff (discreet "Ann") discreetStore _ rfl hlater hplain
    (discreet "Bob").messages (discreetArgs "Ann").body (discreetArgs "Bob").body none ""
    (discreetArgs "Ann") (discreetArgs "Bob").body
  exact ⟨by decide +kernel, (hcaptured rfl).2⟩

/-- And the captured request shows the name. -/
theorem discreetCalls_name :
    ((discreet "Ann").mapping discreetStore).get? "mask_input" = some (.bool true) ∧
      (discreet "Ann").policy.suppressed = false ∧
      discreet "Bob" = { discreet "Ann" with messages := (discreet "Bob").messages } ∧
      discreetCalls "Bob" ≠ discreetCalls "Ann" := by
  refine ⟨rfl, rfl, rfl, fun hsame => ?_⟩
  have hrequests := congrArg
    (List.map fun call => (call.metadata.get? rawRequestKey).bind Json.asString?) hsame
  exact absurd hrequests (by decide +kernel)

end CallContext
end CallScribe
