import CallScribe.Proofs.Call.Hooks
import CallScribe.Proofs.Langfuse.Record

/-!
# CallScribe.Proofs.Call.Exposure

What the records of a call may show to a backend, over every run of its hooks.

* `CallHook.apply_calls`: the calls to backends that one hook adds are records of a payload whose
  response and error text are redacted.
* `Captured`: what hooks do to the metadata of the caller.
* `CallState.Exposure`: the invariant of a run, with `Exposure.apply` for one hook.
* `CallState.run_call_clean_iff`: a call to a backend shows a secret only by the messages, which
  are handed on as they are, and by the metadata that the caller put there. What the hooks add to
  the metadata is redacted.
* `CallState.run_clean`: clean messages and clean metadata are enough.
-/

namespace CallScribe

open Redactor

variable {c : CallContext}

namespace CallContext

theorem payload_scrubbed (hpolicy : c.policy = Policy.standard) {event : CallEvent}
    (hexc : event = .failure → ∀ t, c.details.exception = some t → builtin.Clean t.toList)
    (response : Option Json) : (c.payload event response).Scrubbed where
  response := by
    intro v hv
    obtain ⟨w, -, rfl⟩ := Option.map_eq_some_iff.mp hv
    rw [scrubValue, hpolicy]
    exact redactValue_clean w
  exception := hexc

theorem payload_messages (hpolicy : c.policy = Policy.standard) (event : CallEvent)
    (response : Option Json) : (c.payload event response).messages = c.messages := by
  unfold payload
  rw [hpolicy]
  rfl

end CallContext

/-- The call shows nothing that a built-in family recognises unless the messages do, and are not
masked, or its metadata do. -/
def BackendCall.CleanBut (call : BackendCall) (messages : List Message) : Prop :=
  call.Clean ↔ (call.input = .string placeholder ∨ (messagesJson messages).Clean) ∧
    (Json.object call.metadata).Clean

namespace CallContext

theorem dispatch_calls (hpolicy : c.policy = Policy.standard) {d : Dispatcher}
    (hrec : ∀ a ∈ d.adapters, a.Records) {live : LiveStore} {event : CallEvent}
    (hexc : event = .failure → ∀ t, c.details.exception = some t → builtin.Clean t.toList)
    {response : Option Json} {scene : CallScene} {call : BackendCall}
    (hcall : call ∈ backendCalls (c.dispatch d live event response scene).2.journal) :
    call ∈ backendCalls scene.journal ∨ call.CleanBut c.messages ∧
      ((∀ a ∈ d.adapters, a.Keeps) →
        call.metadata = [] ∨ call.metadata = c.mapping scene.store) := by
  unfold dispatch at hcall
  dsimp only [CallScene.write] at hcall
  rw [backendCalls_append, List.mem_append] at hcall
  refine hcall.imp_right fun hnew => ?_
  obtain ⟨r, seen, hr, hseen⟩ := Dispatcher.dispatch_calls hrec hnew
  have hclean := Recorder.call_clean_iff (c.payload_scrubbed hpolicy hexc response) hr
  rw [payload_messages hpolicy] at hclean
  refine ⟨hclean, fun hkeeps => ?_⟩
  rw [← hseen hkeeps, ← c.payload_metadata event response seen]
  exact Recorder.call_metadata hr

end CallContext

namespace CallHook

theorem backendCalls_replaced (previous : Option Json) :
    backendCalls (replacedEntries previous) = [] := by
  unfold replacedEntries
  split <;> rfl

theorem preCall_calls (c : CallContext) (input : Json) (apiKey : Option String) (model : String)
    (args : RequestArgs) (scene : CallScene) :
    backendCalls (c.preCall input apiKey model args scene).2.journal =
      backendCalls scene.journal := by
  unfold CallContext.preCall
  dsimp only
  split
  · simp only [CallScene.write, backendCalls_append, backendCalls_replaced, List.nil_append]
    exact List.append_nil _
  · simp only [CallScene.write, backendCalls_append]
    exact List.append_nil _

theorem apply_calls {h : CallHook} (hrec : ∀ a ∈ h.adapters, a.Records) {st : CallState}
    (hpolicy : st.context.policy = Policy.standard) {call : BackendCall}
    (hcall : call ∈ backendCalls (h.apply st).scene.journal) :
    call ∈ backendCalls st.scene.journal ∨ call.CleanBut st.context.messages ∧
      ((∀ a ∈ h.adapters, a.Keeps) →
        call.metadata = [] ∨ call.metadata = st.context.mapping st.scene.store) := by
  cases h with
  | preCall input apiKey model args =>
    left
    rwa [← preCall_calls st.context input apiKey model args st.scene]
  | postCall text => exact .inl hcall
  | success d live now response =>
    exact CallContext.dispatch_calls (c := { st.context with endTime := some now }) hpolicy hrec
      (fun hevent => by cases hevent) hcall
  | failure d live now error =>
    have hredacted : builtin.Clean (st.context.policy.redactor.redact error).toList := by
      rw [hpolicy]
      exact redact_clean error
    refine CallContext.dispatch_calls (c := { st.context with
      endTime := some now
      details := { st.context.details with
        exception := some (st.context.policy.redactor.redact error) } }) hpolicy hrec
      (fun _ t ht => ?_) hcall
    rwa [← Option.some.inj ht]

end CallHook

/-- The metadata as it was, or with a request that one of the hooks captured. -/
def Captured (hooks : List CallHook) (before after : Fields Json) : Prop :=
  after = before ∨ ∃ input apiKey model args, .preCall input apiKey model args ∈ hooks ∧
    after = before.insert rawRequestKey (.string (builtin.redact args.command))

/-- A later capture takes the place of an earlier one. -/
theorem Captured.capture {hooks : List CallHook} {before after : Fields Json}
    (h : Captured hooks before after) {input : Json} {apiKey : Option String} {model : String}
    {args : RequestArgs} (hmem : .preCall input apiKey model args ∈ hooks) :
    Captured hooks before
      (after.insert rawRequestKey (.string (builtin.redact args.command))) := by
  refine .inr ⟨input, apiKey, model, args, hmem, ?_⟩
  rcases h with rfl | ⟨_, _, _, _, _, rfl⟩
  · rfl
  · exact Fields.insert_insert _ _ _ _

theorem Captured.clean {hooks : List CallHook} {before after : Fields Json}
    (h : Captured hooks before after) (hclean : (Json.object before).Clean) :
    (Json.object after).Clean := by
  rcases h with rfl | ⟨_, _, _, args, _, rfl⟩
  · exact hclean
  · exact hclean.insert rawRequestKey (Json.clean_string.mpr (redact_clean args.command))

namespace CallState

/-- What a call and its scene have told backends after some of the hooks: only messages and
metadata can show a secret, and unless adapters write there, the metadata are the caller's. -/
structure Exposure (c : CallContext) (store : MetadataStore) (hooks : List CallHook)
    (st : CallState) : Prop where
  same : SameCall c st.context
  mapping : (∀ h ∈ hooks, ∀ a ∈ h.adapters, a.Keeps) →
    Captured hooks (c.mapping store) (st.context.mapping st.scene.store)
  calls : ∀ call ∈ backendCalls st.scene.journal, call.CleanBut c.messages ∧
    ((∀ h ∈ hooks, ∀ a ∈ h.adapters, a.Keeps) →
      call.metadata = [] ∨ Captured hooks (c.mapping store) call.metadata)

theorem Exposure.apply {store : MetadataStore} {hooks : List CallHook}
    (hpolicy : c.policy = Policy.standard) {h : CallHook} (hmem : h ∈ hooks)
    (hrec : ∀ a ∈ h.adapters, a.Records) {st : CallState} (hst : Exposure c store hooks st) :
    Exposure c store hooks (h.apply st) where
  same := hst.same.trans (h.apply_same st)
  mapping := by
    intro hkeeps
    rcases h.apply_mapping (hkeeps h hmem) st with hmap | ⟨input, apiKey, model, args, rfl, hmap⟩
    · rw [hmap]
      exact hst.mapping hkeeps
    · have hscrub : st.context.policy.scrub args.command = builtin.redact args.command := by
        rw [hst.same.policy, hpolicy]
        rfl
      rw [hmap, hscrub]
      exact (hst.mapping hkeeps).capture hmem
  calls := by
    intro call hcall
    rcases CallHook.apply_calls hrec (hst.same.policy.trans hpolicy) hcall with hold | hnew
    · exact hst.calls call hold
    · obtain ⟨hclean, hmeta⟩ := hnew
      rw [hst.same.messages] at hclean
      refine ⟨hclean, fun hkeeps => (hmeta (hkeeps h hmem)).imp_right fun heq => ?_⟩
      rw [heq]
      exact hst.mapping hkeeps

theorem exposure_run (hpolicy : c.policy = Policy.standard) (store : MetadataStore)
    {hooks : List CallHook} (hrec : ∀ h ∈ hooks, ∀ a ∈ h.adapters, a.Records) :
    Exposure c store hooks (run ⟨c, { store }⟩ hooks) :=
  run_induct (fun h hmem _ hst => hst.apply hpolicy hmem (hrec h hmem))
    ⟨SameCall.refl c, fun _ => .inl rfl, fun _ hcall => by cases hcall⟩

/-- A call to a backend, in any run of hooks, is clean if and only if the messages are, or are
masked, and its metadata are. Unless adapters write there, the metadata are the caller's, with the
redacted text of a captured request. -/
theorem run_call_clean_iff (hpolicy : c.policy = Policy.standard) (store : MetadataStore)
    {hooks : List CallHook} (hrec : ∀ h ∈ hooks, ∀ a ∈ h.adapters, a.Records)
    {call : BackendCall} (hcall : call ∈ backendCalls (run ⟨c, { store }⟩ hooks).scene.journal) :
    (call.Clean ↔ (call.input = .string placeholder ∨ (messagesJson c.messages).Clean) ∧
      (Json.object call.metadata).Clean) ∧
    ((∀ h ∈ hooks, ∀ a ∈ h.adapters, a.Keeps) →
      call.metadata = [] ∨ Captured hooks (c.mapping store) call.metadata) :=
  (exposure_run hpolicy store hrec).calls call hcall

/-- A call with one message, whose requests are captured. -/
def asking (text : String) : CallContext where
  model := "gpt-4"
  messages := [⟨"user", .string text⟩]
  callType := .completion
  callId := "1"
  captures := true

/-- Hands every call that ends to a backend that accepts everything. -/
def recording : Dispatcher where
  adapters := [Adapter.langfuse
    { backend := { trace := fun p => .ok p.id, generation := fun _ p => .ok p.id } }]
  limit := Deadline.ofMillis 1000

/-- All four hooks, with a key in the request, the answer, the response and the error. -/
def leakyHooks : List CallHook :=
  [.preCall .null none "" { body := .string "sk-abcdefgh" }, .postCall "sk-abcdefgh",
    .success recording {} ⟨0, 0, 0⟩ (some (.string "sk-abcdefgh")),
    .failure recording {} ⟨0, 0, 0⟩ "no access for sk-abcdefgh"]

/-- The calls to the backend when these hooks are run for a message. -/
def told (text : String) : List BackendCall :=
  backendCalls (run ⟨asking text, {}⟩ leakyHooks).scene.journal

theorem leakyHooks_adapters {h : CallHook} (hh : h ∈ leakyHooks) {a : Adapter}
    (ha : a ∈ h.adapters) : a.Records ∧ a.Keeps := by
  have hone : a ∈ recording.adapters := by
    revert h
    simp [leakyHooks, CallHook.adapters]
  obtain rfl := List.mem_singleton.mp hone
  exact ⟨Adapter.langfuse_records _, Adapter.langfuse_keeps _⟩

/-- With a harmless message nothing of the key is seen. -/
theorem told_clean : (told "hello").length = 4 ∧ ∀ call ∈ told "hello", call.Clean := by
  refine ⟨by decide +kernel, fun call hcall => ?_⟩
  obtain ⟨hclean, hshown⟩ := run_call_clean_iff (c := asking "hello") rfl {}
    (fun _ hh _ ha => (leakyHooks_adapters hh ha).1) hcall
  refine hclean.mpr ⟨.inr (by decide +kernel), ?_⟩
  rcases hshown fun _ hh _ ha => (leakyHooks_adapters hh ha).2 with hnil | hcaptured
  · rw [hnil]
    exact Json.clean_of_strings_nil rfl
  · exact hcaptured.clean (Json.clean_of_strings_nil rfl)

/-- A key in a message is seen by the backend in every call. -/
theorem told_message_key : told "my key is sk-abcdefgh" ≠ [] ∧
    ∀ call ∈ told "my key is sk-abcdefgh", ¬call.Clean := by decide +kernel

theorem run_clean (hpolicy : c.policy = Policy.standard) {store : MetadataStore}
    {hooks : List CallHook} (hrec : ∀ h ∈ hooks, ∀ a ∈ h.adapters, a.Records)
    (hkeeps : ∀ h ∈ hooks, ∀ a ∈ h.adapters, a.Keeps) (hmsg : (messagesJson c.messages).Clean)
    (hmeta : (Json.object (c.mapping store)).Clean) :
    ∀ call ∈ backendCalls (run ⟨c, { store }⟩ hooks).scene.journal, call.Clean := by
  intro call hcall
  obtain ⟨hclean, hshown⟩ := (exposure_run hpolicy store hrec).calls call hcall
  refine hclean.mpr ⟨.inr hmsg, ?_⟩
  rcases hshown hkeeps with hnil | hcaptured
  · rw [hnil]
    exact Json.clean_of_strings_nil rfl
  · exact hcaptured.clean hmeta

end CallState
end CallScribe
