import CallScribe.Dispatch.TracingLog
import CallScribe.Proofs.Call.Exposure
import CallScribe.Proofs.Call.Session
import Mathlib.Data.List.Forall2

/-!
# CallScribe.Proofs.Call.Suppression

Calls whose messages are suppressed show nothing of their content.

* `CallContext.SameOutline`: two suppressing calls that differ in content only. Hooks and steps
  with other content: `CallHook.SameOutline`, `SessionStep.SameOutline`.
* `CallContext.payload_congr`, `.preCall_congr`, `.dispatch_congr`, `CallHook.apply_congr`: what
  such calls hand out, write down and report is the same.
* `Session.SameSight`: two sessions that look the same from outside, with
  `SameSight.apply` for one step.
* `Session.run_same_sight`: they do after any two runs of the same steps with other content.
-/

namespace CallScribe

theorem Policy.scrub_of_suppressed {p : Policy} (h : p.suppressed = true) (text : String) :
    p.scrub text = placeholder := if_pos h

namespace CallContext

variable {a b : CallContext}

/-- Two suppressing calls that are the same but for content: the texts of messages, and what
hooks gather of input, request and answer. -/
structure SameOutline (a b : CallContext) : Prop where
  suppressed : a.policy.suppressed = true
  policy : b.policy = a.policy
  captures : b.captures = a.captures
  model : b.model = a.model
  roles : b.messages.map Message.role = a.messages.map Message.role
  callType : b.callType = a.callType
  callId : b.callId = a.callId
  stream : b.stream = a.stream
  functionId : b.functionId = a.functionId
  startTime : b.startTime = a.startTime
  endTime : b.endTime = a.endTime
  params : b.details.params = a.details.params
  exception : b.details.exception = a.details.exception

namespace SameOutline

theorem ended (h : a.SameOutline b) (now : Option Instant) :
    SameOutline { a with endTime := now } { b with endTime := now } :=
  { h with endTime := rfl }

theorem excepted (h : a.SameOutline b) {text text' : Option String} (ht : text' = text) :
    SameOutline { a with details := { a.details with exception := text } }
      { b with details := { b.details with exception := text' } } :=
  { h with exception := ht }

theorem answered (h : a.SameOutline b) (text text' : Option String) :
    SameOutline { a with details := { a.details with response := text } }
      { b with details := { b.details with response := text' } } :=
  { h with }

end SameOutline

theorem mapping_congr (h : a.SameOutline b) (s : MetadataStore) : b.mapping s = a.mapping s := by
  rw [mapping, mapping, h.params]

theorem scrubValue_of_suppressed (h : a.policy.suppressed = true) (v : Json) :
    a.scrubValue v = .string placeholder := if_pos h

/-- Of a message whose text is replaced only the role remains. -/
theorem map_withText_congr {ms ms' : List Message} (h : ms'.map Message.role = ms.map Message.role)
    (text : String) : ms'.map (Message.withText · text) = ms.map (Message.withText · text) := by
  have hrole : ∀ ms : List Message, ms.map (Message.withText · text) =
      (ms.map Message.role).map fun role => ⟨role, .string text⟩ := by
    intro ms
    rw [List.map_map]
    rfl
  rw [hrole, hrole, h]

theorem payload_congr (h : a.SameOutline b) (event : CallEvent) {r r' : Option Json}
    (hr : r'.isSome = r.isSome) : b.payload event r' = a.payload event r := by
  have hsup : b.policy.suppressed = true := h.policy ▸ h.suppressed
  have hresponse : r'.map b.scrubValue = r.map a.scrubValue := by
    cases r with
    | none =>
      have hnone : r' = none := Option.not_isSome_iff_eq_none.mp (by simp [hr])
      rw [hnone]
      rfl
    | some v =>
      obtain ⟨v', rfl⟩ := Option.isSome_iff_exists.mp hr
      simp only [Option.map_some, scrubValue_of_suppressed hsup,
        scrubValue_of_suppressed h.suppressed]
  unfold payload
  rw [if_pos hsup, if_pos h.suppressed, map_withText_congr h.roles, hresponse, h.model, h.stream,
    h.callType, h.callId, h.functionId, h.startTime, h.endTime, h.params, h.exception]

theorem dispatch_congr (h : a.SameOutline b) (d : Dispatcher) (live : LiveStore)
    (event : CallEvent) {r r' : Option Json} (hr : r'.isSome = r.isSome) (scene : CallScene) :
    b.dispatch d live event r' scene = a.dispatch d live event r scene := by
  rw [dispatch, dispatch, payload_congr h event hr]

theorem preCall_congr (h : a.SameOutline b) (input input' : Json) (key key' : Option String)
    (model : String) (args args' : RequestArgs) (scene : CallScene) :
    (a.preCall input key model args scene).1.SameOutline
        (b.preCall input' key' model args' scene).1 ∧
      (b.preCall input' key' model args' scene).2 = (a.preCall input key model args scene).2 := by
  unfold preCall ensureMetadata
  rw [h.params]
  generalize a.details.params.ensureMetadata scene.store = e
  obtain ⟨handle, params, store⟩ := e
  simp only [withParams, capturedLine, uncapturedLine, h.captures, h.callId, h.model, h.policy,
    Policy.scrub_of_suppressed h.suppressed]
  cases a.captures with
  | true =>
    exact ⟨{ h with policy := rfl, captures := rfl, model := rfl, callId := rfl, params := rfl },
      rfl⟩
  | false =>
    exact ⟨{ h with policy := rfl, captures := rfl, model := rfl, callId := rfl, params := rfl },
      rfl⟩

end CallContext

/-- One hook with other content. -/
inductive CallHook.SameOutline : CallHook → CallHook → Prop
  | preCall (input input' : Json) (key key' : Option String) (model : String)
    (args args' : RequestArgs) :
    SameOutline (.preCall input key model args) (.preCall input' key' model args')
  | postCall (text text' : String) : SameOutline (.postCall text) (.postCall text')
  | success (d : Dispatcher) (live : LiveStore) (now : Instant) {r r' : Option Json}
    (hr : r'.isSome = r.isSome) : SameOutline (.success d live now r) (.success d live now r')
  | failure (d : Dispatcher) (live : LiveStore) (now : Instant) (error : String) :
    SameOutline (.failure d live now error) (.failure d live now error)

/-- One step with other content. -/
inductive SessionStep.SameOutline : SessionStep → SessionStep → Prop
  | hook (i : Nat) {h h' : CallHook} (hh : h.SameOutline h') : SameOutline (.hook i h) (.hook i h')
  | payload (i : Nat) (event : CallEvent) {r r' : Option Json} (hr : r'.isSome = r.isSome) :
    SameOutline (.payload i event r) (.payload i event r')
  | dispatch (i : Nat) (d : Dispatcher) (live : LiveStore) (event : CallEvent)
    {r r' : Option Json} (hr : r'.isSome = r.isSome) :
    SameOutline (.dispatch i d live event r) (.dispatch i d live event r')
  | insert (h : MetadataHandle) (key : String) (value : Json) :
    SameOutline (.insert h key value) (.insert h key value)

theorem CallHook.apply_congr {a b : CallContext} (h : a.SameOutline b) {k k' : CallHook}
    (hk : k.SameOutline k') (scene : CallScene) :
    (k.apply ⟨a, scene⟩).context.SameOutline (k'.apply ⟨b, scene⟩).context ∧
      (k'.apply ⟨b, scene⟩).scene = (k.apply ⟨a, scene⟩).scene ∧
      k'.handed ⟨b, scene⟩ = k.handed ⟨a, scene⟩ ∧
      k'.reports ⟨b, scene⟩ = k.reports ⟨a, scene⟩ := by
  cases hk with
  | preCall input input' key key' model args args' =>
    obtain ⟨hcall, hscene⟩ :=
      CallContext.preCall_congr h input input' key key' model args args' scene
    exact ⟨hcall, hscene, rfl, rfl⟩
  | postCall text text' => exact ⟨h.answered _ _, rfl, rfl, rfl⟩
  | success d live now hr =>
    have hended := h.ended (some now)
    have hdispatch := CallContext.dispatch_congr hended d live .success hr scene
    exact ⟨hended, congrArg Prod.snd hdispatch,
      congrArg (fun p => [p]) (CallContext.payload_congr hended .success hr),
      congrArg (fun x : DispatchReport × CallScene => [x.1]) hdispatch⟩
  | failure d live now error =>
    have htext := congrArg (fun p : Policy => some (p.redactor.redact error)) h.policy
    have hended := (h.excepted htext).ended (some now)
    have hnone : (none : Option Json).isSome = (none : Option Json).isSome := rfl
    have hdispatch := CallContext.dispatch_congr hended d live .failure hnone scene
    exact ⟨hended, congrArg Prod.snd hdispatch,
      congrArg (fun p => [p]) (CallContext.payload_congr hended .failure hnone),
      congrArg (fun x : DispatchReport × CallScene => [x.1]) hdispatch⟩

namespace Session

/-- Two sessions that look the same from outside: equal metadata and journals, equal payloads
and reports so far, and calls that differ in content only. -/
structure SameSight (s t : Session) : Prop where
  calls : ∀ i, (s.calls i).SameOutline (t.calls i)
  scene : t.scene = s.scene
  handed : t.handed = s.handed
  reports : t.reports = s.reports

theorem update_congr {calls calls' : Nat → CallContext}
    (h : ∀ j, (calls j).SameOutline (calls' j)) {a b : CallContext} (hcall : a.SameOutline b)
    (i j : Nat) : (Function.update calls i a j).SameOutline (Function.update calls' i b j) := by
  by_cases hj : j = i
  · subst hj
    simp only [Function.update_self]
    exact hcall
  · simp only [Function.update_of_ne hj]
    exact h j

theorem SameSight.apply {s t : Session} (h : s.SameSight t) {e e' : SessionStep}
    (he : e.SameOutline e') : (e.apply s).SameSight (e'.apply t) := by
  obtain ⟨tcalls, tscene, thanded, treports⟩ := t
  obtain ⟨hcalls, rfl, rfl, rfl⟩ := h
  cases he with
  | hook i hh =>
    obtain ⟨hcall, hscene, hhanded, hreports⟩ := CallHook.apply_congr (hcalls i) hh s.scene
    exact ⟨update_congr hcalls hcall i, hscene, congrArg (_ ++ ·) hhanded,
      congrArg (_ ++ ·) hreports⟩
  | payload i event hr =>
    have hpayload := CallContext.payload_congr (hcalls i) event hr
    exact ⟨hcalls, rfl, congrArg (fun p => s.handed ++ [p]) hpayload, rfl⟩
  | dispatch i d live event hr =>
    have hpayload := CallContext.payload_congr (hcalls i) event hr
    have hdispatch := CallContext.dispatch_congr (hcalls i) d live event hr s.scene
    exact ⟨hcalls, congrArg Prod.snd hdispatch, congrArg (fun p => s.handed ++ [p]) hpayload,
      congrArg (fun x : DispatchReport × CallScene => s.reports ++ [x.1]) hdispatch⟩
  | insert handle key value => exact ⟨hcalls, rfl, rfl, rfl⟩

theorem SameSight.run {s t : Session} (h : s.SameSight t) {steps steps' : List SessionStep}
    (hsteps : List.Forall₂ SessionStep.SameOutline steps steps') :
    (s.run steps).SameSight (t.run steps') := by
  induction hsteps generalizing s t with
  | nil => exact h
  | cons he _ ih =>
    rw [run_cons, run_cons]
    exact ih (h.apply he)

/-- Two runs of the same steps, on calls whose messages are suppressed, leave the same metadata
and the same journal, hand out the same payloads and report the same, whatever the content. -/
theorem run_same_sight {calls calls' : Nat → CallContext}
    (hcalls : ∀ i, (calls i).SameOutline (calls' i)) (scene : CallScene)
    {steps steps' : List SessionStep} (hsteps : List.Forall₂ SessionStep.SameOutline steps steps') :
    let s := run { calls, scene } steps
    let t := run { calls := calls', scene } steps'
    t.scene.store = s.scene.store ∧ t.scene.journal = s.scene.journal ∧ t.handed = s.handed ∧
      t.reports = s.reports ∧
      ∀ i, (t.calls i).mapping t.scene.store = (s.calls i).mapping s.scene.store := by
  have hstart : SameSight { calls, scene } { calls := calls', scene } := ⟨hcalls, rfl, rfl, rfl⟩
  have hend := hstart.run hsteps
  refine ⟨congrArg CallScene.store hend.scene, congrArg CallScene.journal hend.scene, hend.handed,
    hend.reports, fun i => ?_⟩
  rw [CallContext.mapping_congr (hend.calls i), hend.scene]

/-- A backend that accepts everything, and log lines beside it. -/
def watching : Dispatcher :=
  { CallState.recording with
    adapters := Adapter.tracing Redactor.builtin :: CallState.recording.adapters }

/-- All kinds of steps, with the same text for every content. -/
def muffledSteps (text : String) : List SessionStep :=
  [.hook 0 (.preCall (.string text) none "" { body := .string text }),
    .insert ⟨0⟩ "user" (.string "anna"), .hook 0 (.postCall text),
    .hook 0 (.success watching {} ⟨0, 0, 0⟩ (some (.string text))),
    .payload 0 .failure (some (.string text)), .dispatch 0 watching {} .preCall none]

def muffledCall (text : String) : CallContext :=
  { CallState.asking text with policy := Policy.suppressing }

def muffled (text : String) : Session :=
  run { calls := fun _ => muffledCall text } (muffledSteps text)

theorem muffled_same_sight :
    (muffled "yes").handed.length = 3 ∧ (muffled "yes").reports.length = 2 ∧
      (backendCalls (muffled "yes").scene.journal).length = 2 ∧
      (muffled "sk-abcdefgh").handed = (muffled "yes").handed ∧
      (muffled "sk-abcdefgh").scene.journal = (muffled "yes").scene.journal := by
  have hcall : (muffledCall "yes").SameOutline (muffledCall "sk-abcdefgh") :=
    ⟨rfl, rfl, rfl, rfl, rfl, rfl, rfl, rfl, rfl, rfl, rfl, rfl, rfl⟩
  have hsteps : List.Forall₂ SessionStep.SameOutline (muffledSteps "yes")
      (muffledSteps "sk-abcdefgh") :=
    .cons (.hook 0 (.preCall _ _ _ _ _ _ _)) (.cons (.insert _ _ _)
      (.cons (.hook 0 (.postCall _ _)) (.cons (.hook 0 (.success _ _ _ rfl))
        (.cons (.payload 0 _ rfl) (.cons (.dispatch 0 _ _ _ rfl) .nil)))))
  obtain ⟨-, hjournal, hhanded, -, -⟩ := run_same_sight (fun _ => hcall) {} hsteps
  exact ⟨by decide +kernel, by decide +kernel, by decide +kernel, hhanded, hjournal⟩

end Session
end CallScribe
