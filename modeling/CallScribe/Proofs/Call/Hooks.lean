import CallScribe.Call.Context
import CallScribe.Proofs.Dispatch.Calls
import CallScribe.Proofs.Metadata.Store

/-!
# CallScribe.Proofs.Call.Hooks

Runs of hooks on one call.

* `CallHook`, `CallHook.apply`: a hook with its arguments, and what it does.
* `CallState.run`: hooks one after the other; `CallState.run_induct` carries an invariant along.
* `SameCall`: what no hook changes.
* `CallContext.mapping`: the metadata of the call; `CallHook.apply_mapping` tells what a hook does
  to it as long as no adapter writes there.
-/

namespace CallScribe

/-- A hook of a call, with its arguments. -/
inductive CallHook
  | preCall (input : Json) (apiKey : Option String) (model : String) (args : RequestArgs)
  | postCall (text : String)
  | success (d : Dispatcher) (live : LiveStore) (now : Instant) (response : Option Json)
  | failure (d : Dispatcher) (live : LiveStore) (now : Instant) (error : String)

/-- A call with what its hooks have left behind so far. -/
structure CallState where
  context : CallContext
  scene : CallScene := {}

namespace CallHook

/-- The adapters that the hook tells about its event. -/
def adapters : CallHook → List Adapter
  | .preCall .. | .postCall .. => []
  | .success d .. | .failure d .. => d.adapters

def apply (h : CallHook) (st : CallState) : CallState :=
  match h with
  | .preCall input apiKey model args =>
    let (c, scene) := st.context.preCall input apiKey model args st.scene
    ⟨c, scene⟩
  | .postCall text => ⟨st.context.postCall text, st.scene⟩
  | .success d live now response =>
    let (c, _, scene) := st.context.success d live now response st.scene
    ⟨c, scene⟩
  | .failure d live now error =>
    let (c, _, scene) := st.context.failure d live now error st.scene
    ⟨c, scene⟩

end CallHook

namespace CallState

def run (st : CallState) (hooks : List CallHook) : CallState :=
  hooks.foldl (fun st h => h.apply st) st

theorem run_cons (st : CallState) (h : CallHook) (hooks : List CallHook) :
    st.run (h :: hooks) = (h.apply st).run hooks := rfl

/-- What each of the hooks preserves holds after all of them. -/
theorem run_induct {inv : CallState → Prop} {hooks : List CallHook}
    (step : ∀ h ∈ hooks, ∀ st, inv st → inv (h.apply st)) {st : CallState} (h : inv st) :
    inv (st.run hooks) := by
  induction hooks generalizing st with
  | nil => exact h
  | cons hook hooks ih =>
    rw [run_cons]
    exact ih (fun h' hh' => step h' (List.mem_cons_of_mem _ hh'))
      (step hook List.mem_cons_self st h)

end CallState

/-- The parts of a call that no hook changes. -/
structure SameCall (a b : CallContext) : Prop where
  messages : b.messages = a.messages
  callType : b.callType = a.callType
  callId : b.callId = a.callId
  stream : b.stream = a.stream
  functionId : b.functionId = a.functionId
  startTime : b.startTime = a.startTime
  captures : b.captures = a.captures
  policy : b.policy = a.policy

namespace SameCall

theorem refl (c : CallContext) : SameCall c c := ⟨rfl, rfl, rfl, rfl, rfl, rfl, rfl, rfl⟩

theorem trans {a b c : CallContext} (h : SameCall a b) (h' : SameCall b c) : SameCall a c :=
  ⟨h'.messages.trans h.messages, h'.callType.trans h.callType, h'.callId.trans h.callId,
    h'.stream.trans h.stream, h'.functionId.trans h.functionId, h'.startTime.trans h.startTime,
    h'.captures.trans h.captures, h'.policy.trans h.policy⟩

end SameCall

namespace CallContext

theorem preCall_same (c : CallContext) (input : Json) (apiKey : Option String) (model : String)
    (args : RequestArgs) (scene : CallScene) :
    SameCall c (c.preCall input apiKey model args scene).1 := by
  unfold preCall ensureMetadata
  generalize c.details.params.ensureMetadata scene.store = e
  obtain ⟨h, p, store⟩ := e
  dsimp only
  split <;> exact ⟨rfl, rfl, rfl, rfl, rfl, rfl, rfl, rfl⟩

/-- The metadata of the call, empty if it has none. -/
def mapping (c : CallContext) (s : MetadataStore) : Fields Json := c.details.params.mapping s

theorem payload_metadata (c : CallContext) (event : CallEvent) (response : Option Json)
    (s : MetadataStore) : (c.payload event response).metadata s = c.mapping s := rfl

theorem preCall_mapping (c : CallContext) (input : Json) (apiKey : Option String)
    (model : String) (args : RequestArgs) (scene : CallScene) :
    (c.preCall input apiKey model args scene).1.mapping
        (c.preCall input apiKey model args scene).2.store =
      let (h, _, store) := c.details.params.ensureMetadata scene.store
      if c.captures then (store.setRawRequest h (c.policy.scrub args.command)).2.read h
      else c.mapping scene.store := by
  obtain ⟨hhandle, hread⟩ := c.details.params.ensureMetadata_read scene.store
  unfold mapping preCall ensureMetadata
  generalize c.details.params.ensureMetadata scene.store = e at hhandle hread
  obtain ⟨h, p, store⟩ := e
  have hp : p.metadata = some h := hhandle
  cases hcap : c.captures with
  | false =>
    simp only [withParams, hcap, Bool.false_eq_true, if_false, CallScene.write]
    rw [CallParams.mapping_of_metadata hp, hread]
  | true =>
    simp only [withParams, hcap, if_true, CallScene.write]
    exact CallParams.mapping_of_metadata hp _

theorem preCall_mapping_of_holds {c : CallContext} (hcap : c.captures = true) {scene : CallScene}
    (hmeta : ∀ h, c.metadata = some h → scene.store.Holds h) (input : Json)
    (apiKey : Option String) (model : String) (args : RequestArgs) :
    (c.preCall input apiKey model args scene).1.mapping
        (c.preCall input apiKey model args scene).2.store =
      (c.mapping scene.store).insert rawRequestKey (.string (c.policy.scrub args.command)) := by
  have hholds := CallParams.ensureMetadata_holds hmeta
  have hread := (c.details.params.ensureMetadata_read scene.store).2
  rw [preCall_mapping]
  dsimp only
  rw [if_pos hcap, MetadataStore.setRawRequest, MetadataStore.read_insert hholds, hread, mapping]

theorem preCall_mapping_cases (c : CallContext) (input : Json) (apiKey : Option String)
    (model : String) (args : RequestArgs) (scene : CallScene) :
    (c.preCall input apiKey model args scene).1.mapping
        (c.preCall input apiKey model args scene).2.store = c.mapping scene.store ∨
      (c.preCall input apiKey model args scene).1.mapping
        (c.preCall input apiKey model args scene).2.store =
          (c.mapping scene.store).insert rawRequestKey (.string (c.policy.scrub args.command)) := by
  have hread := (c.details.params.ensureMetadata_read scene.store).2
  rw [preCall_mapping]
  dsimp only
  split
  · rw [MetadataStore.setRawRequest]
    by_cases hh : (c.details.params.ensureMetadata scene.store).2.2.Holds
        (c.details.params.ensureMetadata scene.store).1
    · right
      rw [MetadataStore.read_insert hh, hread, mapping]
    · left
      rw [MetadataStore.read_insert_of_not_holds hh, hread, mapping]
  · exact .inl rfl

end CallContext

namespace CallHook

theorem apply_same (h : CallHook) (st : CallState) : SameCall st.context (h.apply st).context := by
  cases h with
  | preCall input apiKey model args =>
    exact st.context.preCall_same input apiKey model args st.scene
  | postCall text => exact ⟨rfl, rfl, rfl, rfl, rfl, rfl, rfl, rfl⟩
  | success d live now response => exact ⟨rfl, rfl, rfl, rfl, rfl, rfl, rfl, rfl⟩
  | failure d live now error => exact ⟨rfl, rfl, rfl, rfl, rfl, rfl, rfl, rfl⟩

/-- As long as no adapter writes there, the metadata stays as it is, or gets the request that was
captured before the call. -/
theorem apply_mapping {h : CallHook} (hkeeps : ∀ a ∈ h.adapters, a.Keeps) (st : CallState) :
    (h.apply st).context.mapping (h.apply st).scene.store = st.context.mapping st.scene.store ∨
      ∃ input apiKey model args, h = .preCall input apiKey model args ∧
        (h.apply st).context.mapping (h.apply st).scene.store =
          (st.context.mapping st.scene.store).insert rawRequestKey
            (.string (st.context.policy.scrub args.command)) := by
  cases h with
  | preCall input apiKey model args =>
    exact (st.context.preCall_mapping_cases input apiKey model args st.scene).imp_right
      fun hmap => ⟨input, apiKey, model, args, rfl, hmap⟩
  | postCall text => exact .inl rfl
  | success d live now response =>
    left
    exact congrArg st.context.mapping (Dispatcher.dispatch_store hkeeps live _ st.scene.store)
  | failure d live now error =>
    left
    exact congrArg st.context.mapping (Dispatcher.dispatch_store hkeeps live _ st.scene.store)

end CallHook
end CallScribe
