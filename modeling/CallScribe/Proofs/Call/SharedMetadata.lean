import CallScribe.Proofs.Call.Suppression

/-!
# CallScribe.Proofs.Call.SharedMetadata

Metadata mappings that several calls share.

* `CallContext.Becomes`: the later state of a call, which keeps the handle it has.
* `CallContext.preCall_read`: what the hook before a call does to every mapping.
* `SessionStep.captured?`, `SessionStep.inserted?`: the values that a step puts into a mapping.
* `Session.Rooted`: the handles that a run uses lead to mappings.
* `SessionStep.apply_get?`, `Session.run_get?`: one step and a whole run, key by key.
* `Session.run_metadata`: who writes which key, and which handle hooks and payloads use.
-/

namespace CallScribe

namespace CallContext

/-- The later state of a call: what no hook changes is the same, and a handle is kept. -/
structure Becomes (a b : CallContext) : Prop where
  same : SameCall a b
  metadata : ∀ h, a.metadata = some h → b.metadata = some h

namespace Becomes

theorem refl (c : CallContext) : Becomes c c := ⟨SameCall.refl c, fun _ h => h⟩

theorem trans {a b c : CallContext} (h : Becomes a b) (h' : Becomes b c) : Becomes a c :=
  ⟨h.same.trans h'.same, fun m hm => h'.metadata m (h.metadata m hm)⟩

end Becomes

variable (c : CallContext) (input : Json) (apiKey : Option String) (model : String)
  (args : RequestArgs) (scene : CallScene)

theorem preCall_metadata : (c.preCall input apiKey model args scene).1.metadata =
    some (c.details.params.ensureMetadata scene.store).1 := by
  have hhandle := (c.details.params.ensureMetadata_read scene.store).1
  unfold preCall ensureMetadata
  generalize c.details.params.ensureMetadata scene.store = e at hhandle
  obtain ⟨h, p, store⟩ := e
  dsimp only
  split <;> exact hhandle

theorem preCall_becomes : c.Becomes (c.preCall input apiKey model args scene).1 := by
  refine ⟨c.preCall_same input apiKey model args scene, fun h hc => ?_⟩
  rw [preCall_metadata]
  rcases c.details.params.ensureMetadata_handle scene.store with hhandle | ⟨hnone, -⟩
  · exact hhandle.symm.trans hc
  · cases hnone.symm.trans hc

/-- The call has a handle then, and one that led nowhere before if it had none. -/
theorem preCall_attaches :
    ∃ h, (c.preCall input apiKey model args scene).1.metadata = some h ∧
      (c.metadata = none → ¬scene.store.Holds h) := by
  refine ⟨_, c.preCall_metadata input apiKey model args scene, fun hnone => ?_⟩
  rcases c.details.params.ensureMetadata_handle scene.store with hhandle | ⟨-, hfresh⟩
  · cases hnone.symm.trans hhandle
  · exact hfresh

theorem preCall_store : (c.preCall input apiKey model args scene).2.store =
    let (h, _, store) := c.details.params.ensureMetadata scene.store
    if c.captures then (store.setRawRequest h (c.policy.scrub args.command)).2 else store := by
  unfold preCall ensureMetadata
  generalize c.details.params.ensureMetadata scene.store = e
  obtain ⟨h, p, store⟩ := e
  cases hcap : c.captures <;> simp [withParams, hcap, CallScene.write]

/-- Only the mapping of a call with capture changes, and only under the reserved key. -/
theorem preCall_read (hrooted : ∀ h, c.metadata = some h → scene.store.Holds h)
    (h : MetadataHandle) : (c.preCall input apiKey model args scene).2.store.read h =
      if (c.preCall input apiKey model args scene).1.metadata = some h ∧ c.captures = true then
        (scene.store.read h).insert rawRequestKey (.string (c.policy.scrub args.command))
      else scene.store.read h := by
  have hholds := CallParams.ensureMetadata_holds hrooted
  have hread := c.details.params.ensureMetadata_read_any scene.store h
  rw [preCall_store, preCall_metadata]
  generalize c.details.params.ensureMetadata scene.store = e at hholds hread
  obtain ⟨h', p, store⟩ := e
  dsimp only at hholds hread ⊢
  cases hcap : c.captures with
  | false => simpa using hread
  | true =>
    by_cases hh : h' = h
    · subst hh
      simp only [if_true, and_self, MetadataStore.setRawRequest]
      rw [MetadataStore.read_insert hholds, hread]
    · have hne : some h' ≠ some h := fun heq => hh (Option.some.inj heq)
      simp only [if_true, hne, false_and, if_false, MetadataStore.setRawRequest]
      rw [MetadataStore.read_insert_of_ne (Ne.symm hh), hread]

end CallContext

namespace CallHook

theorem apply_becomes (h : CallHook) (st : CallState) :
    st.context.Becomes (h.apply st).context := by
  cases h with
  | preCall input apiKey model args =>
    exact st.context.preCall_becomes input apiKey model args st.scene
  | postCall text => exact ⟨apply_same (.postCall text) st, fun _ h => h⟩
  | success d live now response =>
    exact ⟨apply_same (.success d live now response) st, fun _ h => h⟩
  | failure d live now error => exact ⟨apply_same (.failure d live now error) st, fun _ h => h⟩

/-- All hooks but the one before the call leave the mappings to the adapters. -/
theorem apply_store {h : CallHook} (hkeeps : ∀ a ∈ h.adapters, a.Keeps) (st : CallState) :
    (h.apply st).scene.store = st.scene.store ∨
      ∃ input apiKey model args, h = .preCall input apiKey model args := by
  cases h with
  | preCall input apiKey model args => exact .inr ⟨input, apiKey, model, args, rfl⟩
  | postCall text => exact .inl rfl
  | success d live now response =>
    exact .inl (Dispatcher.dispatch_store hkeeps live _ st.scene.store)
  | failure d live now error =>
    exact .inl (Dispatcher.dispatch_store hkeeps live _ st.scene.store)

theorem handed_metadata {h : CallHook} {st : CallState} {p : Payload} (hp : p ∈ h.handed st) :
    p.params.metadata = st.context.metadata := by
  cases h with
  | preCall input apiKey model args => cases hp
  | postCall text => cases hp
  | success d live now response =>
    obtain rfl := List.mem_singleton.mp hp
    rfl
  | failure d live now error =>
    obtain rfl := List.mem_singleton.mp hp
    rfl

end CallHook

/-- One of the two adapters for production: log lines, or records of calls. -/
def Adapter.Own (a : Adapter) : Prop := (∃ r, a = Adapter.tracing r) ∨ ∃ r, a = Adapter.langfuse r

theorem Adapter.Own.keeps {a : Adapter} (h : a.Own) : a.Keeps := by
  rcases h with ⟨r, rfl⟩ | ⟨r, rfl⟩
  · exact fun _ _ => rfl
  · exact langfuse_keeps r

namespace SessionStep

/-- The adapters that the step tells about its event. -/
def adapters : SessionStep → List Adapter
  | .hook _ h => h.adapters
  | .dispatch _ d .. => d.adapters
  | .payload .. | .insert .. => []

/-- The call that acts. -/
def call? : SessionStep → Option Nat
  | .hook i _ | .payload i .. | .dispatch i .. => some i
  | .insert .. => none

/-- The handles that the step uses lead to mappings. -/
def Rooted (e : SessionStep) (s : Session) : Prop :=
  match e with
  | .insert h _ _ => s.scene.store.Holds h
  | .hook i _ | .payload i .. | .dispatch i .. =>
    ∀ h, (s.calls i).metadata = some h → s.scene.store.Holds h

/-- The value that somebody else puts into the mapping under the key. -/
def inserted? (h : MetadataHandle) (key : String) : SessionStep → Option Json
  | .insert h' key' value => if h' = h ∧ key' = key then some value else none
  | _ => none

/-- The request that a call with capture puts into its mapping. -/
def captured? (calls : Nat → CallContext) (h : MetadataHandle) : SessionStep → Option Json
  | .hook i (.preCall _ _ _ args) =>
    if (calls i).metadata = some h ∧ (calls i).captures = true then
      some (.string ((calls i).policy.scrub args.command))
    else none
  | _ => none

/-- The value that the step puts into the mapping under the reserved key. -/
def reserved? (calls : Nat → CallContext) (h : MetadataHandle) (e : SessionStep) : Option Json :=
  (e.captured? calls h).or (e.inserted? h rawRequestKey)

/-- The value that the step puts into the mapping under the key. -/
def written? (calls : Nat → CallContext) (h : MetadataHandle) (key : String) (e : SessionStep) :
    Option Json :=
  if key = rawRequestKey then e.reserved? calls h else e.inserted? h key

variable {e : SessionStep} {s : Session} {calls : Nat → CallContext}

theorem apply_becomes (e : SessionStep) (s : Session) (i : Nat) :
    (s.calls i).Becomes ((e.apply s).calls i) := by
  cases e with
  | hook j h =>
    have hcall := h.apply_becomes ⟨s.calls j, s.scene⟩
    by_cases hij : i = j
    · subst hij
      simpa only [apply, Function.update_self] using hcall
    · simp only [apply, Function.update_of_ne hij]
      exact .refl _
  | payload j event response => exact .refl _
  | dispatch j d live event response => exact .refl _
  | insert h key value => exact .refl _

theorem written?_of_quiet {h : MetadataHandle} {key : String} (hins : e.inserted? h key = none)
    (hcap : e.captured? calls h = none) : e.written? calls h key = none := by
  unfold written? reserved?
  split
  · next hkey =>
    subst hkey
    rw [hcap, hins]
    rfl
  · exact hins

theorem insert_written? (calls : Nat → CallContext) (h h' : MetadataHandle) (key key' : String)
    (value : Json) : (SessionStep.insert h' key' value).written? calls h key =
      if h' = h ∧ key' = key then some value else none := by
  by_cases hkey : key = rawRequestKey
  · simp [written?, reserved?, captured?, inserted?, hkey]
  · simp [written?, inserted?, hkey]

theorem preCall_written? (calls : Nat → CallContext) (i : Nat) (input : Json)
    (apiKey : Option String) (model : String) (args : RequestArgs) (h : MetadataHandle)
    (key : String) : (SessionStep.hook i (.preCall input apiKey model args)).written? calls h key =
      if key = rawRequestKey ∧ (calls i).metadata = some h ∧ (calls i).captures = true then
        some (.string ((calls i).policy.scrub args.command))
      else none := by
  by_cases hkey : key = rawRequestKey
  · simp [written?, reserved?, captured?, inserted?, hkey]
  · simp [written?, inserted?, hkey]

/-- One step, key by key. The calls may be looked at right after it or later. -/
theorem apply_get? (hkeeps : ∀ a ∈ e.adapters, a.Keeps) (hrooted : e.Rooted s)
    (hcalls : ∀ i, ((e.apply s).calls i).Becomes (calls i)) (h : MetadataHandle) (key : String) :
    ((e.apply s).scene.store.read h).get? key =
      (e.written? calls h key).or ((s.scene.store.read h).get? key) := by
  cases e with
  | payload i event response =>
    rw [written?_of_quiet rfl rfl]
    rfl
  | dispatch i d live event response =>
    have hstore : ((SessionStep.dispatch i d live event response).apply s).scene.store =
        s.scene.store := Dispatcher.dispatch_store hkeeps live _ s.scene.store
    rw [written?_of_quiet rfl rfl, hstore]
    rfl
  | insert h' key' value =>
    have hholds : s.scene.store.Holds h' := hrooted
    rw [insert_written?]
    simp only [apply]
    by_cases hh : h' = h
    · subst hh
      rw [MetadataStore.read_insert hholds]
      by_cases hkey : key' = key
      · subst hkey
        simp [Fields.get?_insert_self]
      · simp [hkey, Fields.get?_insert_of_ne (Ne.symm hkey)]
    · simp [hh, MetadataStore.read_insert_of_ne (Ne.symm hh)]
  | hook i k =>
    cases k with
    | preCall input apiKey model args =>
      have hread := (s.calls i).preCall_read input apiKey model args s.scene hrooted h
      have hsame := (s.calls i).preCall_same input apiKey model args s.scene
      obtain ⟨h', hhandle⟩ : ∃ h', ((s.calls i).preCall input apiKey model args s.scene).1.metadata
          = some h' := ⟨_, (s.calls i).preCall_metadata input apiKey model args s.scene⟩
      have hcall := hcalls i
      simp only [apply, CallHook.apply, Function.update_self] at hcall
      -- The call keeps the handle that the hook has used.
      rw [hhandle] at hread
      rw [preCall_written?, hcall.metadata _ hhandle, hcall.same.captures, hcall.same.policy,
        hsame.captures, hsame.policy]
      simp only [apply, CallHook.apply]
      rw [hread]
      by_cases hcap : some h' = some h ∧ (s.calls i).captures = true
      · by_cases hkey : key = rawRequestKey
        · subst hkey
          rw [if_pos hcap, if_pos ⟨rfl, hcap⟩, Fields.get?_insert_self]
          rfl
        · rw [if_pos hcap, if_neg (fun hw => hkey hw.1), Fields.get?_insert_of_ne hkey]
          rfl
      · rw [if_neg hcap, if_neg (fun hw => hcap hw.2)]
        rfl
    | postCall text =>
      rw [written?_of_quiet rfl rfl]
      rfl
    | success d live now response =>
      rw [written?_of_quiet rfl rfl]
      exact congrArg (fun store : MetadataStore => (store.read h).get? key)
        (Dispatcher.dispatch_store hkeeps live _ s.scene.store)
    | failure d live now error =>
      rw [written?_of_quiet rfl rfl]
      exact congrArg (fun store : MetadataStore => (store.read h).get? key)
        (Dispatcher.dispatch_store hkeeps live _ s.scene.store)

/-- A call without capture changes no mapping. -/
theorem apply_read_of_uncaptured (hkeeps : ∀ a ∈ e.adapters, a.Keeps) (hrooted : e.Rooted s)
    {i : Nat} (hcall : e.call? = some i) (hcap : (s.calls i).captures = false)
    (h : MetadataHandle) : (e.apply s).scene.store.read h = s.scene.store.read h := by
  cases e with
  | insert h' key value => cases hcall
  | payload j event response => rfl
  | dispatch j d live event response =>
    exact congrArg (fun store : MetadataStore => store.read h)
      (Dispatcher.dispatch_store hkeeps live _ s.scene.store)
  | hook j k =>
    cases hcall
    rcases k.apply_store hkeeps ⟨s.calls i, s.scene⟩ with hstore | ⟨input, apiKey, model, args, rfl⟩
    · exact congrArg (fun store : MetadataStore => store.read h) hstore
    · have hread := (s.calls i).preCall_read input apiKey model args s.scene hrooted h
      rwa [hcap, if_neg (fun hw => Bool.false_ne_true hw.2)] at hread

/-- The payloads that the step hands out. -/
def handed (e : SessionStep) (s : Session) : List Payload :=
  match e with
  | .hook i h => h.handed ⟨s.calls i, s.scene⟩
  | .payload i event response | .dispatch i _ _ event response =>
    [(s.calls i).payload event response]
  | .insert .. => []

theorem apply_handed (e : SessionStep) (s : Session) :
    (e.apply s).handed = s.handed ++ e.handed s := by
  cases e with
  | insert h key value => exact (List.append_nil _).symm
  | hook i h => rfl
  | payload i event response => rfl
  | dispatch i d live event response => rfl

theorem handed_metadata {p : Payload} (hp : p ∈ e.handed s) :
    ∃ i, e.call? = some i ∧ p.params.metadata = (s.calls i).metadata := by
  cases e with
  | insert h key value => cases hp
  | hook i h => exact ⟨i, rfl, CallHook.handed_metadata hp⟩
  | payload i event response =>
    obtain rfl := List.mem_singleton.mp hp
    exact ⟨i, rfl, rfl⟩
  | dispatch i d live event response =>
    obtain rfl := List.mem_singleton.mp hp
    exact ⟨i, rfl, rfl⟩

/-- How a step from `s`, in a run that ends in `t`, treats handles: calls keep those they have,
payloads carry that of the call, the hook before a call attaches a mapping of its own if there is
none, and without capture no mapping changes. -/
structure Frames (e : SessionStep) (s t : Session) : Prop where
  keeps : ∀ i h, (s.calls i).metadata = some h → (t.calls i).metadata = some h
  hands : ∃ new, (e.apply s).handed = s.handed ++ new ∧
    ∀ p ∈ new, ∃ i, e.call? = some i ∧ p.params.metadata = (s.calls i).metadata
  attaches : ∀ i input apiKey model args, e = .hook i (.preCall input apiKey model args) →
    ∃ h, ((e.apply s).calls i).metadata = some h ∧
      ((s.calls i).metadata = none → ¬s.scene.store.Holds h)
  uncaptured : ∀ i, e.call? = some i → (s.calls i).captures = false →
    ∀ h, (e.apply s).scene.store.read h = s.scene.store.read h

theorem frames {t : Session} (hkeeps : ∀ a ∈ e.adapters, a.Keeps) (hrooted : e.Rooted s)
    (hcalls : ∀ i, (s.calls i).Becomes (t.calls i)) : e.Frames s t where
  keeps i h hs := (hcalls i).metadata h hs
  hands := ⟨e.handed s, e.apply_handed s, fun _ hp => handed_metadata hp⟩
  attaches := by
    intro i input apiKey model args he
    subst he
    obtain ⟨h, hhandle, hfresh⟩ := (s.calls i).preCall_attaches input apiKey model args s.scene
    refine ⟨h, ?_, hfresh⟩
    simpa only [apply, CallHook.apply, Function.update_self] using hhandle
  uncaptured _ hcall hcap h := apply_read_of_uncaptured hkeeps hrooted hcall hcap h

end SessionStep

namespace Session

/-- The handles that the steps use lead to mappings when their turn comes. -/
def Rooted (s : Session) : List SessionStep → Prop
  | [] => True
  | e :: steps => e.Rooted s ∧ Rooted (e.apply s) steps

theorem run_append (s : Session) (steps steps' : List SessionStep) :
    s.run (steps ++ steps') = (s.run steps).run steps' := List.foldl_append

theorem rooted_append {s : Session} {steps steps' : List SessionStep} :
    s.Rooted (steps ++ steps') ↔ s.Rooted steps ∧ (s.run steps).Rooted steps' := by
  induction steps generalizing s with
  | nil => exact ⟨fun h => ⟨trivial, h⟩, fun h => h.2⟩
  | cons e steps ih =>
    rw [List.cons_append, Rooted, Rooted, ih, run_cons, and_assoc]

theorem run_becomes (s : Session) (steps : List SessionStep) (i : Nat) :
    (s.calls i).Becomes ((s.run steps).calls i) := by
  induction steps generalizing s with
  | nil => exact .refl _
  | cons e steps ih => exact (e.apply_becomes s i).trans (ih (e.apply s))

/-- A whole run, key by key: the last value that was put there, or else the initial one. -/
theorem run_get? {s : Session} {steps : List SessionStep}
    (hkeeps : ∀ e ∈ steps, ∀ a ∈ e.adapters, a.Keeps) (hrooted : s.Rooted steps)
    (h : MetadataHandle) (key : String) :
    ((s.run steps).scene.store.read h).get? key =
      (steps.filterMap (SessionStep.written? (s.run steps).calls h key)).getLast?.or
        ((s.scene.store.read h).get? key) := by
  induction steps generalizing s with
  | nil => rfl
  | cons e steps ih =>
    obtain ⟨hstep, hrest⟩ := hrooted
    obtain ⟨hkeep, hkeeps⟩ := List.forall_mem_cons.mp hkeeps
    have hget := e.apply_get? hkeep hstep (run_becomes (e.apply s) steps) h key
    rw [run_cons, ih hkeeps hrest, hget, List.filterMap_cons]
    cases e.written? ((e.apply s).run steps).calls h key with
    | none => rfl
    | some v =>
      dsimp only
      rw [List.getLast?_cons]
      cases (steps.filterMap _).getLast? <;> rfl

/-- Whatever calls share a mapping, and in whatever order their hooks run: only somebody else
writes a key other than the reserved one, and under that stands the last request that was
captured for this mapping, or what somebody else has put there since. Every step treats the
handles as it should. -/
theorem run_metadata {s : Session} {steps : List SessionStep}
    (hown : ∀ e ∈ steps, ∀ a ∈ e.adapters, a.Own) (hrooted : s.Rooted steps) :
    let t := s.run steps
    (∀ h key, key ≠ rawRequestKey → (t.scene.store.read h).get? key =
      (steps.filterMap (SessionStep.inserted? h key)).getLast?.or
        ((s.scene.store.read h).get? key)) ∧
    (∀ h, (t.scene.store.read h).get? rawRequestKey =
      (steps.filterMap (SessionStep.reserved? t.calls h)).getLast?.or
        ((s.scene.store.read h).get? rawRequestKey)) ∧
    (∀ i, SameCall (s.calls i) (t.calls i)) ∧
    ∀ before e after, steps = before ++ e :: after → e.Frames (s.run before) t := by
  have hkeeps : ∀ e ∈ steps, ∀ a ∈ e.adapters, a.Keeps :=
    fun e he a ha => (hown e he a ha).keeps
  refine ⟨fun h key hkey => ?_, fun h => ?_, fun i => (run_becomes s steps i).same, ?_⟩
  · rw [run_get? hkeeps hrooted h key]
    have hwritten : SessionStep.written? (s.run steps).calls h key =
        SessionStep.inserted? h key := funext fun e => if_neg hkey
    rw [hwritten]
  · rw [run_get? hkeeps hrooted h rawRequestKey]
    have hwritten : SessionStep.written? (s.run steps).calls h rawRequestKey =
        SessionStep.reserved? (s.run steps).calls h := funext fun e => if_pos rfl
    rw [hwritten]
  · intro before e after hsteps
    subst hsteps
    have he : e ∈ before ++ e :: after := List.mem_append_right _ List.mem_cons_self
    rw [run_append]
    exact SessionStep.frames (hkeeps e he) (rooted_append.mp hrooted).2.1
      (run_becomes (s.run before) (e :: after))

/-- A call with capture, which has no mapping yet, one without capture and one with capture, which
share the mapping that the first one attaches. -/
def sharing : Session where
  calls i := { CallState.asking "hello" with
    captures := decide (i ≠ 1)
    details := { params := { metadata := if i = 0 then none else some ⟨0⟩ } } }

/-- Requests of all three calls, with values of somebody else before, between and after them. -/
def sharingSteps : List SessionStep :=
  [.hook 0 (.preCall .null none "" { body := .string "one" }),
    .insert ⟨0⟩ "user" (.string "anna"), .insert ⟨0⟩ rawRequestKey (.bool true),
    .hook 1 (.preCall .null none "" { body := .string "two" }),
    .hook 0 (.success watching {} ⟨0, 0, 0⟩ none),
    .hook 2 (.preCall .null none "" { body := .string "three" }),
    .insert ⟨0⟩ "user" (.string "berta"), .payload 1 .failure none,
    .dispatch 2 watching {} .preCall none]

theorem watching_own {a : Adapter} (ha : a ∈ watching.adapters) : a.Own := by
  rcases List.mem_cons.mp ha with rfl | ha
  · exact .inl ⟨_, rfl⟩
  · exact .inr ⟨_, List.mem_singleton.mp ha⟩

theorem sharing_metadata :
    ((sharing.run sharingSteps).scene.store.read ⟨0⟩).get? "user" = some (.string "berta") ∧
      ((sharing.run sharingSteps).scene.store.read ⟨0⟩).get? rawRequestKey =
        some (.string (Policy.standard.scrub ({ body := .string "three" } : RequestArgs).command)) ∧
      ((sharing.run sharingSteps).calls 0).metadata = some ⟨0⟩ := by
  have hown : ∀ e ∈ sharingSteps, ∀ a ∈ e.adapters, a.Own := by
    intro e he a ha
    have hwatching : a ∈ watching.adapters := by
      revert e
      simp [sharingSteps, SessionStep.adapters, CallHook.adapters]
    exact watching_own hwatching
  have hrooted : sharing.Rooted sharingSteps := by
    have hfirst : ∀ h, (sharing.calls 0).metadata = some h → sharing.scene.store.Holds h := by
      intro h hh
      cases hh
    refine ⟨hfirst, Nat.zero_lt_one, Nat.zero_lt_one, ?_, ?_, ?_, Nat.zero_lt_one, ?_, ?_, trivial⟩
    -- The mapping is there since the first step.
    all_goals
      intro h hh
      cases hh
      exact Nat.zero_lt_one
  obtain ⟨hkeys, hreserved, -, hframes⟩ := run_metadata hown hrooted
  refine ⟨?_, ?_, ?_⟩
  · rw [hkeys ⟨0⟩ "user" (by decide)]
    rfl
  · rw [hreserved ⟨0⟩]
    rfl
  · have hfirst := hframes (sharingSteps.take 1) _ _ rfl
    exact hfirst.keeps 0 ⟨0⟩ rfl

end Session
end CallScribe
