import CallScribe.Pattern.Compiler
import CallScribe.Proofs.Call.Hooks
import CallScribe.Proofs.Dispatch.Flight

/-!
# CallScribe.Proofs.Config.Live

Live settings over whole runs of a process.

* `LiveProcess`: live settings, the calls made from them, and the dispatches under way.
* `LiveStep`: settings are swapped, a call is made, a hook runs, a dispatch begins or goes on.
* `LiveStore.Shows`: everything that can be asked about live settings tells of the same ones.
* `LiveProcess.run_live`, `.run_kept`: what a run does to live settings, to calls and to
  dispatches.
* `LiveProcess.run_coherent`: live settings are always those of the last accepted swap; calls and
  dispatches keep those that they began with.
-/

namespace CallScribe

def LoggingConfig.accepted [PatternCompiler] (c : LoggingConfig) : Bool :=
  match LiveConfig.compile c with
  | .ok _ => true
  | .error _ => false

/-- The settings of the last swap that was not refused. -/
def settled [PatternCompiler] (first : LoggingConfig) (cs : List LoggingConfig) : LoggingConfig :=
  (cs.filter LoggingConfig.accepted).getLastD first

theorem settled_cons [PatternCompiler] (first c : LoggingConfig) (cs : List LoggingConfig) :
    settled first (c :: cs) = settled (if c.accepted then c else first) cs := by
  unfold settled
  cases hc : c.accepted with
  | true => rw [List.filter_cons_of_pos hc, List.getLastD_cons, if_pos rfl]
  | false => rw [List.filter_cons_of_neg (by simp [hc]), if_neg (by simp)]

namespace LiveConfig

variable [PatternCompiler] {c : LoggingConfig}

theorem compile_eq_ok {l : LiveConfig} (h : compile c = .ok l) :
    l.config = c ∧ buildRedactor c.redaction = .ok l.redactor := by
  unfold compile at h
  split at h
  · rename_i r hr
    cases h
    exact ⟨rfl, hr⟩
  · cases h

theorem compile_of_build {r : Redactor} (h : buildRedactor c.redaction = .ok r) :
    compile c = .ok ⟨c, r⟩ := by rw [compile, h]

theorem swap_of_compile {next : LiveConfig} (h : compile c = .ok next) (l : LiveConfig) :
    l.swap c = (.ok (), next) := by rw [swap, h]

theorem swap_of_refused (h : c.accepted = false) (l : LiveConfig) : (l.swap c).2 = l := by
  unfold LoggingConfig.accepted at h
  split at h
  · cases h
  · rename_i e he
    rw [swap, he]

end LiveConfig

namespace LiveStore

variable {live : LiveStore} {h : LiveHandle} {l : LiveConfig}

theorem read?_write_self (hl : live.read? h = some l) (next : LiveConfig) :
    (live.write h next).read? h = some next := by
  obtain ⟨hlen, -⟩ := List.getElem?_eq_some_iff.mp hl
  exact List.getElem?_set_self hlen

theorem read?_write_of_ne {h' : LiveHandle} (hne : h' ≠ h) (next : LiveConfig) :
    (live.write h' next).read? h = live.read? h := by
  refine List.getElem?_set_ne fun hindex => hne ?_
  cases h
  cases h'
  exact congrArg LiveHandle.mk hindex

theorem write_read (hl : live.read? h = some l) : live.write h l = live := by
  obtain ⟨hlen, rfl⟩ := List.getElem?_eq_some_iff.mp hl
  rw [write, List.set_getElem_self]

/-- Settings, redactor, policy and time limit, and the deadlines and redactors of dispatches: all
of them are those of `c`, for which `r` was built. -/
structure Shows [PatternCompiler] (live : LiveStore) (h : LiveHandle) (c : LoggingConfig)
    (r : Redactor) : Prop where
  built : buildRedactor c.redaction = .ok r
  config : (live.read? h).map LiveConfig.config = some c
  redactor : (live.read? h).map LiveConfig.redactor = some r
  policy : (live.read? h).map LiveConfig.policy = some ⟨c.policy.suppressMessages, r⟩
  timeout : (live.read? h).map LiveConfig.timeoutMillis = some c.callbacks.timeoutMillis
  settings : ∀ d : Dispatcher, d.live = some h →
    d.settings live = (Deadline.ofMillis c.callbacks.timeoutMillis, r)

theorem shows_of_compile [PatternCompiler] {c : LoggingConfig} (hl : live.read? h = some l)
    (hc : LiveConfig.compile c = .ok l) : live.Shows h c l.redactor := by
  obtain ⟨rfl, hbuilt⟩ := LiveConfig.compile_eq_ok hc
  refine ⟨hbuilt, ?_, ?_, ?_, ?_, fun d hd => ?_⟩
  · rw [hl]; rfl
  · rw [hl]; rfl
  · rw [hl]; rfl
  · rw [hl]; rfl
  · rw [Dispatcher.settings, hd, Option.bind_some, hl]
    rfl

end LiveStore

/-- What stands in a list stands in the same place of a later one, changed by `R` at most. -/
def Kept {α : Type} (R : α → α → Prop) (xs ys : List α) : Prop :=
  ∀ (i : Nat) (x : α), xs[i]? = some x → ∃ y, ys[i]? = some y ∧ R x y

namespace Kept

variable {α : Type} {R : α → α → Prop} {xs ys zs : List α}

theorem refl (hrefl : ∀ x, R x x) (xs : List α) : Kept R xs xs := fun _ x hx => ⟨x, hx, hrefl x⟩

theorem trans (htrans : ∀ {x y z}, R x y → R y z → R x z) (h : Kept R xs ys) (h' : Kept R ys zs) :
    Kept R xs zs := by
  intro i x hx
  obtain ⟨y, hy, hxy⟩ := h i x hx
  obtain ⟨z, hz, hyz⟩ := h' i y hy
  exact ⟨z, hz, htrans hxy hyz⟩

theorem append (hrefl : ∀ x, R x x) (xs more : List α) : Kept R xs (xs ++ more) := by
  intro i x hx
  obtain ⟨hi, -⟩ := List.getElem?_eq_some_iff.mp hx
  exact ⟨x, (List.getElem?_append_left hi).trans hx, hrefl x⟩

theorem set (hrefl : ∀ x, R x x) {i : Nat} {x y : α} (hx : xs[i]? = some x) (hxy : R x y) :
    Kept R xs (xs.set i y) := by
  intro j z hz
  by_cases hij : i = j
  · subst hij
    obtain ⟨hi, -⟩ := List.getElem?_eq_some_iff.mp hz
    obtain rfl := Option.some.inj (hx.symm.trans hz)
    exact ⟨y, List.getElem?_set_self hi, hxy⟩
  · exact ⟨z, (List.getElem?_set_ne hij).trans hz, hrefl z⟩

end Kept

structure LiveProcess where
  live : LiveStore
  scene : CallScene := {}
  calls : List CallContext := []
  flights : List Flight := []

/-- What can happen in a process. A hook that dispatches reads the live settings of the moment;
a dispatch that takes its time is a `start` with steps of its flight. -/
inductive LiveStep
  | swap (h : LiveHandle) (c : LoggingConfig)
  | create (h : LiveHandle) (model : String) (messages : List Message) (callType : CallType)
    (callId : String)
  | hook (i : Nat) (k : LiveStore → CallHook)
  | start (d : Dispatcher) (p : Payload)
  | fly (i : Nat) (e : FlightStep)

def LiveStep.apply [PatternCompiler] (e : LiveStep) (s : LiveProcess) : LiveProcess :=
  match e with
  | .swap h c =>
    match s.live.read? h with
    | some l => { s with live := s.live.write h (l.swap c).2 }
    | none => s
  | .create h model messages callType callId =>
    match s.live.read? h with
    | some l =>
      { s with calls := s.calls ++ [CallContext.ofLive l model messages callType callId] }
    | none => s
  | .hook i k =>
    match s.calls[i]? with
    | some c =>
      let st := (k s.live).apply ⟨c, s.scene⟩
      { s with scene := st.scene, calls := s.calls.set i st.context }
    | none => s
  | .start d p =>
    let (tasks, store) := Dispatcher.launch p d.adapters s.scene.store
    let entries := (tasks.flatMap fun t => t.run.entries).map
      (JournalEntry.within (Dispatcher.span p))
    { s with
      scene := { s.scene with store }.write entries
      flights := s.flights ++ [d.flight s.live p s.scene.store] }
  | .fly i e =>
    match s.flights[i]? with
    | some f =>
      match f.step e with
      | some g => { s with flights := s.flights.set i g }
      | none => s
    | none => s

namespace LiveProcess

section Runs

variable [PatternCompiler] {s : LiveProcess}

def run (s : LiveProcess) (steps : List LiveStep) : LiveProcess :=
  steps.foldl (fun s e => e.apply s) s

theorem run_cons (s : LiveProcess) (e : LiveStep) (steps : List LiveStep) :
    s.run (e :: steps) = (e.apply s).run steps := rfl

theorem run_append (s : LiveProcess) (before after : List LiveStep) :
    s.run (before ++ after) = (s.run before).run after := List.foldl_append

def swaps (h : LiveHandle) (steps : List LiveStep) : List LoggingConfig :=
  steps.filterMap fun
    | .swap h' c => if h' = h then some c else none
    | _ => none

theorem apply_refused {c : LoggingConfig} (hc : c.accepted = false) (h : LiveHandle)
    (s : LiveProcess) : (LiveStep.swap h c).apply s = s := by
  simp only [LiveStep.apply]
  split
  · rename_i l hl
    rw [LiveConfig.swap_of_refused hc, LiveStore.write_read hl]
  · rfl

omit [PatternCompiler] in
theorem swaps_self (h : LiveHandle) (c : LoggingConfig) (steps : List LiveStep) :
    swaps h (.swap h c :: steps) = c :: swaps h steps := by simp [swaps]

omit [PatternCompiler] in
theorem swaps_other {h h' : LiveHandle} (hne : h' ≠ h) (c : LoggingConfig)
    (steps : List LiveStep) : swaps h (.swap h' c :: steps) = swaps h steps := by
  simp [swaps, hne]

theorem apply_live_of_no_swap {e : LiveStep} (he : ∀ h c, e ≠ .swap h c) :
    (e.apply s).live = s.live := by
  cases e with
  | swap h c => exact absurd rfl (he h c)
  | create h model messages callType callId =>
    simp only [LiveStep.apply]
    split <;> rfl
  | hook i k =>
    simp only [LiveStep.apply]
    split <;> rfl
  | start d p => rfl
  | fly i e =>
    simp only [LiveStep.apply]
    split
    · split <;> rfl
    · rfl

theorem apply_live {h : LiveHandle} {c : LoggingConfig} {l : LiveConfig}
    (hl : s.live.read? h = some l) (hc : LiveConfig.compile c = .ok l) (e : LiveStep) :
    ∃ c' l', (e.apply s).live.read? h = some l' ∧ LiveConfig.compile c' = .ok l' ∧
      ∀ steps, settled c (swaps h (e :: steps)) = settled c' (swaps h steps) := by
  cases e with
  | swap h' c' =>
    by_cases hh : h' = h
    · subst hh
      cases hcompile : LiveConfig.compile c' with
      | ok next =>
        have haccepted : c'.accepted = true := by rw [LoggingConfig.accepted, hcompile]
        refine ⟨c', next, ?_, hcompile, fun steps => ?_⟩
        · simp only [LiveStep.apply, hl, LiveConfig.swap_of_compile hcompile]
          exact LiveStore.read?_write_self hl next
        · rw [swaps_self, settled_cons, haccepted, if_pos rfl]
      | error err =>
        have hrefused : c'.accepted = false := by rw [LoggingConfig.accepted, hcompile]
        refine ⟨c, l, ?_, hc, fun steps => ?_⟩
        · rw [apply_refused hrefused, hl]
        · rw [swaps_self, settled_cons, hrefused, if_neg Bool.false_ne_true]
    · -- somebody else's settings
      refine ⟨c, l, ?_, hc, fun steps => by rw [swaps_other hh]⟩
      simp only [LiveStep.apply]
      split
      · rw [LiveStore.read?_write_of_ne hh, hl]
      · exact hl
  | _ =>
    refine ⟨c, l, ?_, hc, fun steps => rfl⟩
    rw [apply_live_of_no_swap (by simp), hl]

theorem run_live {h : LiveHandle} {c : LoggingConfig} {l : LiveConfig}
    (hl : s.live.read? h = some l) (hc : LiveConfig.compile c = .ok l) (steps : List LiveStep) :
    ∃ l', (s.run steps).live.read? h = some l' ∧
      LiveConfig.compile (settled c (swaps h steps)) = .ok l' := by
  induction steps generalizing s c l with
  | nil => exact ⟨l, hl, hc⟩
  | cons e steps ih =>
    obtain ⟨c', l', hl', hc', hsettled⟩ := apply_live hl hc e
    rw [run_cons, hsettled]
    exact ih hl' hc'

theorem apply_kept (e : LiveStep) (s : LiveProcess) :
    Kept SameCall s.calls (e.apply s).calls ∧ Kept Flight.Steps s.flights (e.apply s).flights := by
  have hcalls : Kept SameCall s.calls s.calls := .refl SameCall.refl _
  have hflights : Kept Flight.Steps s.flights s.flights := .refl Flight.Steps.refl _
  cases e with
  | swap h config =>
    simp only [LiveStep.apply]
    split <;> exact ⟨hcalls, hflights⟩
  | create h model messages callType callId =>
    simp only [LiveStep.apply]
    split
    · exact ⟨.append SameCall.refl _ _, hflights⟩
    · exact ⟨hcalls, hflights⟩
  | hook i k =>
    simp only [LiveStep.apply]
    split
    · rename_i c hc
      exact ⟨.set SameCall.refl hc ((k s.live).apply_same ⟨c, s.scene⟩), hflights⟩
    · exact ⟨hcalls, hflights⟩
  | start d p => exact ⟨hcalls, .append Flight.Steps.refl _ _⟩
  | fly i e =>
    simp only [LiveStep.apply]
    split
    · rename_i f hf
      split
      · rename_i g hg
        exact ⟨hcalls, .set Flight.Steps.refl hf (.cons hg (.refl g))⟩
      · exact ⟨hcalls, hflights⟩
    · exact ⟨hcalls, hflights⟩

theorem run_kept (s : LiveProcess) (steps : List LiveStep) :
    Kept SameCall s.calls (s.run steps).calls ∧
      Kept Flight.Steps s.flights (s.run steps).flights := by
  induction steps generalizing s with
  | nil => exact ⟨.refl SameCall.refl _, .refl Flight.Steps.refl _⟩
  | cons e steps ih =>
    obtain ⟨hcalls, hflights⟩ := apply_kept e s
    obtain ⟨hcalls', hflights'⟩ := ih (e.apply s)
    exact ⟨hcalls.trans SameCall.trans hcalls', hflights.trans Flight.Steps.trans hflights'⟩

/-- Live settings are at every moment, and for everybody who asks, those of the last swap that was
accepted; a refused swap changes nothing. A call keeps what was live when it was made, and a
dispatch goes by the deadline and the redactor that were live when it began, whatever is swapped
in later. -/
theorem run_coherent {h : LiveHandle} {first : LoggingConfig} {l : LiveConfig}
    (hl : s.live.read? h = some l) (hc : LiveConfig.compile first = .ok l)
    (steps : List LiveStep) :
    (∃ r, (s.run steps).live.Shows h (settled first (swaps h steps)) r) ∧
    (∀ c, c.accepted = false → (s.run steps).run [.swap h c] = s.run steps) ∧
    (∀ before after model messages callType callId,
      steps = before ++ .create h model messages callType callId :: after →
      ∃ r c, (s.run before).live.Shows h (settled first (swaps h before)) r ∧
        (s.run steps).calls[(s.run before).calls.length]? = some c ∧
        c.captures = (settled first (swaps h before)).policy.captureRequests ∧
        c.policy = ⟨(settled first (swaps h before)).policy.suppressMessages, r⟩) ∧
    ∀ before after d p, steps = before ++ .start d p :: after → d.live = some h →
      ∃ r f, (s.run before).live.Shows h (settled first (swaps h before)) r ∧
        (s.run steps).flights[(s.run before).flights.length]? = some f ∧ f.redactor = r ∧
        f.limit = Deadline.ofMillis (settled first (swaps h before)).callbacks.timeoutMillis ∧
        f.outcomes <+: (Dispatcher.launch p d.adapters (s.run before).scene.store).1.map
          (Task.outcome f.limit f.redactor) := by
  have hshows : ∀ steps, ∃ l', (s.run steps).live.read? h = some l' ∧
      l'.config = settled first (swaps h steps) ∧
      (s.run steps).live.Shows h (settled first (swaps h steps)) l'.redactor := by
    intro steps
    obtain ⟨l', hl', hc'⟩ := run_live hl hc steps
    exact ⟨l', hl', (LiveConfig.compile_eq_ok hc').1, LiveStore.shows_of_compile hl' hc'⟩
  refine ⟨?_, fun c hrefused => apply_refused hrefused h _, ?_, ?_⟩
  · obtain ⟨l', -, -, hshow⟩ := hshows steps
    exact ⟨l'.redactor, hshow⟩
  · rintro before after model messages callType callId rfl
    obtain ⟨l', hl', hconfig, hshow⟩ := hshows before
    have hmade : ((LiveStep.create h model messages callType callId).apply
        (s.run before)).calls[(s.run before).calls.length]? =
          some (CallContext.ofLive l' model messages callType callId) := by
      simp only [LiveStep.apply, hl']
      exact List.getElem?_concat_length
    obtain ⟨c, hcall, hsame⟩ := (run_kept _ after).1 _ _ hmade
    rw [run_append, run_cons, ← hconfig]
    exact ⟨l'.redactor, c, hconfig ▸ hshow, hcall, hsame.captures, hsame.policy⟩
  · rintro before after d p rfl hd
    obtain ⟨l', -, -, hshow⟩ := hshows before
    have hstarted : ((LiveStep.start d p).apply
        (s.run before)).flights[(s.run before).flights.length]? =
          some (d.flight (s.run before).live p (s.run before).scene.store) :=
      List.getElem?_concat_length
    obtain ⟨f, hflight, hflown⟩ := (run_kept _ after).2 _ _ hstarted
    have hsame := hflown.same
    have hsound := hflown.sound (d.flight_sound _ p _)
    have hsettings := hshow.settings d hd
    rw [run_append, run_cons]
    refine ⟨l'.redactor, f, hshow, hflight, ?_, ?_, ?_⟩
    · rw [hsame.redactor, Dispatcher.flight, hsettings]
    · rw [hsame.limit, Dispatcher.flight, hsettings]
    · have hfront := hsound.outcomes
      rw [hsame.expected] at hfront
      rw [hsame.limit, hsame.redactor]
      exact hfront

end Runs

def stricter (pattern : String) : LoggingConfig where
  policy := { captureRequests := true }
  redaction := { families := [⟨"internal", pattern⟩] }
  callbacks := { timeoutMillis := 100 }

def lenient : LiveConfig := ⟨{}, Redactor.builtin⟩

/-- A dispatcher that follows the first live settings, and a deadline of its own for others. -/
def following : Dispatcher where
  limit := Deadline.ofMillis 1
  live := some ⟨0⟩

/-- A call and a dispatch, then a swap that is refused and one that is not, then a call. -/
def swapping : List LiveStep :=
  [.create ⟨0⟩ "gpt-4" [] .completion "1",
    .start following
      ((CallContext.ofLive lenient "gpt-4" [] .completion "1").payload .preCall none),
    .swap ⟨0⟩ (stricter "("), .swap ⟨0⟩ (stricter "internal"),
    .create ⟨0⟩ "gpt-4" [] .completion "2", .hook 0 fun _ => .postCall "hello"]

theorem swapping_coherent :
    let now := run { live := ⟨[lenient]⟩ } swapping
    (∃ r, now.live.Shows ⟨0⟩ (stricter "internal") r) ∧
      (∃ c, now.calls[0]? = some c ∧ c.captures = false) ∧
      (∃ c, now.calls[1]? = some c ∧ c.captures = true) ∧
      ∃ f, now.flights[0]? = some f ∧ f.limit = Deadline.ofMillis 5000 := by
  have hc : LiveConfig.compile {} = .ok lenient := rfl
  have hl : (LiveStore.mk [lenient]).read? ⟨0⟩ = some lenient := rfl
  obtain ⟨hlive, -, hcalls, hflights⟩ :=
    run_coherent (s := { live := ⟨[lenient]⟩ }) hl hc swapping
  have hlast : settled {} (swaps ⟨0⟩ swapping) = stricter "internal" := by decide +kernel
  have hold : settled {} (swaps ⟨0⟩ (swapping.take 1)) = {} := by decide +kernel
  have hnew : settled {} (swaps ⟨0⟩ (swapping.take 4)) = stricter "internal" := by
    decide +kernel
  refine ⟨hlast ▸ hlive, ?_, ?_, ?_⟩
  · obtain ⟨r, c, -, hcall, hcaptures, -⟩ := hcalls [] _ _ _ _ _ rfl
    exact ⟨c, hcall, hcaptures⟩
  · obtain ⟨r, c, -, hcall, hcaptures, -⟩ := hcalls (swapping.take 4) _ _ _ _ _ rfl
    exact ⟨c, hcall, hcaptures.trans (by rw [hnew]; rfl)⟩
  · obtain ⟨r, f, -, hflight, -, hlimit, -⟩ := hflights (swapping.take 1) _ _ _ rfl rfl
    exact ⟨f, hflight, hlimit.trans (by rw [hold])⟩

end LiveProcess
end CallScribe
