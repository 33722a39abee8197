import CallScribe.Command.Run
import CallScribe.Proofs.Call.Hooks
import CallScribe.Proofs.Config.Live
import CallScribe.Proofs.Config.Registration

/-!
# CallScribe.Proofs.Command.Agreement

Checking settings against replaying a call under them.

* `Surroundings.setUp`: what a replay needs before it begins; `Surroundings.run_replay`: from there
  on nothing stops it.
* `DispatchReport.About`: event, call and adapters of a report.
* `RecordedCall.replay_about`: a replay reports two dispatches, whatever the adapters do.
* `Invocation.check_agrees`: settings pass the check exactly if a replay under them begins.
-/

namespace CallScribe

/-- All that a replay needs before its first hook. -/
structure ReplaySetUp where
  settings : LoggingConfig
  call : RecordedCall
  live : LiveConfig
  adapters : List Adapter

namespace Surroundings

section SetUp

variable [PatternCompiler] [DomainNames]

def setUp (s : Surroundings) (path request : String) : Except CommandFailure ReplaySetUp := do
  let settings ← s.settings path
  listen settings.observability
  let call ← s.recorded request
  let live ← compiled settings
  let adapters ← s.adapters live.config live.redactor
  .ok { settings, call, live, adapters }

theorem settings_eq_ok {s : Surroundings} {path : String} {c : LoggingConfig}
    (h : s.settings path = .ok c) : LoggingConfig.load (s.file path) = .ok c := by
  unfold settings at h
  split at h
  · cases h
    assumption
  · cases h

omit [PatternCompiler] [DomainNames] in
theorem recorded_of_load {s : Surroundings} {request : String} {r : RecordedCall}
    (h : (s.file request).bind RecordedCall.load? = some r) : s.recorded request = .ok r := by
  rw [recorded, h]

/-- Once it is set up, nothing stops a replay. -/
theorem run_replay (s : Surroundings) (path request : String) :
    Invocation.run ⟨.replay path request, none⟩ s = (s.setUp path request).map fun u =>
      .report u.settings.observability (u.call.replay u.live u.adapters s.callId s.now) := by
  simp only [Invocation.run, setUp]
  cases s.settings path with
  | error e => rfl
  | ok c =>
    simp only [replay, bind, Except.bind]
    cases listen c.observability with
    | error e => rfl
    | ok _ =>
      cases s.recorded request with
      | error e => rfl
      | ok r =>
        cases compiled c with
        | error e => rfl
        | ok l =>
          simp only
          cases s.adapters l.config l.redactor <;> rfl

omit [PatternCompiler] [DomainNames] in
theorem listen_of_quiet {c : ObservabilityConfig} (h : c.metricsEnabled = false) :
    listen c = .ok () := by
  rw [listen, h]
  rfl

omit [DomainNames] in
theorem compiled_eq_ok {c : LoggingConfig} {l : LiveConfig} (h : compiled c = .ok l) :
    l.config = c := by
  unfold compiled at h
  cases hl : LiveConfig.compile c with
  | error e =>
    rw [hl] at h
    cases h
  | ok l' =>
    rw [hl] at h
    cases h
    exact (LiveConfig.compile_eq_ok hl).1

omit [DomainNames] in
/-- A replay gets its redactor with the live settings, a check by itself. -/
theorem compiled_alike (c : LoggingConfig) :
    EndAlike (fun l r => l = ⟨c, r⟩) (compiled c) (redactor c) := by
  unfold compiled redactor LiveConfig.compile
  cases buildRedactor c.redaction with
  | ok r => exact .ok rfl
  | error e => exact .error _

theorem setUp_alike (s : Surroundings) {path request : String} {r : RecordedCall}
    (hquiet : ∀ c, LoggingConfig.load (s.file path) = .ok c →
      c.observability.metricsEnabled = false)
    (hrequest : (s.file request).bind RecordedCall.load? = some r) :
    EndAlike (fun _ _ => True) (s.setUp path request) (s.checkConfig path) := by
  unfold setUp checkConfig
  cases hsettings : s.settings path with
  | error e => exact .error e
  | ok c =>
    -- without metrics a replay has nothing more to do than a check until the redactor is built
    have hlisten := listen_of_quiet (hquiet c (settings_eq_ok hsettings))
    simp only [bind, Except.bind, hlisten, recorded_of_load hrequest]
    refine (compiled_alike c).bind fun l r' hl => ?_
    subst hl
    exact (EndAlike.refl (fun _ => rfl) (s.adapters c r')).bind fun _ _ _ => .ok trivial

omit [PatternCompiler] in
theorem adapters_names {s : Surroundings} {c : LoggingConfig} {r : Redactor} {as : List Adapter}
    (h : s.adapters c r = .ok as) :
    as.map Adapter.name = c.callbacks.adapters.map AdapterKind.name := by
  unfold adapters buildAdapters at h
  rcases buildKinds_cases c r s.env s.reply c.callbacks.adapters with
    ⟨bs, hbs, hnames, -⟩ | ⟨e, he, -⟩
  · rw [hbs] at h
    cases h
    exact hnames
  · rw [he] at h
    cases h

theorem setUp_eq_ok {s : Surroundings} {path request : String} {u : ReplaySetUp}
    (h : s.setUp path request = .ok u) :
    s.settings path = .ok u.settings ∧ s.recorded request = .ok u.call ∧
      u.adapters.map Adapter.name = u.settings.callbacks.adapters.map AdapterKind.name := by
  obtain ⟨c, hc, h⟩ := bind_eq_ok h
  obtain ⟨_, -, h⟩ := bind_eq_ok h
  obtain ⟨r, hr, h⟩ := bind_eq_ok h
  obtain ⟨l, hl, h⟩ := bind_eq_ok h
  obtain ⟨as, has, h⟩ := bind_eq_ok h
  cases h
  refine ⟨hc, hr, ?_⟩
  rw [adapters_names has, compiled_eq_ok hl]

end SetUp

end Surroundings

/-- A report of an event of a call, with an outcome for each of the names. -/
structure DispatchReport.About (d : DispatchReport) (event : CallEvent) (callId : String)
    (names : List String) : Prop where
  event : d.event = event
  callId : d.callId = callId
  adapters : d.outcomes.map AdapterOutcome.adapter = names

theorem Dispatcher.runAll_adapters (limit : Deadline) (r : Redactor) (p : Payload)
    (as : List Adapter) (s : MetadataStore) :
    (runAll limit r p as s).outcomes.map AdapterOutcome.adapter = as.map Adapter.name := by
  induction as generalizing s with
  | nil => rfl
  | cons a as ih =>
    rw [runAll, List.map_cons, List.map_cons, ih]

theorem CallContext.dispatch_about (c : CallContext) (d : Dispatcher) (live : LiveStore)
    (event : CallEvent) (response : Option Json) (scene : CallScene) :
    (c.dispatch d live event response scene).1.About event c.callId d.adapterNames :=
  ⟨rfl, rfl, Dispatcher.runAll_adapters ..⟩

namespace RecordedCall

/-- The event at the end of a recorded call. -/
def lastEvent (r : RecordedCall) : CallEvent := if r.error.isSome then .failure else .success

theorem complete_about (r : RecordedCall) (c : CallContext) (d : Dispatcher) (live : LiveStore)
    (now : Instant) (scene : CallScene) :
    (r.complete c d live now scene).1.callId = c.callId ∧
      (r.complete c d live now scene).2.1.About r.lastEvent c.callId d.adapterNames := by
  unfold complete lastEvent
  cases r.error with
  | none => exact ⟨rfl, CallContext.dispatch_about ..⟩
  | some e => exact ⟨rfl, CallContext.dispatch_about ..⟩

/-- A replay reports the event before the call and the one at its end, for each adapter, whatever
the adapters do. -/
theorem replay_about (r : RecordedCall) (l : LiveConfig) (as : List Adapter) (callId : String)
    (now : Instant) :
    (r.replay l as callId now).callId = callId ∧
      (r.replay l as callId now).before.About .preCall callId (as.map Adapter.name) ∧
      (r.replay l as callId now).after.About r.lastEvent callId (as.map Adapter.name) := by
  unfold replay
  obtain ⟨h, live⟩ := ({} : LiveStore).add l
  have hid : (r.context l callId now {}).1.callId = callId := by
    unfold context params
    cases r.metadata <;> rfl
  -- each hook is replaced by what is known of its result
  generalize r.context l callId now {} = start at hid
  obtain ⟨c, store⟩ := start
  dsimp only at hid ⊢
  generalize hd : Dispatcher.mk as (Deadline.ofMillis l.timeoutMillis) (some h) = d
  have hnames : as.map Adapter.name = d.adapterNames := by rw [← hd, Dispatcher.adapterNames]
  have hsame := (c.preCall_same (messagesJson c.messages) r.apiKey r.model r.args
    { store, journal := [d.countEntry] }).callId
  generalize c.preCall (messagesJson c.messages) r.apiKey r.model r.args
    { store, journal := [d.countEntry] } = called at hsame
  obtain ⟨c', scene⟩ := called
  dsimp only at hsame ⊢
  rw [hid] at hsame
  have hbefore := c'.dispatch_about d live .preCall none scene
  generalize c'.dispatch d live .preCall none scene = dispatched at hbefore
  obtain ⟨before, scene'⟩ := dispatched
  obtain ⟨hlast, hafter⟩ := r.complete_about c' d live now scene'
  rw [hnames, ← hsame]
  exact ⟨hlast, hbefore, hafter⟩

end RecordedCall

namespace Invocation

/-- A check of settings and the set-up of a replay under them succeed alike and fail alike. Once it
is set up a replay succeeds, and reports two dispatches for its call: one before it and one for its
end, each with an outcome for every configured adapter in order. That is so for any adapters of
these names. -/
theorem check_agrees [PatternCompiler] [DomainNames] (s : Surroundings) {path request : String}
    {r : RecordedCall}
    (hquiet : ∀ c, LoggingConfig.load (s.file path) = .ok c →
      c.observability.metricsEnabled = false)
    (hrequest : (s.file request).bind RecordedCall.load? = some r) :
    (run ⟨.checkConfig path, none⟩ s).map (fun _ => ()) =
      (s.setUp path request).map (fun _ => ()) ∧
    run ⟨.replay path request, none⟩ s = (s.setUp path request).map (fun u =>
      .report u.settings.observability (r.replay u.live u.adapters s.callId s.now)) ∧
    ∀ u, s.setUp path request = .ok u →
      let names := u.settings.callbacks.adapters.map AdapterKind.name
      LoggingConfig.load (s.file path) = .ok u.settings ∧ u.adapters.map Adapter.name = names ∧
      ∀ as : List Adapter, as.map Adapter.name = names →
        let done := r.replay u.live as s.callId s.now
        done.callId = s.callId ∧ done.before.About .preCall s.callId names ∧
        done.after.About (if r.error.isSome then .failure else .success) s.callId names ∧
        ∃ metadata, done.toJson = .object [("call_id", .string s.callId),
          ("dispatch", .array [done.before.toJson, done.after.toJson]),
          ("metadata", metadata)] := by
  have hcall : ∀ u, s.setUp path request = .ok u → u.call = r := by
    intro u hu
    have hrecorded := (Surroundings.setUp_eq_ok hu).2.1
    rw [Surroundings.recorded_of_load hrequest] at hrecorded
    exact (Except.ok.inj hrecorded).symm
  refine ⟨(s.setUp_alike hquiet hrequest).map_eq fun _ _ _ => rfl, ?_, fun u hu => ?_⟩
  · rw [s.run_replay]
    cases hu : s.setUp path request with
    | error e => rfl
    | ok u =>
      rw [Except.map, Except.map, hcall u hu]
  · obtain ⟨hsettings, -, hnames⟩ := Surroundings.setUp_eq_ok hu
    refine ⟨Surroundings.settings_eq_ok hsettings, hnames, fun as has => ?_⟩
    obtain ⟨hid, hbefore, hafter⟩ := r.replay_about u.live as s.callId s.now
    rw [has] at hbefore hafter
    refine ⟨hid, hbefore, hafter, ?_⟩
    rw [ReplayReport.toJson, hid]
    exact ⟨_, rfl⟩

def desk : Surroundings where
  file := fun path =>
    if path = "logging.toml" then
      some "[callbacks]\nadapters = [\"langfuse\", \"tracing\"]\n".toUTF8
    else if path = "call.json" then some "\x7b\"error\": \"no answer\"\x7d".toUTF8
    else none
  input := .empty
  env := fun name => if name = Credentials.hostVariable then none else some "lf-1"
  reply := .unreachable "no route"
  now := ⟨20000, 0, 0⟩
  callId := "call-1"

/-- A failed call under settings that name both adapters. The backend cannot be reached. -/
theorem desk_agrees :
    (run ⟨.checkConfig "logging.toml", none⟩ desk).map (fun _ => ()) = .ok () ∧
    ∃ c done, run ⟨.replay "logging.toml" "call.json", none⟩ desk = .ok (.report c done) ∧
      done.before.About .preCall "call-1" ["langfuse", "tracing"] ∧
      done.after.About .failure "call-1" ["langfuse", "tracing"] := by
  have hload : LoggingConfig.load (desk.file "logging.toml") =
      .ok { callbacks := { adapters := [.langfuse, .tracing] } } :=
    eq_ok_of_toOption (by decide +kernel)
  have hrequest : ((desk.file "call.json").bind RecordedCall.load?).map (·.error) =
      some (some "no answer") := by decide +kernel
  have hsetUp : (desk.setUp "logging.toml" "call.json").isOk = true := by decide +kernel
  obtain ⟨r, hr, herror⟩ := Option.map_eq_some_iff.mp hrequest
  have hloaded : ∀ c, LoggingConfig.load (desk.file "logging.toml") = .ok c →
      c = { callbacks := { adapters := [.langfuse, .tracing] } } := by
    intro c h
    rw [h] at hload
    exact Except.ok.inj hload
  have hquiet : ∀ c, LoggingConfig.load (desk.file "logging.toml") = .ok c →
      c.observability.metricsEnabled = false := by
    intro c h
    rw [hloaded c h]
  obtain ⟨hcheck, hreplay, hall⟩ := check_agrees desk hquiet hr
  cases hu : desk.setUp "logging.toml" "call.json" with
  | error e =>
    rw [hu] at hsetUp
    cases hsetUp
  | ok u =>
    obtain ⟨hsettings, hnames, hdone⟩ := hall u hu
    rw [hloaded u.settings hsettings] at hnames hdone
    obtain ⟨-, hbefore, hafter, -⟩ := hdone u.adapters hnames
    rw [herror] at hafter
    rw [hu] at hcheck hreplay
    exact ⟨hcheck, _, _, hreplay, hbefore, hafter⟩

end Invocation
end CallScribe
