import CallScribe.Proofs.Dispatch.Flight

/-!
# CallScribe.Proofs.Dispatch.Isolation

Adapters that share no metadata do not disturb each other.

* `Adapter.outcome`: what is reported about an adapter that is alone.
* `Dispatcher.runAll_alone`: every adapter of a list is reported as if it were.
* `Dispatcher.logLines_outcomes`: one line for each failure.
* `Dispatcher.dispatch_isolated`: the report of a dispatch, its log lines, and all ways in which
  its tasks can run.
-/

namespace CallScribe

/-- What is reported about an adapter that has so many milliseconds and is alone. -/
def Adapter.outcome (ms : Nat) (r : Redactor) (p : Payload) (s : MetadataStore) (a : Adapter) :
    AdapterOutcome :=
  ⟨a.name,
    match (a.hook p s).takes with
    | none => some (.timeout ms)
    | some t =>
      if ms < t then some (.timeout ms)
      else
        match (a.hook p s).ending with
        | .done => none
        | .failed e => some (.error (r.redact e.message))
        | .panicked text => some (.panicked (r.redact (text.getD wordlessPanic)))⟩

theorem Deadline.ticks_ofMillis (ms : Nat) : (ofMillis ms).ticks = ms := by
  simp only [ticks, ofMillis]
  omega

theorem Deadline.millis_ofMillis (ms : Nat) : (ofMillis ms).nanos / 1000000 = ms := by
  simp only [ofMillis]
  omega

theorem Adapter.outcome_eq (ms : Nat) (r : Redactor) (p : Payload) (s : MetadataStore)
    (a : Adapter) :
    a.outcome ms r p s = ⟨a.name, (a.hook p s).failure (Deadline.ofMillis ms) r⟩ := by
  rw [outcome, HookRun.failure, Deadline.millis_ofMillis]
  cases htakes : (a.hook p s).takes with
  | none => simp [Deadline.allows]
  | some t =>
    rw [Deadline.allows_some, Deadline.ticks_ofMillis]
    by_cases hlate : ms < t
    · have hintime : ¬t ≤ ms := by omega
      simp [hlate, hintime]
    · have hintime : t ≤ ms := by omega
      cases (a.hook p s).ending <;> simp only [hlate, hintime, decide_true, if_true, if_false]

def JournalEntry.line? : JournalEntry → Option LogLine
  | .log l => some l
  | _ => none

/-- The log lines among the entries. -/
def logLines (es : List JournalEntry) : List LogLine := es.filterMap JournalEntry.line?

namespace Dispatcher

variable {as : List Adapter} {p : Payload} {s : MetadataStore}

theorem runAll_alone (h : ∀ a ∈ as, a.Keeps) (ms : Nat) (r : Redactor) (p : Payload)
    (s : MetadataStore) :
    (runAll (Deadline.ofMillis ms) r p as s).outcomes = as.map (Adapter.outcome ms r p s) := by
  induction as generalizing s with
  | nil => rfl
  | cons a as ih =>
    obtain ⟨ha, has⟩ := List.forall_mem_cons.mp h
    rw [runAll, List.map_cons, Adapter.outcome_eq]
    dsimp only
    rw [ha p s, ih has]

theorem runAll_entries (h : ∀ a ∈ as, a.Keeps) (limit : Deadline) (r : Redactor) (p : Payload)
    (s : MetadataStore) :
    (runAll limit r p as s).entries = as.flatMap fun a => (a.hook p s).entries := by
  induction as generalizing s with
  | nil => rfl
  | cons a as ih =>
    obtain ⟨ha, has⟩ := List.forall_mem_cons.mp h
    rw [runAll, List.flatMap_cons]
    dsimp only
    rw [ha p s, ih has]

theorem logLines_outcomes (p : Payload) (report : DispatchReport) :
    logLines (report.outcomes.flatMap (outcomeEntries p)) =
      report.failures.map fun f => (failureLine f.1 f.2).within (span p) := by
  obtain ⟨event, callId, outcomes⟩ := report
  simp only [DispatchReport.failures]
  induction outcomes with
  | nil => rfl
  | cons o outcomes ih =>
    obtain ⟨name, failure⟩ := o
    rw [List.flatMap_cons, logLines, List.filterMap_append, ← logLines, ← logLines, ih]
    cases failure with
    | none => rfl
    | some f => rfl

/-- Only a deadline that is over is a warning. -/
theorem failureLine_level (adapter : String) (f : AdapterFailure) :
    (failureLine adapter f).level = match f with
      | .timeout _ => .warn
      | _ => .error := by
  cases f <;> rfl

/-- Every adapter is reported as if it were alone, in the order of registration, and the same in
every other dispatch with the same deadline and redactor. Each failure gives one line, a warning
if the deadline was over and an error otherwise. In whatever order the tasks of the dispatch are
looked at, they can be completed and give this report and these lines. -/
theorem dispatch_isolated {d : Dispatcher} {live : LiveStore} {ms : Nat} {r : Redactor}
    (hsettings : d.settings live = (Deadline.ofMillis ms, r))
    (hkeeps : ∀ a ∈ d.adapters, a.Keeps) (p : Payload) (s : MetadataStore) :
    let report := (d.dispatch live p s).1
    let own := report.outcomes.flatMap (outcomeEntries p)
    report.outcomes = d.adapters.map (Adapter.outcome ms r p s) ∧
    (∀ (d' : Dispatcher) (live' : LiveStore), d'.settings live' = (Deadline.ofMillis ms, r) →
      (∀ a ∈ d'.adapters, a.Keeps) → ∀ i j : Nat, d'.adapters[j]? = d.adapters[i]? →
        (d'.dispatch live' p s).1.outcomes[j]? = report.outcomes[i]?) ∧
    (d.dispatch live p s).2.2 = (d.adapters.flatMap fun a => (a.hook p s).entries).map
      (JournalEntry.within (span p)) ++ own ∧
    logLines own = report.failures.map (fun f => (failureLine f.1 f.2).within (span p)) ∧
    (∀ f ∈ report.failures, (failureLine f.1 f.2).level = match f.2 with
      | .timeout _ => .warn
      | _ => .error) ∧
    ∀ f, (d.flight live p s).Steps f → f.outcomes <+: report.outcomes ∧
      (f.Complete → f.outcomes = report.outcomes ∧ f.written = own) ∧
      ((∀ e, f.step e = none) → f.Complete) ∧ ∃ g, f.Steps g ∧ g.Complete := by
  have houtcomes : ∀ (d : Dispatcher) (live : LiveStore),
      d.settings live = (Deadline.ofMillis ms, r) → (∀ a ∈ d.adapters, a.Keeps) →
      (d.dispatch live p s).1.outcomes = d.adapters.map (Adapter.outcome ms r p s) := by
    intro d live hsettings hkeeps
    have hrun := runAll_alone hkeeps ms r p s
    unfold dispatch
    rw [hsettings]
    exact hrun
  refine ⟨houtcomes d live hsettings hkeeps, ?_, ?_, logLines_outcomes p _,
    fun f _ => failureLine_level f.1 f.2, ?_⟩
  · intro d' live' hsettings' hkeeps' i j hij
    rw [houtcomes d live hsettings hkeeps, houtcomes d' live' hsettings' hkeeps',
      List.getElem?_map, List.getElem?_map, hij]
  · have hentries := runAll_entries hkeeps (d.settings live).1 (d.settings live).2 p s
    rw [← hentries]
    rfl
  · intro f hf
    obtain ⟨hfront, hcomplete, hends⟩ := d.flight_outcomes live p s hf
    refine ⟨hfront, fun h => ?_, hends⟩
    obtain ⟨hall, hwritten⟩ := hcomplete h
    exact ⟨hall, by rw [hwritten, hall]⟩

/-- An adapter for every way to end, or not to end, at, before and after a tenth of a second. -/
def motley : Dispatcher where
  adapters := [Adapter.sleeping "punctual" 100, Adapter.sleeping "late" 101,
    Adapter.failing "failing" (.backend "no access for sk-abcdefgh"),
    ⟨"stuck", fun _ s => { store := s, takes := none }⟩, Adapter.panicking "wordless" none,
    ⟨"failing late", fun _ s => { store := s, takes := some 200, ending := .failed (.other "?") }⟩,
    Adapter.silent "silent"]
  limit := Deadline.ofMillis 100

/-- The start of a call without messages. -/
def greeting : Payload where
  event := .preCall
  model := "gpt-4"
  messages := []
  stream := false
  callType := .completion
  callId := "1"
  functionId := ""
  startTime := none
  endTime := none
  params := {}
  response := none
  exception := none

theorem motley_isolated :
    (motley.dispatch {} greeting {}).1.outcomes.map (·.failure) =
      [none, some (.timeout 100),
        some (.error "backend error: no access for [REDACTED_API_KEY]"), some (.timeout 100),
        some (.panicked "non-string panic payload"), some (.timeout 100), none] := by
  have hkeeps : ∀ a ∈ motley.adapters, a.Keeps := by
    intro a ha p s
    simp only [motley, List.mem_cons, List.not_mem_nil, or_false] at ha
    rcases ha with rfl | rfl | rfl | rfl | rfl | rfl | rfl <;> rfl
  obtain ⟨houtcomes, -⟩ := dispatch_isolated (d := motley) rfl hkeeps greeting {}
  rw [houtcomes]
  decide +kernel

end Dispatcher
end CallScribe
