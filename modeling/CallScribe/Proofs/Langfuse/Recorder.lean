import CallScribe.Proofs.Dispatch.Isolation
import CallScribe.Proofs.Langfuse.Overrides
import CallScribe.Proofs.Langfuse.Record

/-!
# CallScribe.Proofs.Langfuse.Recorder

Failures of a record end with it.

* `Record.build_error`: a record that cannot be built has a bad value in its metadata.
* `Recorder.Fails`, `Recorder.Accepts`: the error that ends a record, or its ids.
* `Recorder.record_of_fails`, `Recorder.record_of_accepts`: what becomes of a record then.
* `errorLines`: the log lines of the highest level.
* `Adapter.taking`: an adapter whose hooks take their time.
* `Dispatcher.runAll_replace`: an adapter in the place of one that ends in the same way.
* `Recorder.record_contained`: calls, ids, log lines and the report of a dispatch.
-/

namespace CallScribe

namespace LangfuseError

/-- No answer, a bad status, or a rejection. -/
def FromBackend (e : LangfuseError) : Prop :=
  (∃ detail, e = .transport detail) ∨ (∃ code body, e = .status code body) ∨
    ∃ event message, e = .rejected event message

theorem isBackend_iff (e : LangfuseError) : e.isBackend = true ↔ e.FromBackend := by
  cases e <;> simp [isBackend, FromBackend]

/-- A bad value in the metadata. -/
def FromMetadata (e : LangfuseError) : Prop :=
  ∃ key expected actual, e = .invalidMetadata key expected actual

theorem FromMetadata.not_backend {e : LangfuseError} (h : e.FromMetadata) : ¬e.FromBackend := by
  obtain ⟨key, expected, actual, rfl⟩ := h
  rw [← isBackend_iff]
  exact Bool.false_ne_true

end LangfuseError

namespace Record

open LangfuseError

theorem FirstOffence.fromMetadata {metadata : Fields Json} {keys : List (String × KeyShape)}
    {e : LangfuseError} (h : FirstOffence metadata keys e) : e.FromMetadata := by
  induction h with
  | here => exact ⟨_, _, _, rfl⟩
  | later _ _ ih => exact ih

/-- Only the metadata can keep a record from being built. -/
theorem build_error (metadata : Fields Json) (release : Option String) (p : Payload) :
    ErrorsAre FromMetadata (build release p metadata) := by
  intro e he
  cases he ▸ build_judged release p metadata with
  | error h => exact h.fromMetadata

end Record

namespace Recorder

/-- The error that ends the record of a payload: it cannot be built, or the trace or the
generation is not accepted. -/
inductive Fails (r : Recorder) (p : Payload) (metadata : Fields Json) : LangfuseError → Prop
  | build {e : LangfuseError} (h : Record.build r.release p metadata = .error e) :
    Fails r p metadata e
  | trace {rec : Record} {e : LangfuseError} (h : Record.build r.release p metadata = .ok rec)
    (ht : r.backend.trace rec.trace = .error e) : Fails r p metadata e
  | generation {rec : Record} {t : String} {e : LangfuseError}
    (h : Record.build r.release p metadata = .ok rec) (ht : r.backend.trace rec.trace = .ok t)
    (hg : r.backend.generation t rec.generation = .error e) : Fails r p metadata e

/-- Trace and generation of a payload are accepted, and get these ids. -/
def Accepts (r : Recorder) (p : Payload) (metadata : Fields Json) (ids : RecordIds) : Prop :=
  ∃ rec, Record.build r.release p metadata = .ok rec ∧ r.backend.trace rec.trace = .ok ids.trace ∧
    r.backend.generation ids.trace rec.generation = .ok ids.generation

variable {r : Recorder} {p : Payload} {metadata : Fields Json}

theorem fails_or_accepts (r : Recorder) (p : Payload) (metadata : Fields Json) :
    (∃ e, r.Fails p metadata e) ∨ ∃ ids, r.Accepts p metadata ids := by
  cases hbuild : Record.build r.release p metadata with
  | error e => exact .inl ⟨e, .build hbuild⟩
  | ok rec =>
    cases htrace : r.backend.trace rec.trace with
    | error e => exact .inl ⟨e, .trace hbuild htrace⟩
    | ok t =>
      cases hgeneration : r.backend.generation t rec.generation with
      | error e => exact .inl ⟨e, .generation hbuild htrace hgeneration⟩
      | ok g => exact .inr ⟨⟨t, g⟩, rec, hbuild, htrace, hgeneration⟩

theorem calls_of_unbuilt {e : LangfuseError}
    (h : Record.build r.release p metadata = .error e) : (r.record p metadata).calls = [] := by
  rw [record_calls_eq, h]

theorem calls_of_refused {rec : Record} {e : LangfuseError}
    (h : Record.build r.release p metadata = .ok rec) (ht : r.backend.trace rec.trace = .error e) :
    (r.record p metadata).calls = [.trace rec.trace] := by
  rw [record_calls_eq, h]
  dsimp only
  rw [LangfuseBackend.send_eq, ht]

theorem calls_of_traced {rec : Record} {t : String}
    (h : Record.build r.release p metadata = .ok rec) (ht : r.backend.trace rec.trace = .ok t) :
    (r.record p metadata).calls = [.trace rec.trace, .generation t rec.generation] := by
  rw [record_calls_eq, h]
  dsimp only
  rw [LangfuseBackend.send_eq, ht]

/-- A failure leaves no ids, and a line with its redacted text. -/
theorem record_of_fails {e : LangfuseError} (h : r.Fails p metadata e) :
    (r.record p metadata).ids = none ∧ ∃ message,
      (r.record p metadata).line = r.failureLine p.callId message (severity e) e := by
  unfold record LangfuseBackend.send
  cases h with
  | build h =>
    have hseverity : severity e = "exception" := by
      have hbackend := (Record.build_error metadata r.release p e h).not_backend
      rw [← LangfuseError.isBackend_iff] at hbackend
      exact if_neg hbackend
    rw [h, hseverity]
    exact ⟨rfl, _, rfl⟩
  | trace h ht =>
    rw [h]
    simp only [ht]
    exact ⟨trivial, _, rfl⟩
  | generation h ht hg =>
    rw [h]
    simp only [ht, hg]
    exact ⟨trivial, _, rfl⟩

theorem record_of_accepts {ids : RecordIds} (h : r.Accepts p metadata ids) :
    (r.record p metadata).ids = some ids ∧
      (r.record p metadata).line = successLine p.callId ids := by
  obtain ⟨rec, h, ht, hg⟩ := h
  unfold record LangfuseBackend.send
  rw [h]
  simp only [ht, hg]
  exact ⟨trivial, trivial⟩

theorem ids_iff {ids : RecordIds} :
    (r.record p metadata).ids = some ids ↔ r.Accepts p metadata ids := by
  constructor
  · intro h
    rcases fails_or_accepts r p metadata with ⟨e, hfails⟩ | ⟨ids', haccepts⟩
    · cases (record_of_fails hfails).1.symm.trans h
    · obtain rfl := Option.some.inj ((record_of_accepts haccepts).1.symm.trans h)
      exact haccepts
  · exact fun h => (record_of_accepts h).1

end Recorder

/-- The log lines of the highest level. -/
def errorLines (es : List JournalEntry) : List LogLine :=
  (logLines es).filter fun l => l.level = .error

/-- The lines of the highest level that a record leaves. -/
def Recorded.errors (done : Recorded) : List LogLine :=
  [done.line].filter fun l => l.level = .error

namespace Adapter

/-- The adapter, with hooks that take so long. -/
def taking (t : Option Nat) (a : Adapter) : Adapter :=
  { a with hook := fun p s => { a.hook p s with takes := t } }

theorem langfuse_ending (r : Recorder) (p : Payload) (s : MetadataStore) :
    ((langfuse r).hook p s).ending = .done := by
  unfold langfuse
  dsimp only
  split <;> rfl

theorem langfuse_entries (r : Recorder) {p : Payload} (hp : p.event ≠ .preCall)
    (s : MetadataStore) : ((langfuse r).hook p s).entries =
      (r.record p (p.metadata s)).calls.map (fun c => .call c (c.accepted r.backend)) ++
        [.log (r.record p (p.metadata s)).line] := by
  unfold langfuse
  dsimp only
  split
  · next h => exact absurd h hp
  · rfl

theorem logLines_langfuse (r : Recorder) (calls : List BackendCall) (line : LogLine) :
    logLines (calls.map (fun c => .call c (c.accepted r.backend)) ++ [.log line]) = [line] := by
  induction calls with
  | nil => rfl
  | cons c calls ih => exact ih

theorem errorLines_langfuse (r : Recorder) {p : Payload} (hp : p.event ≠ .preCall)
    (s : MetadataStore) :
    errorLines ((langfuse r).hook p s).entries = (r.record p (p.metadata s)).errors := by
  rw [errorLines, langfuse_entries r hp, logLines_langfuse, Recorded.errors]

theorem langfuse_failure (r : Recorder) (p : Payload) (s : MetadataStore) {limit : Deadline}
    {t : Option Nat} (ht : limit.allows t = true) (redactor : Redactor) :
    (((langfuse r).taking t).hook p s).failure limit redactor = none := by
  simp only [taking, HookRun.failure, ht, if_true, langfuse_ending]

end Adapter

namespace Dispatcher

/-- An adapter in the place of one that leaves the same and ends in the same way. -/
theorem runAll_replace {a b : Adapter} (hname : b.name = a.name) {limit : Deadline}
    {redactor : Redactor} {p : Payload} (hstore : ∀ s, (b.hook p s).store = (a.hook p s).store)
    (hfailure : ∀ s, (b.hook p s).failure limit redactor = (a.hook p s).failure limit redactor)
    (before after : List Adapter) (s : MetadataStore) :
    (runAll limit redactor p (before ++ b :: after) s).outcomes =
      (runAll limit redactor p (before ++ a :: after) s).outcomes := by
  induction before generalizing s with
  | nil => simp only [List.nil_append, runAll, hname, hstore, hfailure]
  | cons c before ih => simp only [List.cons_append, runAll, ih]

theorem runAll_outcome {a : Adapter} {limit : Deadline} {redactor : Redactor} {p : Payload}
    {f : Option AdapterFailure} (hfailure : ∀ s, (a.hook p s).failure limit redactor = f)
    (before after : List Adapter) (s : MetadataStore) :
    (runAll limit redactor p (before ++ a :: after) s).outcomes[before.length]? =
      some ⟨a.name, f⟩ := by
  induction before generalizing s with
  | nil => simp only [List.nil_append, runAll, hfailure, List.length_nil, List.getElem?_cons_zero]
  | cons c before ih =>
    simp only [List.cons_append, runAll, List.length_cons, List.getElem?_cons_succ, ih]

variable {r : Recorder} {d : Dispatcher} {live : LiveStore} {t : Option Nat}

/-- Within the deadline the report does not depend on the backend. -/
theorem dispatch_langfuse (r' : Recorder) (ht : (d.settings live).1.allows t = true)
    {t' : Option Nat} (ht' : (d.settings live).1.allows t' = true) (before after : List Adapter)
    (p : Payload) (s : MetadataStore) :
    (({ d with adapters := before ++ (Adapter.langfuse r').taking t' :: after } :
        Dispatcher).dispatch live p s).1 =
      (({ d with adapters := before ++ (Adapter.langfuse r).taking t :: after } :
        Dispatcher).dispatch live p s).1 := by
  have hstore : ∀ s, (((Adapter.langfuse r').taking t').hook p s).store =
      (((Adapter.langfuse r).taking t).hook p s).store :=
    fun s => (Adapter.langfuse_keeps r' p s).trans (Adapter.langfuse_keeps r p s).symm
  have hfailure : ∀ s, (((Adapter.langfuse r').taking t').hook p s).failure (d.settings live).1
      (d.settings live).2 = (((Adapter.langfuse r).taking t).hook p s).failure
        (d.settings live).1 (d.settings live).2 := by
    intro s
    rw [Adapter.langfuse_failure r' p s ht', Adapter.langfuse_failure r p s ht]
  have hname : ((Adapter.langfuse r').taking t').name = ((Adapter.langfuse r).taking t).name := rfl
  have houtcomes := runAll_replace hname hstore hfailure before after s
  exact congrArg (DispatchReport.mk p.event p.callId) houtcomes

theorem dispatch_langfuse_done (r : Recorder) (ht : (d.settings live).1.allows t = true)
    (before after : List Adapter) (p : Payload) (s : MetadataStore) :
    (({ d with adapters := before ++ (Adapter.langfuse r).taking t :: after } :
        Dispatcher).dispatch live p s).1.outcomes[before.length]? =
      some ⟨Recorder.adapterName, none⟩ :=
  runAll_outcome (fun s => Adapter.langfuse_failure r p s ht (d.settings live).2) before after s

end Dispatcher

namespace Recorder

/-- A record that cannot be built makes no call. Otherwise the trace is sent, and the generation
if and only if the trace is accepted, with the id of that trace. There are ids if and only if both
are accepted; otherwise one error is written, with the redacted text of the failure. The hooks
always succeed, and within the deadline a dispatch reports the same for every backend. -/
theorem record_contained (r : Recorder) (p : Payload) (s : MetadataStore) :
    let metadata := p.metadata s
    let done := r.record p metadata
    let run := (Adapter.langfuse r).hook p s
    (∀ e, Record.build r.release p metadata = .error e → done.calls = []) ∧
    (∀ rec, Record.build r.release p metadata = .ok rec →
      (∀ e, r.backend.trace rec.trace = .error e → done.calls = [.trace rec.trace]) ∧
      ∀ t, r.backend.trace rec.trace = .ok t →
        done.calls = [.trace rec.trace, .generation t rec.generation]) ∧
    (∀ ids, done.ids = some ids ↔ r.Accepts p metadata ids) ∧
    (done.ids.isSome → done.errors = []) ∧
    (done.ids = none → ∃ e, r.Fails p metadata e) ∧
    (∀ e, r.Fails p metadata e → done.ids = none ∧ ∃ line, done.errors = [line] ∧
      line.fields.get? "error" = some (.string (r.redactor.redact e.message)) ∧
      (e.FromBackend → line.fields.get? "severity" = some (.string "error")) ∧
      (¬e.FromBackend → line.fields.get? "severity" = some (.string "exception"))) ∧
    run.ending = .done ∧ run.store = s ∧
    (p.event ≠ .preCall →
      backendCalls run.entries = done.calls ∧ errorLines run.entries = done.errors) ∧
    ∀ (r' : Recorder) (d : Dispatcher) (live : LiveStore) (before after : List Adapter)
      (t t' : Option Nat), (d.settings live).1.allows t = true →
      (d.settings live).1.allows t' = true →
      let report := (({ d with adapters := before ++ (Adapter.langfuse r).taking t :: after } :
        Dispatcher).dispatch live p s).1
      report.outcomes[before.length]? = some ⟨Recorder.adapterName, none⟩ ∧
      (({ d with adapters := before ++ (Adapter.langfuse r').taking t' :: after } :
        Dispatcher).dispatch live p s).1 = report := by
  refine ⟨fun e h => calls_of_unbuilt h,
    fun rec h => ⟨fun e ht => calls_of_refused h ht, fun t ht => calls_of_traced h ht⟩,
    fun ids => ids_iff, fun hsome => ?_, fun hnone => ?_, fun e hfails => ?_,
    Adapter.langfuse_ending r p s, Adapter.langfuse_keeps r p s, fun hp => ⟨?_, ?_⟩,
    fun r' d live before after t t' ht ht' => ⟨?_, ?_⟩⟩
  · obtain ⟨ids, hids⟩ := Option.isSome_iff_exists.mp hsome
    rw [Recorded.errors, (record_of_accepts (ids_iff.mp hids)).2]
    rfl
  · rcases fails_or_accepts r p (p.metadata s) with hfails | ⟨ids, haccepts⟩
    · exact hfails
    · cases (record_of_accepts haccepts).1.symm.trans hnone
  · obtain ⟨hids, message, hline⟩ := record_of_fails hfails
    have herrors : (r.record p (p.metadata s)).errors =
        [r.failureLine p.callId message (severity e) e] := by
      rw [Recorded.errors, hline]
      rfl
    refine ⟨hids, _, herrors, rfl, fun h => ?_, fun h => ?_⟩
    · have hseverity : severity e = "error" := if_pos (e.isBackend_iff.mpr h)
      rw [failureLine, hseverity]
      rfl
    · have hseverity : severity e = "exception" :=
        if_neg (fun hb => h (e.isBackend_iff.mp hb))
      rw [failureLine, hseverity]
      rfl
  · rw [Adapter.langfuse_entries r hp, Adapter.backendCalls_langfuse]
  · exact Adapter.errorLines_langfuse r hp s
  · exact Dispatcher.dispatch_langfuse_done r ht before after p s
  · exact Dispatcher.dispatch_langfuse r' ht ht' before after p s

/-- A backend that takes traces, but no generations. -/
def picky : Recorder where
  backend :=
    { trace := fun p => .ok p.id
      generation := fun _ _ => .error (.rejected "evt-1" "no access for sk-abcdefgh") }

def failed : Payload := { Dispatcher.greeting with event := .failure }

theorem picky_contained :
    (∃ rec : Record, (picky.record failed []).calls =
      [.trace rec.trace, .generation "1" rec.generation]) ∧
    (∃ line, (picky.record failed []).errors = [line] ∧ line.fields.get? "error" =
      some (.string "Langfuse rejected event evt-1: no access for [REDACTED_API_KEY]") ∧
      line.fields.get? "severity" = some (.string "error")) ∧
    (({ Dispatcher.motley with adapters := [(Adapter.langfuse picky).taking (some 100)] } :
      Dispatcher).dispatch {} failed {}).1.outcomes[0]? = some ⟨"langfuse", none⟩ := by
  obtain ⟨-, hcalls, -, -, -, hfails, -, -, -, hreport⟩ := record_contained picky failed {}
  obtain ⟨rec, hbuild⟩ : ∃ rec, Record.build none failed [] = .ok rec := ⟨_, rfl⟩
  have htrace : picky.backend.trace rec.trace = .ok "1" := by
    cases hbuild
    rfl
  obtain ⟨-, line, herrors, htext, hseverity, -⟩ := hfails _ (.generation hbuild htrace rfl)
  refine ⟨⟨rec, (hcalls rec hbuild).2 "1" htrace⟩, ⟨line, herrors, ?_, ?_⟩, ?_⟩
  · have hredacted :
        picky.redactor.redact "Langfuse rejected event evt-1: no access for sk-abcdefgh" =
          "Langfuse rejected event evt-1: no access for [REDACTED_API_KEY]" := by decide +kernel
    exact htext.trans (congrArg (fun text => some (Json.string text)) hredacted)
  · exact hseverity (.inr (.inr ⟨_, _, rfl⟩))
  · have hintime : (Dispatcher.motley.settings {}).1.allows (some 100) = true := by decide +kernel
    exact (hreport picky Dispatcher.motley {} [] [] (some 100) (some 100) hintime hintime).1

end Recorder
end CallScribe
