import CallScribe.Call.Context
import CallScribe.Dispatch.TracingLog
import CallScribe.Proofs.Dispatch.Isolation
import CallScribe.Proofs.Metadata.Store
import Mathlib.Data.List.Induction
import Mathlib.Logic.Function.Basic

/-!
# CallScribe.Proofs.Dispatch.Measurement

What is measured agrees with what is reported.

* `ResultClass`: how an outcome counts.
* `Metrics.key_outcome_inj`: different counters have different keys, whatever adapters are called.
* `Metrics.get?_tally_of_ne`, `Metrics.get?_tally_size`: totals from the samples of a journal.
* `Adapter.Unmetered`: the adapter leaves the measurements to the dispatcher.
* `Switchboard`: dispatchers with one journal, and the reports that they have returned so far.
* `Switchboard.Agrees`: the invariant of a run, with `Agrees.apply` for one step.
* `Switchboard.run_measured`: after any run every counter, every number of timings and the gauge
  are those of the reports and of the lists of adapters.
-/

namespace CallScribe

/-- How an outcome counts. -/
inductive ResultClass
  | ok | error | timeout | panicked
deriving DecidableEq, Repr

namespace ResultClass

def label : ResultClass → String
  | .ok => "ok"
  | .error => "error"
  | .timeout => "timeout"
  | .panicked => "panicked"

def all : List ResultClass := [.ok, .error, .timeout, .panicked]

theorem mem_all (c : ResultClass) : c ∈ all := by cases c <;> decide

end ResultClass

theorem CallEvent.mem_all (e : CallEvent) : e ∈ all := by cases e <;> decide

def AdapterOutcome.resultClass (o : AdapterOutcome) : ResultClass :=
  match o.failure with
  | none => .ok
  | some (.error _) => .error
  | some (.timeout _) => .timeout
  | some (.panicked _) => .panicked

theorem AdapterOutcome.label_eq (o : AdapterOutcome) : o.label = o.resultClass.label := by
  obtain ⟨name, failure⟩ := o
  cases failure with
  | none => rfl
  | some f => cases f <;> rfl

namespace Metrics

variable {a a' : String} {e e' : CallEvent} {c c' : ResultClass} {k : String}

def labelsText (e : CallEvent) (label : String) : String :=
  String.join [",event=", e.name, ",outcome=", label, "\x7d"]

theorem key_outcome (a : String) (e : CallEvent) (label : String) :
    (key (.outcome a e label)).toList =
      "callback_dispatch_total\x7badapter=".toList ++
        (a.toList ++ (labelsText e label).toList) := by
  simp [key, labelsText, String.join, String.toList_append]

theorem key_duration (a : String) : (key (.duration a)).toList =
    "callback_dispatch_duration_seconds\x7badapter=".toList ++ (a.toList ++ ['\x7d']) := by
  simp [key, String.join, String.toList_append]

theorem eq_of_labelsText_suffix
    (h : (labelsText e c.label).toList <:+ (labelsText e' c'.label).toList) :
    e = e' ∧ c = c' := by
  have hall : ∀ e ∈ CallEvent.all, ∀ c ∈ ResultClass.all, ∀ e' ∈ CallEvent.all,
      ∀ c' ∈ ResultClass.all,
      (labelsText e c.label).toList <:+ (labelsText e' c'.label).toList → e = e' ∧ c = c' := by
    decide +kernel
  exact hall e e.mem_all c c.mem_all e' e'.mem_all c' c'.mem_all h

/-- A name may hold any text, also one that looks like labels: the labels are read from the end. -/
theorem key_outcome_inj (h : key (.outcome a e c.label) = key (.outcome a' e' c'.label)) :
    a = a' ∧ e = e' ∧ c = c' := by
  have hlist : a.toList ++ (labelsText e c.label).toList =
      a'.toList ++ (labelsText e' c'.label).toList := by
    have htexts := congrArg String.toList h
    rw [key_outcome, key_outcome] at htexts
    exact List.append_cancel_left htexts
  have hlabels : e = e' ∧ c = c' := by
    have hsuffix : (labelsText e c.label).toList <:+
        a'.toList ++ (labelsText e' c'.label).toList := ⟨a.toList, hlist⟩
    -- one of the two endings is an ending of the other, and no label is that of another label
    rcases List.suffix_or_suffix_of_suffix hsuffix (List.suffix_append _ _) with h | h
    · exact eq_of_labelsText_suffix h
    · obtain ⟨he, hc⟩ := eq_of_labelsText_suffix h
      exact ⟨he.symm, hc.symm⟩
  obtain ⟨rfl, rfl⟩ := hlabels
  exact ⟨String.toList_injective (List.append_cancel_right hlist), rfl, rfl⟩

theorem key_duration_inj (h : key (.duration a) = key (.duration a')) : a = a' := by
  have htexts := congrArg String.toList h
  rw [key_duration, key_duration] at htexts
  exact String.toList_injective (List.append_cancel_right (List.append_cancel_left htexts))

theorem key_outcome_ne_duration : key (.outcome a e c.label) ≠ key (.duration a') := by
  intro h
  have htexts := congrArg String.toList h
  rw [key_outcome, key_duration] at htexts
  simp at htexts

theorem key_outcome_ne_registered {label : String} (n : Nat) :
    key (.outcome a e label) ≠ key (.registered n) := by
  intro h
  have htexts := congrArg String.toList h
  simp [key, String.join, String.toList_append] at htexts

theorem key_duration_ne_registered (n : Nat) : key (.duration a) ≠ key (.registered n) := by
  intro h
  have htexts := congrArg String.toList h
  simp [key, String.join, String.toList_append] at htexts

end Metrics

def JournalEntry.sample? : JournalEntry → Option MetricSample
  | .metric m => some m
  | _ => none

def samples (es : List JournalEntry) : List MetricSample := es.filterMap JournalEntry.sample?

/-- The number that a measurement of the adapters gives. -/
def MetricSample.size? : MetricSample → Option Nat
  | .registered n => some n
  | _ => none

theorem samples_append (es es' : List JournalEntry) :
    samples (es ++ es') = samples es ++ samples es' := List.filterMap_append

theorem samples_within (span : LogSpan) (es : List JournalEntry) :
    samples (es.map (JournalEntry.within span)) = samples es := by
  have hentry : JournalEntry.sample? ∘ JournalEntry.within span = JournalEntry.sample? := by
    funext e
    cases e <;> rfl
  rw [samples, List.filterMap_map, hentry, samples]

namespace Metrics

variable {k : String}

theorem tally_eq (es : List JournalEntry) : tally es = (samples es).foldl add [] := by
  unfold tally
  generalize ([] : Fields Nat) = totals
  induction es generalizing totals with
  | nil => rfl
  | cons e es ih => cases e <;> exact ih _

theorem get?_foldl_add (hk : ∀ n, key (.registered n) ≠ k) (ms : List MetricSample)
    (totals : Fields Nat) : ((ms.foldl add totals).get? k).getD 0 =
      (totals.get? k).getD 0 + ms.countP (fun m => key m = k) := by
  induction ms generalizing totals with
  | nil => rfl
  | cons m ms ih =>
    rw [List.foldl_cons, ih, List.countP_cons]
    by_cases hm : key m = k
    · cases m with
      | registered n => exact absurd hm (hk n)
      | outcome a e label =>
        simp only [add, hm, Fields.get?_insert_self, Option.getD_some, decide_true, if_true]
        omega
      | duration a =>
        simp only [add, hm, Fields.get?_insert_self, Option.getD_some, decide_true, if_true]
        omega
    · have hkept : (add totals m).get? k = totals.get? k := by
        cases m <;> exact Fields.get?_insert_of_ne (Ne.symm hm) _ totals
      simp [hkept, hm]

/-- Counters and timings: how often the key was measured. -/
theorem get?_tally_of_ne (hk : ∀ n, key (.registered n) ≠ k) (es : List JournalEntry) :
    ((tally es).get? k).getD 0 = (samples es).countP (fun m => key m = k) := by
  rw [tally_eq, get?_foldl_add hk]
  exact Nat.zero_add _

theorem get?_foldl_add_size (n : Nat) (ms : List MetricSample) (totals : Fields Nat) :
    (ms.foldl add totals).get? (key (.registered n)) =
      ((ms.filterMap MetricSample.size?).getLast?).or (totals.get? (key (.registered n))) := by
  induction ms generalizing totals with
  | nil => rfl
  | cons m ms ih =>
    rw [List.foldl_cons, ih]
    cases m with
    | registered size =>
      have hnew : (add totals (.registered size)).get? (key (.registered n)) = some size :=
        Fields.get?_insert_self _ size totals
      have hsizes : (MetricSample.registered size :: ms).filterMap MetricSample.size? =
          size :: ms.filterMap MetricSample.size? := rfl
      rw [hnew, hsizes, List.getLast?_cons]
      cases (ms.filterMap MetricSample.size?).getLast? <;> rfl
    | outcome a e label =>
      rw [List.filterMap_cons_none rfl]
      exact congrArg _ (Fields.get?_insert_of_ne (key_outcome_ne_registered n).symm _ totals)
    | duration a =>
      rw [List.filterMap_cons_none rfl]
      exact congrArg _ (Fields.get?_insert_of_ne (key_duration_ne_registered n).symm _ totals)

/-- The gauge: the number that was measured last. -/
theorem get?_tally_size (n : Nat) (es : List JournalEntry) :
    (tally es).get? (key (.registered n)) =
      ((samples es).filterMap MetricSample.size?).getLast? := by
  rw [tally_eq, get?_foldl_add_size]
  exact Option.or_none

end Metrics

/-- The hook writes none of the metrics itself: they are the dispatcher's. -/
def Adapter.Unmetered (a : Adapter) : Prop := ∀ p s, samples (a.hook p s).entries = []

namespace Adapter

theorem tracing_unmetered (r : Redactor) : (tracing r).Unmetered := fun _ _ => rfl

theorem langfuse_unmetered (r : Recorder) : (langfuse r).Unmetered := by
  intro p s
  unfold langfuse
  dsimp only
  split
  · rfl
  · generalize (r.record p (p.metadata s)).calls = calls
    rw [samples_append, List.append_eq_nil_iff]
    refine ⟨?_, rfl⟩
    induction calls with
    | nil => rfl
    | cons c calls ih => exact ih

end Adapter

def measurements (x : CallEvent × AdapterOutcome) : List MetricSample :=
  [.outcome x.2.adapter x.1 x.2.label, .duration x.2.adapter]

/-- The outcomes of a report, each with the event. -/
def DispatchReport.results (r : DispatchReport) : List (CallEvent × AdapterOutcome) :=
  r.outcomes.map fun o => (r.event, o)

namespace Dispatcher

theorem samples_runAll {as : List Adapter} (h : ∀ a ∈ as, a.Unmetered) (limit : Deadline)
    (r : Redactor) (p : Payload) (s : MetadataStore) :
    samples (runAll limit r p as s).entries = [] := by
  induction as generalizing s with
  | nil => rfl
  | cons a as ih =>
    obtain ⟨ha, has⟩ := List.forall_mem_cons.mp h
    rw [runAll]
    dsimp only
    rw [samples_append, ha p s, ih has, List.append_nil]

theorem samples_outcomes (p : Payload) (os : List AdapterOutcome) :
    samples (os.flatMap (outcomeEntries p)) =
      (os.map fun o => (p.event, o)).flatMap measurements := by
  induction os with
  | nil => rfl
  | cons o os ih =>
    have hone : samples (outcomeEntries p o) = measurements (p.event, o) := by
      unfold outcomeEntries
      cases o.failure <;> rfl
    rw [List.flatMap_cons, samples_append, hone, ih, List.map_cons, List.flatMap_cons]

/-- A dispatch measures exactly what it reports, in the same order. -/
theorem samples_dispatch {d : Dispatcher} (h : ∀ a ∈ d.adapters, a.Unmetered) (live : LiveStore)
    (p : Payload) (s : MetadataStore) : samples (d.dispatch live p s).2.2 =
      (d.dispatch live p s).1.results.flatMap measurements := by
  unfold dispatch
  dsimp only
  rw [samples_append, samples_within, samples_runAll h, samples_outcomes, List.nil_append]
  rfl

end Dispatcher

/-- Dispatchers that share metadata and a journal, with the reports returned so far. -/
structure Switchboard where
  dispatchers : Nat → Dispatcher
  scene : CallScene := {}
  reports : List DispatchReport := []

inductive SwitchStep
  | register (i : Nat) (a : Adapter)
  | replaceAll (i : Nat) (as : List Adapter)
  | dispatch (i : Nat) (live : LiveStore) (p : Payload)

namespace SwitchStep

def adapters : SwitchStep → List Adapter
  | .register _ a => [a]
  | .replaceAll _ as => as
  | .dispatch .. => []

/-- The dispatcher whose list of adapters the step changes. -/
def changed? : SwitchStep → Option Nat
  | .register i _ | .replaceAll i _ => some i
  | .dispatch .. => none

end SwitchStep

namespace Switchboard

/-- A dispatcher with another list of adapters, the length of which is measured. -/
def change (b : Switchboard) (i : Nat) (d : Dispatcher) : Switchboard :=
  { b with
    dispatchers := Function.update b.dispatchers i d
    scene := b.scene.write [d.countEntry] }

end Switchboard

def SwitchStep.apply (e : SwitchStep) (b : Switchboard) : Switchboard :=
  match e with
  | .register i a => b.change i ((b.dispatchers i).register a)
  | .replaceAll i as => b.change i ((b.dispatchers i).replaceAll as)
  | .dispatch i live p =>
    let (report, store, entries) := (b.dispatchers i).dispatch live p b.scene.store
    { b with
      scene := { b.scene with store }.write entries
      reports := b.reports ++ [report] }

namespace Switchboard

variable {b : Switchboard}

def run (b : Switchboard) (steps : List SwitchStep) : Switchboard :=
  steps.foldl (fun b e => e.apply b) b

theorem run_concat (b : Switchboard) (steps : List SwitchStep) (e : SwitchStep) :
    b.run (steps ++ [e]) = e.apply (b.run steps) := by
  rw [run, List.foldl_append]
  rfl

def results (b : Switchboard) : List (CallEvent × AdapterOutcome) :=
  b.reports.flatMap DispatchReport.results

def counter (b : Switchboard) (a : String) (e : CallEvent) (c : ResultClass) : Nat :=
  ((Metrics.tally b.scene.journal).get? (Metrics.key (.outcome a e c.label))).getD 0

def timings (b : Switchboard) (a : String) : Nat :=
  ((Metrics.tally b.scene.journal).get? (Metrics.key (.duration a))).getD 0

/-- The gauge, once it has been set. -/
def gauge (b : Switchboard) : Option Nat :=
  (Metrics.tally b.scene.journal).get? (Metrics.key (.registered 0))

/-- The measurements of the journal are those of the reports, and the last number of adapters that
was measured is that of the dispatcher changed last. -/
structure Agrees (b : Switchboard) (last : Option Nat) : Prop where
  unmetered : ∀ i, ∀ a ∈ (b.dispatchers i).adapters, a.Unmetered
  counted : (samples b.scene.journal).filter (fun m => m.size?.isNone) =
    b.results.flatMap measurements
  sized : ((samples b.scene.journal).filterMap MetricSample.size?).getLast? =
    last.map fun i => (b.dispatchers i).adapters.length

namespace Agrees

theorem change {last : Option Nat} (h : b.Agrees last) {i : Nat} {d : Dispatcher}
    (hd : ∀ a ∈ d.adapters, a.Unmetered) : (b.change i d).Agrees (some i) := by
  have hjournal : samples (b.change i d).scene.journal =
      samples b.scene.journal ++ [.registered d.adapters.length] := samples_append _ _
  refine ⟨fun j a ha => ?_, ?_, ?_⟩
  · -- the other dispatchers keep their adapters
    by_cases hij : j = i
    · subst hij
      simp only [Switchboard.change, Function.update_self] at ha
      exact hd a ha
    · simp only [Switchboard.change, Function.update_of_ne hij] at ha
      exact h.unmetered j a ha
  · rw [hjournal, List.filter_append, h.counted]
    exact List.append_nil _
  · rw [hjournal, List.filterMap_append]
    simp [MetricSample.size?, Switchboard.change]

theorem size?_measurements (xs : List (CallEvent × AdapterOutcome)) :
    (xs.flatMap measurements).filterMap MetricSample.size? = [] := by
  induction xs with
  | nil => rfl
  | cons x xs ih =>
    rw [List.flatMap_cons, List.filterMap_append, ih]
    rfl

theorem apply {last : Option Nat} (h : b.Agrees last) {e : SwitchStep}
    (he : ∀ a ∈ e.adapters, a.Unmetered) : (e.apply b).Agrees (e.changed?.or last) := by
  cases e with
  | register i a =>
    refine h.change fun a' ha' => ?_
    rcases List.mem_append.mp ha' with ha' | ha'
    · exact h.unmetered i a' ha'
    · exact he a' ha'
  | replaceAll i as => exact h.change he
  | dispatch i live p =>
    have hreport := Dispatcher.samples_dispatch (h.unmetered i) live p b.scene.store
    have hjournal : samples ((SwitchStep.dispatch i live p).apply b).scene.journal =
        samples b.scene.journal ++
          ((b.dispatchers i).dispatch live p b.scene.store).1.results.flatMap measurements := by
      rw [← hreport]
      exact samples_append _ _
    have hresults : ((SwitchStep.dispatch i live p).apply b).results = b.results ++
        ((b.dispatchers i).dispatch live p b.scene.store).1.results := by
      simp [SwitchStep.apply, results]
    have hcounts : ∀ xs : List (CallEvent × AdapterOutcome),
        (xs.flatMap measurements).filter (fun m => m.size?.isNone) = xs.flatMap measurements := by
      intro xs
      refine List.filter_eq_self.mpr fun m hm => ?_
      obtain ⟨x, -, hx⟩ := List.mem_flatMap.mp hm
      simp only [measurements, List.mem_cons, List.not_mem_nil, or_false] at hx
      rcases hx with rfl | rfl <;> rfl
    refine ⟨h.unmetered, ?_, ?_⟩
    · rw [hjournal, hresults, List.filter_append, h.counted, hcounts, List.flatMap_append]
    · rw [hjournal, List.filterMap_append, size?_measurements, List.append_nil]
      exact h.sized

theorem run {last : Option Nat} (h : b.Agrees last) {steps : List SwitchStep}
    (hsteps : ∀ e ∈ steps, ∀ a ∈ e.adapters, a.Unmetered) :
    (b.run steps).Agrees ((steps.filterMap SwitchStep.changed?).getLast?.or last) := by
  -- on the last step, because it decides which dispatcher was changed last
  induction steps using List.reverseRecOn with
  | nil => exact h
  | append_singleton steps e ih =>
    have hrun := (ih fun e' he' => hsteps e' (List.mem_append_left _ he')).apply
      (hsteps e (List.mem_append_right _ (List.mem_singleton_self e)))
    rw [run_concat, List.filterMap_append]
    cases hchanged : e.changed? with
    | none => simpa [hchanged] using hrun
    | some i => simpa [hchanged] using hrun

end Agrees

theorem countP_measurements {p : MetricSample → Bool} {q : CallEvent × AdapterOutcome → Bool}
    (h : ∀ x, (measurements x).countP p = if q x then 1 else 0)
    (xs : List (CallEvent × AdapterOutcome)) :
    (xs.flatMap measurements).countP p = xs.countP q := by
  induction xs with
  | nil => rfl
  | cons x xs ih =>
    rw [List.flatMap_cons, List.countP_append, ih, h, List.countP_cons]
    omega

/-- A key that is not that of the gauge was measured once for each outcome that it belongs to. -/
theorem Agrees.get?_tally {last : Option Nat} (h : b.Agrees last) {k : String}
    (hk : ∀ n, Metrics.key (.registered n) ≠ k) {q : CallEvent × AdapterOutcome → Bool}
    (hq : ∀ x, (measurements x).countP (fun m => Metrics.key m = k) = if q x then 1 else 0) :
    ((Metrics.tally b.scene.journal).get? k).getD 0 = b.results.countP q := by
  have hcounts : (samples b.scene.journal).countP (fun m => Metrics.key m = k) =
      ((samples b.scene.journal).filter fun m => m.size?.isNone).countP
        (fun m => Metrics.key m = k) := by
    rw [List.countP_filter]
    refine List.countP_congr fun m _ => ?_
    cases m with
    | registered n => simp [hk n]
    | outcome a e label => simp [MetricSample.size?]
    | duration a => simp [MetricSample.size?]
  rw [Metrics.get?_tally_of_ne hk, hcounts, h.counted, countP_measurements hq]

theorem countP_counter (a : String) (e : CallEvent) (c : ResultClass)
    (x : CallEvent × AdapterOutcome) :
    (measurements x).countP (fun m => Metrics.key m = Metrics.key (.outcome a e c.label)) =
      if x.1 = e ∧ x.2.adapter = a ∧ x.2.resultClass = c then 1 else 0 := by
  have hduration : Metrics.key (.duration x.2.adapter) ≠ Metrics.key (.outcome a e c.label) :=
    Metrics.key_outcome_ne_duration.symm
  rw [measurements, AdapterOutcome.label_eq]
  by_cases hx : x.1 = e ∧ x.2.adapter = a ∧ x.2.resultClass = c
  · obtain ⟨rfl, rfl, rfl⟩ := hx
    simp [hduration]
  · have houtcome : Metrics.key (.outcome x.2.adapter x.1 x.2.resultClass.label) ≠
        Metrics.key (.outcome a e c.label) := by
      intro h
      obtain ⟨ha, he, hc⟩ := Metrics.key_outcome_inj h
      exact hx ⟨he, ha, hc⟩
    simp [hduration, houtcome, hx]

theorem countP_timings (a : String) (x : CallEvent × AdapterOutcome) :
    (measurements x).countP (fun m => Metrics.key m = Metrics.key (.duration a)) =
      if x.2.adapter = a then 1 else 0 := by
  have houtcome : Metrics.key (.outcome x.2.adapter x.1 x.2.label) ≠ Metrics.key (.duration a) := by
    rw [AdapterOutcome.label_eq]
    exact Metrics.key_outcome_ne_duration
  rw [measurements]
  by_cases hx : x.2.adapter = a
  · subst hx
    simp [houtcome]
  · have hduration : Metrics.key (.duration x.2.adapter) ≠ Metrics.key (.duration a) :=
      fun h => hx (Metrics.key_duration_inj h)
    simp [houtcome, hduration, hx]

/-- After any run of changes and dispatches each counter is the number of the reported outcomes of
that adapter, event and class, and each number of timings that of the outcomes of that adapter. The
gauge is the number of adapters of the dispatcher that was changed last. -/
theorem run_measured (hjournal : samples b.scene.journal = []) (hreports : b.reports = [])
    (hown : ∀ i, ∀ a ∈ (b.dispatchers i).adapters, a.Unmetered) {steps : List SwitchStep}
    (hsteps : ∀ e ∈ steps, ∀ a ∈ e.adapters, a.Unmetered) :
    (∀ a e c, (b.run steps).counter a e c = (b.run steps).results.countP fun x =>
      x.1 = e ∧ x.2.adapter = a ∧ x.2.resultClass = c) ∧
    (∀ a, (b.run steps).timings a = (b.run steps).results.countP fun x => x.2.adapter = a) ∧
    (b.run steps).gauge = (steps.filterMap SwitchStep.changed?).getLast?.map fun i =>
      ((b.run steps).dispatchers i).adapters.length := by
  have hstart : b.Agrees none := by
    refine ⟨hown, ?_, ?_⟩
    · rw [hjournal, results, hreports]
      rfl
    · rw [hjournal]
      rfl
  have hend := hstart.run hsteps
  rw [Option.or_none] at hend
  refine ⟨fun a e c => ?_, fun a => ?_, ?_⟩
  · exact hend.get?_tally (fun n => (Metrics.key_outcome_ne_registered n).symm)
      fun x => by simpa using countP_counter a e c x
  · exact hend.get?_tally (fun n => (Metrics.key_duration_ne_registered n).symm)
      fun x => by simpa using countP_timings a x
  · rw [gauge, Metrics.get?_tally_size]
    exact hend.sized

/-- Two dispatchers in which three adapters have one name. -/
def twins : List SwitchStep :=
  [.replaceAll 0 [Adapter.failing "twin" (.other "?"), Adapter.tracing Redactor.builtin,
      Adapter.langfuse { backend := ⟨fun p => .ok p.id, fun _ p => .ok p.id⟩ },
      Adapter.sleeping "twin" 101],
    .dispatch 0 {} Dispatcher.greeting, .register 1 (Adapter.failing "twin" (.other "!")),
    .dispatch 1 {} Dispatcher.greeting, .dispatch 0 {} Dispatcher.greeting]

theorem twins_measured :
    let b := (⟨fun _ => { limit := Deadline.ofMillis 100 }, {}, []⟩ : Switchboard).run twins
    b.counter "twin" .preCall .error = 3 ∧ b.counter "twin" .preCall .timeout = 2 ∧
      b.timings "twin" = 5 ∧ b.gauge = some 1 := by
  have hsteps : ∀ e ∈ twins, ∀ a ∈ e.adapters, a.Unmetered := by
    intro e he a ha
    simp only [twins, List.mem_cons, List.not_mem_nil, or_false] at he
    rcases he with rfl | rfl | rfl | rfl | rfl
    · simp only [SwitchStep.adapters, List.mem_cons, List.not_mem_nil, or_false] at ha
      rcases ha with rfl | rfl | rfl | rfl
      · exact fun _ _ => rfl
      · exact Adapter.tracing_unmetered Redactor.builtin
      · exact Adapter.langfuse_unmetered _
      · exact fun _ _ => rfl
    · cases ha
    · cases List.mem_singleton.mp ha
      exact fun _ _ => rfl
    · cases ha
    · cases ha
  obtain ⟨hcounters, htimings, hgauge⟩ := run_measured
    (b := ⟨fun _ => { limit := Deadline.ofMillis 100 }, {}, []⟩) rfl rfl
    (fun i a ha => by cases ha) hsteps
  refine ⟨(hcounters _ _ _).trans ?_, (hcounters _ _ _).trans ?_, (htimings _).trans ?_,
    hgauge.trans ?_⟩
  · decide +kernel
  · decide +kernel
  · decide +kernel
  · decide +kernel

end Switchboard
end CallScribe
