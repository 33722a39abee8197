import CallScribe.Proofs.Dispatch.Calls

/-!
# CallScribe.Proofs.Dispatch.Flight

A dispatch while it is under way: one task for each adapter, all at once, against a clock.

* `Task`: the hook of an adapter under the deadline. `Task.poll` looks at it at some time: a hook
  that has ended counts even if the deadline is over as well.
* `Flight`: the tasks of a dispatch, and the outcomes that were taken from them so far.
* `Flight.step`: time passes while no task is due, a due task is looked at, or the outcome of the
  next task in order is taken. Which of them happens is open.
* `Flight.Sound`: the invariant of a flight, with `Sound.step` for one step.
* `Flight.step_decreases`, `Flight.complete_of_stuck`: every flight ends, and ends complete.
* `Dispatcher.flight_outcomes`: a complete flight has the outcomes that `Dispatcher.dispatch`
  computes, whichever way it went.
-/

namespace CallScribe

/-- How a task ends: with its hook, or with the deadline. -/
inductive TaskEnd
  | ended (e : HookEnd)
  | elapsed
deriving DecidableEq, Repr

def TaskEnd.failure (limit : Deadline) (r : Redactor) : TaskEnd → Option AdapterFailure
  | .ended .done => none
  | .ended (.failed e) => some (.error (r.redact e.message))
  | .ended (.panicked text) => some (.panicked (r.redact (text.getD wordlessPanic)))
  | .elapsed => some (.timeout (limit.nanos / 1000000))

/-- The end of a hook that nobody disturbs. -/
def HookRun.taskEnd (run : HookRun) (limit : Deadline) : TaskEnd :=
  if limit.allows run.takes then .ended run.ending else .elapsed

theorem HookRun.failure_taskEnd (run : HookRun) (limit : Deadline) (r : Redactor) :
    (run.taskEnd limit).failure limit r = run.failure limit r := by
  unfold taskEnd failure
  split
  · cases run.ending <;> rfl
  · rfl

theorem Deadline.allows_some (limit : Deadline) (ms : Nat) :
    limit.allows (some ms) = decide (ms ≤ limit.ticks) := by
  cases ms <;> simp [allows]

/-- The hook of an adapter under a deadline. Without an end it is still under way. -/
structure Task where
  adapter : String
  run : HookRun
  ending : Option TaskEnd := none

namespace Task

variable {limit : Deadline} {r : Redactor} {now : Nat} {t : Task}

def ready (now : Nat) (t : Task) : Bool := t.run.takes.any (· ≤ now)

def due (limit : Deadline) (now : Nat) (t : Task) : Bool :=
  t.ending.isNone && (t.ready now || limit.ticks ≤ now)

def poll (now : Nat) (t : Task) : Task :=
  { t with ending := some (if t.ready now then .ended t.run.ending else .elapsed) }

def outcome (limit : Deadline) (r : Redactor) (t : Task) : AdapterOutcome :=
  ⟨t.adapter, t.run.failure limit r⟩

/-- A task that is under way has missed neither its hook's end nor the deadline, and one that has
ended has ended as it had to. -/
def Sound (limit : Deadline) (now : Nat) (t : Task) : Prop :=
  match t.ending with
  | none => now ≤ limit.ticks ∧ ∀ ms, t.run.takes = some ms → now ≤ ms
  | some e => e = t.run.taskEnd limit

theorem Sound.poll (h : t.Sound limit now) (hdue : t.due limit now = true) :
    (t.poll now).Sound limit now := by
  simp only [due, Bool.and_eq_true, Option.isNone_iff_eq_none, Bool.or_eq_true,
    decide_eq_true_eq] at hdue
  obtain ⟨hnone, hdue⟩ := hdue
  simp only [Sound, hnone] at h
  obtain ⟨hlimit, htakes⟩ := h
  have hallows : limit.allows t.run.takes = t.ready now := by
    unfold ready at hdue ⊢
    cases hrun : t.run.takes with
    | none => rfl
    | some ms =>
      have hms := htakes ms hrun
      simp only [hrun, Option.any_some, decide_eq_true_eq] at hdue ⊢
      rw [Deadline.allows_some, decide_eq_decide]
      omega
  rw [Sound, Task.poll, HookRun.taskEnd, hallows]

theorem Sound.tick (h : t.Sound limit now) (hdue : t.due limit now = false) :
    t.Sound limit (now + 1) := by
  unfold Sound at h ⊢
  cases hend : t.ending with
  | some e => rwa [hend] at h
  | none =>
    rw [hend] at h
    simp only [due, hend, Option.isNone_none, Bool.true_and, Bool.or_eq_false_iff,
      decide_eq_false_iff_not] at hdue
    obtain ⟨hready, hover⟩ := hdue
    refine ⟨by omega, fun ms hms => ?_⟩
    simp only [ready, hms, Option.any_some, decide_eq_false_iff_not] at hready
    omega

end Task

/-- A dispatch under way, with the outcomes that were taken from its tasks so far and what was
written down about them. -/
structure Flight where
  limit : Deadline
  redactor : Redactor
  payload : Payload
  tasks : List Task
  now : Nat := 0
  outcomes : List AdapterOutcome := []
  written : List JournalEntry := []

inductive FlightStep
  | tick
  | poll (i : Nat)
  | take

namespace Flight

variable {f g : Flight}

/-- Time passes while a task is under way and none is due; a task that is due is looked at; an
outcome is taken from the next task in order, once that has ended. -/
def step (f : Flight) : FlightStep → Option Flight
  | .tick =>
    if f.tasks.any (fun t => t.ending.isNone) && f.tasks.all (fun t => !t.due f.limit f.now) then
      some { f with now := f.now + 1 }
    else none
  | .poll i =>
    match f.tasks[i]? with
    | some t =>
      if t.due f.limit f.now then some { f with tasks := f.tasks.set i (t.poll f.now) } else none
    | none => none
  | .take =>
    match f.tasks[f.outcomes.length]? with
    | some ⟨name, _, some e⟩ =>
      let o : AdapterOutcome := ⟨name, e.failure f.limit f.redactor⟩
      some { f with
        outcomes := f.outcomes ++ [o]
        written := f.written ++ Dispatcher.outcomeEntries f.payload o }
    | _ => none

theorem step_cases {e : FlightStep} (h : f.step e = some g) :
    ((∃ t ∈ f.tasks, t.ending = none) ∧ (∀ t ∈ f.tasks, t.due f.limit f.now = false) ∧
      g = { f with now := f.now + 1 }) ∨
    (∃ i t, f.tasks[i]? = some t ∧ t.due f.limit f.now = true ∧
      g = { f with tasks := f.tasks.set i (t.poll f.now) }) ∨
    (∃ t e, f.tasks[f.outcomes.length]? = some t ∧ t.ending = some e ∧
      g = { f with
        outcomes := f.outcomes ++ [⟨t.adapter, e.failure f.limit f.redactor⟩]
        written := f.written ++ Dispatcher.outcomeEntries f.payload
          ⟨t.adapter, e.failure f.limit f.redactor⟩ }) := by
  cases e with
  | tick =>
    left
    simp only [step] at h
    split at h
    · rename_i hguard
      simp only [Bool.and_eq_true, List.any_eq_true, List.all_eq_true, Option.isNone_iff_eq_none,
        Bool.not_eq_true'] at hguard
      exact ⟨hguard.1, hguard.2, (Option.some.inj h).symm⟩
    · cases h
  | poll i =>
    right; left
    simp only [step] at h
    split at h
    · rename_i t ht
      split at h
      · rename_i hdue
        exact ⟨i, t, ht, hdue, (Option.some.inj h).symm⟩
      · cases h
    · cases h
  | take =>
    right; right
    simp only [step] at h
    split at h
    · rename_i name run e ht
      exact ⟨⟨name, run, some e⟩, e, ht, rfl, (Option.some.inj h).symm⟩
    · cases h

/-- The outcomes of all tasks when nobody disturbs them. -/
def expected (f : Flight) : List AdapterOutcome := f.tasks.map (Task.outcome f.limit f.redactor)

theorem expected_poll {i : Nat} {t : Task} (ht : f.tasks[i]? = some t) :
    expected { f with tasks := f.tasks.set i (t.poll f.now) } = f.expected := by
  obtain ⟨hi, rfl⟩ := List.getElem?_eq_some_iff.mp ht
  have hlen : i < (f.tasks.map (Task.outcome f.limit f.redactor)).length := by
    rwa [List.length_map]
  have hkept : (f.tasks[i].poll f.now).outcome f.limit f.redactor =
      (f.tasks.map (Task.outcome f.limit f.redactor))[i] := by
    rw [List.getElem_map]
    rfl
  rw [expected, List.map_set, hkept, List.set_getElem_self, expected]

structure Sound (f : Flight) : Prop where
  tasks : ∀ t ∈ f.tasks, t.Sound f.limit f.now
  outcomes : f.outcomes <+: f.expected
  written : f.written = f.outcomes.flatMap (Dispatcher.outcomeEntries f.payload)

theorem Sound.step (h : f.Sound) {e : FlightStep} (he : f.step e = some g) : g.Sound := by
  rcases step_cases he with ⟨_, hdue, rfl⟩ | ⟨i, t, ht, hdue, rfl⟩ | ⟨t, e, ht, hend, rfl⟩
  · exact ⟨fun t ht => (h.tasks t ht).tick (hdue t ht), h.outcomes, h.written⟩
  · refine ⟨fun u hu => ?_, ?_, h.written⟩
    · rcases List.mem_or_eq_of_mem_set hu with hu | rfl
      · exact h.tasks u hu
      · exact (h.tasks t (List.mem_of_getElem? ht)).poll hdue
    · rw [expected_poll ht]
      exact h.outcomes
  · -- the end is the one that nobody disturbed, so the outcome is the next one expected
    have hsound := h.tasks t (List.mem_of_getElem? ht)
    rw [Task.Sound, hend] at hsound
    have houtcome : (⟨t.adapter, e.failure f.limit f.redactor⟩ : AdapterOutcome) =
        t.outcome f.limit f.redactor := by
      rw [hsound, HookRun.failure_taskEnd]
      rfl
    have hnext : f.expected[f.outcomes.length]? = some (t.outcome f.limit f.redactor) := by
      rw [expected, List.getElem?_map, ht]
      rfl
    refine ⟨h.tasks, ?_, ?_⟩
    · show f.outcomes ++ [_] <+: f.expected
      rw [houtcome, List.prefix_iff_eq_take, List.length_append, List.length_singleton,
        List.take_add_one, ← List.prefix_iff_eq_take.mp h.outcomes, hnext]
      rfl
    · simp [h.written]

/-- What no step of a flight changes. -/
structure SameFlight (f g : Flight) : Prop where
  limit : g.limit = f.limit
  redactor : g.redactor = f.redactor
  payload : g.payload = f.payload
  expected : g.expected = f.expected

theorem step_same {e : FlightStep} (he : f.step e = some g) : f.SameFlight g := by
  rcases step_cases he with ⟨_, _, rfl⟩ | ⟨i, t, ht, _, rfl⟩ | ⟨t, e, _, _, rfl⟩
  · exact ⟨rfl, rfl, rfl, rfl⟩
  · exact ⟨rfl, rfl, rfl, expected_poll ht⟩
  · exact ⟨rfl, rfl, rfl, rfl⟩

def Complete (f : Flight) : Prop := f.outcomes.length = f.tasks.length

theorem Sound.outcomes_of_complete (h : f.Sound) (hcomplete : f.Complete) :
    f.outcomes = f.expected := by
  refine h.outcomes.eq_of_length ?_
  rw [hcomplete, expected, List.length_map]

/-- How much is left to do: tasks under way, time up to the deadline, outcomes to be taken. -/
def size (f : Flight) : Nat :=
  f.tasks.countP (fun t => t.ending.isNone) + (f.limit.ticks - f.now) +
    (f.tasks.length - f.outcomes.length)

theorem step_decreases {e : FlightStep} (he : f.step e = some g) : g.size < f.size := by
  rcases step_cases he with ⟨⟨t, ht, hend⟩, hdue, rfl⟩ | ⟨i, t, ht, hdue, rfl⟩ | ⟨t, e, ht, _, rfl⟩
  · have hover := hdue t ht
    simp only [Task.due, hend, Option.isNone_none, Bool.true_and, Bool.or_eq_false_iff,
      decide_eq_false_iff_not] at hover
    simp only [size]
    omega
  · obtain ⟨hi, rfl⟩ := List.getElem?_eq_some_iff.mp ht
    simp only [Task.due, Bool.and_eq_true] at hdue
    have hpos : 0 < f.tasks.countP (fun t => t.ending.isNone) :=
      List.countP_pos_iff.mpr ⟨_, List.getElem_mem hi, hdue.1⟩
    simp only [size, List.countP_set hi, List.length_set, hdue.1, Task.poll, Option.isNone_some,
      if_true, Bool.false_eq_true, if_false]
    omega
  · have hlt := (List.getElem?_eq_some_iff.mp ht).1
    simp only [size, List.length_append, List.length_singleton]
    omega

theorem complete_of_stuck (h : f.Sound) (hstuck : ∀ e, f.step e = none) : f.Complete := by
  have hlen := h.outcomes.length_le
  rw [expected, List.length_map] at hlen
  refine Nat.le_antisymm hlen (Nat.le_of_not_lt fun hlt => ?_)
  have hnext := List.getElem?_eq_getElem hlt
  cases hend : f.tasks[f.outcomes.length].ending with
  | some e =>
    have htake := hstuck .take
    generalize f.tasks[f.outcomes.length] = t at hnext hend
    obtain ⟨name, run, ending⟩ := t
    rw [step, hnext, show ending = some e from hend] at htake
    cases htake
  | none =>
    -- either some task is due, or time can pass
    cases hdue : f.tasks.any (fun t => t.due f.limit f.now) with
    | true =>
      obtain ⟨t, ht, hdue⟩ := List.any_eq_true.mp hdue
      obtain ⟨i, hi⟩ := List.mem_iff_getElem?.mp ht
      have hpoll := hstuck (.poll i)
      simp [step, hi, hdue] at hpoll
    | false =>
      have hwaits : f.tasks.any (fun t => t.ending.isNone) = true :=
        List.any_eq_true.mpr ⟨_, List.getElem_mem hlt, by rw [hend]; rfl⟩
      have hidle : f.tasks.all (fun t => !t.due f.limit f.now) = true := by
        rw [List.all_eq_not_any_not]
        simpa using hdue
      have htick := hstuck .tick
      rw [step, hwaits, hidle] at htick
      cases htick

inductive Steps : Flight → Flight → Prop
  | refl (f : Flight) : Steps f f
  | cons {f g k : Flight} {e : FlightStep} (he : f.step e = some g) (h : Steps g k) : Steps f k

theorem Steps.trans {k : Flight} (h : Steps f g) (h' : Steps g k) : Steps f k := by
  induction h with
  | refl => exact h'
  | cons he _ ih => exact .cons he (ih h')

theorem Steps.sound (h : Steps f g) (hf : f.Sound) : g.Sound := by
  induction h with
  | refl => exact hf
  | cons he _ ih => exact ih (hf.step he)

theorem Steps.same (h : Steps f g) : f.SameFlight g := by
  induction h with
  | refl => exact ⟨rfl, rfl, rfl, rfl⟩
  | cons he _ ih =>
    have hstep := step_same he
    exact ⟨ih.limit.trans hstep.limit, ih.redactor.trans hstep.redactor,
      ih.payload.trans hstep.payload, ih.expected.trans hstep.expected⟩

theorem Sound.exists_complete (h : f.Sound) : ∃ g, f.Steps g ∧ g.Complete := by
  induction hn : f.size using Nat.strongRecOn generalizing f with
  | ind n ih =>
    by_cases hstuck : ∀ e, f.step e = none
    · exact ⟨f, .refl f, complete_of_stuck h hstuck⟩
    · obtain ⟨e, he⟩ := Classical.not_forall.mp hstuck
      obtain ⟨g, hg⟩ := Option.ne_none_iff_exists'.mp he
      obtain ⟨k, hk, hcomplete⟩ := ih g.size (hn ▸ step_decreases hg) (h.step hg) rfl
      exact ⟨k, .cons hg hk, hcomplete⟩

end Flight

namespace Dispatcher

/-- The tasks of a dispatch in order, and the mappings as their hooks leave them. -/
def launch (p : Payload) : List Adapter → MetadataStore → List Task × MetadataStore
  | [], s => ([], s)
  | a :: rest, s =>
    let run := a.hook p s
    let (tasks, s) := launch p rest run.store
    (⟨a.name, run, none⟩ :: tasks, s)

theorem runAll_eq_launch (limit : Deadline) (r : Redactor) (p : Payload) (as : List Adapter)
    (s : MetadataStore) : runAll limit r p as s =
      ⟨(launch p as s).2, (launch p as s).1.flatMap fun t => t.run.entries,
        (launch p as s).1.map (Task.outcome limit r)⟩ := by
  induction as generalizing s with
  | nil => rfl
  | cons a rest ih =>
    rw [runAll, launch, ih]
    rfl

theorem launch_waits {p : Payload} {as : List Adapter} {s : MetadataStore} :
    ∀ t ∈ (launch p as s).1, t.ending = none := by
  induction as generalizing s with
  | nil =>
    intro t ht
    cases ht
  | cons a rest ih =>
    intro t ht
    rcases List.mem_cons.mp ht with rfl | ht
    · rfl
    · exact ih t ht

variable (d : Dispatcher) (live : LiveStore) (p : Payload) (s : MetadataStore)

def flight : Flight where
  limit := (d.settings live).1
  redactor := (d.settings live).2
  payload := p
  tasks := (launch p d.adapters s).1

theorem flight_sound : (d.flight live p s).Sound := by
  refine ⟨fun t ht => ?_, List.nil_prefix, rfl⟩
  rw [Task.Sound, launch_waits t ht]
  exact ⟨Nat.zero_le _, fun ms _ => Nat.zero_le _⟩

theorem flight_expected : (d.flight live p s).expected = (d.dispatch live p s).1.outcomes := by
  have hrun := runAll_eq_launch (d.settings live).1 (d.settings live).2 p d.adapters s
  exact (congrArg AdaptersRun.outcomes hrun).symm

/-- A dispatch under way has taken some of the outcomes that `dispatch` computes, in their order.
It can always be completed, and has then taken all of them. -/
theorem flight_outcomes {f : Flight} (h : (d.flight live p s).Steps f) :
    f.outcomes <+: (d.dispatch live p s).1.outcomes ∧
      (f.Complete → f.outcomes = (d.dispatch live p s).1.outcomes ∧
        f.written = f.outcomes.flatMap (outcomeEntries p)) ∧
      ((∀ e, f.step e = none) → f.Complete) ∧ ∃ g, f.Steps g ∧ g.Complete := by
  have hsound := h.sound (d.flight_sound live p s)
  have hsame := h.same
  rw [← d.flight_expected live p s, ← hsame.expected]
  refine ⟨hsound.outcomes, fun hcomplete => ⟨hsound.outcomes_of_complete hcomplete, ?_⟩,
    Flight.complete_of_stuck hsound, hsound.exists_complete⟩
  rw [hsound.written, hsame.payload]
  rfl

end Dispatcher
end CallScribe
