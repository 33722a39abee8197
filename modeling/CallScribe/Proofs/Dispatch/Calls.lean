import CallScribe.Dispatch.Dispatcher
import CallScribe.Langfuse.Recorder

/-!
# CallScribe.Proofs.Dispatch.Calls

The calls to backends that a dispatch leaves in the journal.

* `backendCalls`: the calls among some entries.
* `Adapter.Records`: the adapter calls backends with records of its payload only.
* `Adapter.Keeps`: the adapter leaves the mappings as they are.
* `Dispatcher.dispatch_calls`: every call of a dispatch is part of a record of the payload.
-/

namespace CallScribe

def JournalEntry.call? : JournalEntry → Option BackendCall
  | .call c _ => some c
  | _ => none

/-- The calls to backends among the entries. -/
def backendCalls (es : List JournalEntry) : List BackendCall := es.filterMap JournalEntry.call?

theorem backendCalls_append (es es' : List JournalEntry) :
    backendCalls (es ++ es') = backendCalls es ++ backendCalls es' := List.filterMap_append

theorem backendCalls_within (span : LogSpan) (es : List JournalEntry) :
    backendCalls (es.map (JournalEntry.within span)) = backendCalls es := by
  have hentry : JournalEntry.call? ∘ JournalEntry.within span = JournalEntry.call? := by
    funext e
    cases e <;> rfl
  rw [backendCalls, List.filterMap_map, hentry, backendCalls]

namespace Adapter

/-- Every call to a backend that the adapter makes is part of a record of its payload. -/
def Records (a : Adapter) : Prop :=
  ∀ p s, ∀ call ∈ backendCalls (a.hook p s).entries,
    ∃ r : Recorder, call ∈ (r.record p (p.metadata s)).calls

/-- The adapter leaves the mappings as they are. -/
def Keeps (a : Adapter) : Prop := ∀ p s, (a.hook p s).store = s

theorem backendCalls_langfuse (r : Recorder) (calls : List BackendCall) (line : LogLine) :
    backendCalls (calls.map (fun c => .call c (c.accepted r.backend)) ++ [.log line]) = calls := by
  induction calls with
  | nil => rfl
  | cons c calls ih => exact congrArg (c :: ·) ih

theorem langfuse_calls (r : Recorder) (p : Payload) (s : MetadataStore) :
    backendCalls ((langfuse r).hook p s).entries =
      if p.event = .preCall then [] else (r.record p (p.metadata s)).calls := by
  unfold langfuse
  dsimp only
  split
  · next hevent => rw [if_pos hevent]; rfl
  · next hevent => rw [if_neg hevent, backendCalls_langfuse]

theorem langfuse_records (r : Recorder) : (langfuse r).Records := by
  intro p s call hcall
  rw [langfuse_calls] at hcall
  split at hcall
  · cases hcall
  · exact ⟨r, hcall⟩

theorem langfuse_keeps (r : Recorder) : (langfuse r).Keeps := by
  intro p s
  unfold langfuse
  dsimp only
  split <;> rfl

theorem Records.onEvents {a : Adapter} (h : a.Records) (events : List CallEvent) :
    (a.onEvents events).Records := by
  intro p s call hcall
  unfold Adapter.onEvents at hcall
  dsimp only at hcall
  split at hcall
  · exact h p s call hcall
  · cases hcall

end Adapter

namespace Dispatcher

theorem backendCalls_outcomeEntries (p : Payload) (o : AdapterOutcome) :
    backendCalls (outcomeEntries p o) = [] := by
  unfold outcomeEntries
  cases o.failure <;> rfl

theorem backendCalls_outcomes (p : Payload) (os : List AdapterOutcome) :
    backendCalls (os.flatMap (outcomeEntries p)) = [] := by
  induction os with
  | nil => rfl
  | cons o os ih =>
    rw [List.flatMap_cons, backendCalls_append, backendCalls_outcomeEntries, ih, List.nil_append]

theorem runAll_store {as : List Adapter} (h : ∀ a ∈ as, a.Keeps) (limit : Deadline)
    (r : Redactor) (p : Payload) (s : MetadataStore) : (runAll limit r p as s).store = s := by
  induction as generalizing s with
  | nil => rfl
  | cons a as ih =>
    obtain ⟨ha, has⟩ := List.forall_mem_cons.mp h
    rw [runAll]
    dsimp only
    rw [ih has, ha p s]

/-- An adapter sees the mappings as the ones before it left them: unless these change some, as
they were at the start. -/
theorem runAll_calls {as : List Adapter} (h : ∀ a ∈ as, a.Records) {limit : Deadline}
    {redactor : Redactor} {p : Payload} {s : MetadataStore} {call : BackendCall}
    (hcall : call ∈ backendCalls (runAll limit redactor p as s).entries) :
    ∃ (r : Recorder) (seen : MetadataStore), call ∈ (r.record p (p.metadata seen)).calls ∧
      ((∀ a ∈ as, a.Keeps) → seen = s) := by
  induction as generalizing s with
  | nil => cases hcall
  | cons a as ih =>
    obtain ⟨ha, has⟩ := List.forall_mem_cons.mp h
    rw [runAll] at hcall
    dsimp only at hcall
    rw [backendCalls_append, List.mem_append] at hcall
    rcases hcall with hcall | hcall
    · obtain ⟨r, hr⟩ := ha p s call hcall
      exact ⟨r, s, hr, fun _ => rfl⟩
    · obtain ⟨r, seen, hr, hseen⟩ := ih has hcall
      refine ⟨r, seen, hr, fun hkeeps => ?_⟩
      obtain ⟨hka, hkas⟩ := List.forall_mem_cons.mp hkeeps
      rw [hseen hkas, hka p s]

theorem dispatch_store {d : Dispatcher} (h : ∀ a ∈ d.adapters, a.Keeps) (live : LiveStore)
    (p : Payload) (s : MetadataStore) : (d.dispatch live p s).2.1 = s := runAll_store h _ _ p s

theorem dispatch_calls {d : Dispatcher} (h : ∀ a ∈ d.adapters, a.Records) {live : LiveStore}
    {p : Payload} {s : MetadataStore} {call : BackendCall}
    (hcall : call ∈ backendCalls (d.dispatch live p s).2.2) :
    ∃ (r : Recorder) (seen : MetadataStore), call ∈ (r.record p (p.metadata seen)).calls ∧
      ((∀ a ∈ d.adapters, a.Keeps) → seen = s) := by
  unfold dispatch at hcall
  dsimp only at hcall
  rw [backendCalls_append, backendCalls_within, backendCalls_outcomes, List.append_nil] at hcall
  exact runAll_calls h hcall

end Dispatcher
end CallScribe
