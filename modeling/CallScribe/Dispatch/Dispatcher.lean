import CallScribe.Config.Live
import CallScribe.Dispatch.Report
import CallScribe.Text.Quoted

/-!
# CallScribe.Dispatch.Dispatcher

Handing an event to every adapter.

* `Dispatcher`: the adapters, with a deadline of their own or live settings to follow.
* `Dispatcher.settings`: deadline and redactor of the next dispatch.
* `Dispatcher.runAll`: every adapter in turn, each on its own.
* `Dispatcher.dispatch`: the report of a payload, and all that is written down on the way.
-/

namespace CallScribe

/-- The adapters in order of registration. -/
structure Dispatcher where
  adapters : List Adapter := []
  limit : Deadline
  live : Option LiveHandle := none

/-- What the adapters of one dispatch have done. -/
structure AdaptersRun where
  store : MetadataStore
  entries : List JournalEntry
  outcomes : List AdapterOutcome

namespace Dispatcher

/-- Deadline and redactor of the next dispatch: those of the live settings, if there are some. -/
def settings (d : Dispatcher) (live : LiveStore) : Deadline × Redactor :=
  match d.live.bind live.read? with
  | some l => (Deadline.ofMillis l.timeoutMillis, l.redactor)
  | none => (d.limit, Redactor.builtin)

def adapterNames (d : Dispatcher) : List String := d.adapters.map (·.name)

/-- Measures the number of adapters. -/
def countEntry (d : Dispatcher) : JournalEntry := .metric (.registered d.adapters.length)

/-- Appends an adapter. -/
def register (d : Dispatcher) (a : Adapter) : Dispatcher := { d with adapters := d.adapters ++ [a] }

/-- Other adapters instead of the current ones. -/
def replaceAll (d : Dispatcher) (as : List Adapter) : Dispatcher := { d with adapters := as }

/-- The span around a dispatch. -/
def span (p : Payload) : LogSpan :=
  ⟨"callback.dispatch",
    [("call_id", .string p.callId), ("event", p.event.toJson), ("model", .string p.model)]⟩

/-- Every adapter in turn. An adapter sees the mappings as the ones before it left them, and none
sees how another one ended. -/
def runAll (limit : Deadline) (r : Redactor) (p : Payload) :
    List Adapter → MetadataStore → AdaptersRun
  | [], s => ⟨s, [], []⟩
  | a :: rest, s =>
    let run := a.hook p s
    let others := runAll limit r p rest run.store
    ⟨others.store, run.entries ++ others.entries, ⟨a.name, run.failure limit r⟩ :: others.outcomes⟩

/-- The log line of a failure. -/
def failureLine (adapter : String) (f : AdapterFailure) : LogLine :=
  match f with
  | .timeout ms =>
    ⟨.warn, "Callback adapter timed out",
      [("adapter", .string adapter), ("timeout_ms", .int ms)], []⟩
  | _ =>
    ⟨.error, "Callback adapter failed",
      [("adapter", .string adapter), ("error", .string f.message)], []⟩

/-- What is written down about an outcome: two measurements, and a line if it is a failure. -/
def outcomeEntries (p : Payload) (o : AdapterOutcome) : List JournalEntry :=
  [.metric (.outcome o.adapter p.event o.label), .metric (.duration o.adapter)] ++
    match o.failure with
    | none => []
    | some f => [.log ((failureLine o.adapter f).within (span p))]

/-- Hands a payload to every adapter. -/
def dispatch (d : Dispatcher) (live : LiveStore) (p : Payload) (s : MetadataStore) :
    DispatchReport × MetadataStore × List JournalEntry :=
  let (limit, r) := d.settings live
  let run := runAll limit r p d.adapters s
  (⟨p.event, p.callId, run.outcomes⟩, run.store,
    run.entries.map (JournalEntry.within (span p)) ++ run.outcomes.flatMap (outcomeEntries p))

/-- A list of quoted texts between brackets. -/
def listText (ss : List String) : String :=
  "[" ++ String.intercalate ", " (ss.map quoted) ++ "]"

/-- The dispatcher in one line. -/
def describe (d : Dispatcher) (live : LiveStore) : String :=
  String.join ["CallbackDispatcher \x7b adapters: ", listText d.adapterNames, ", timeout: ",
    (d.settings live).1.text, " \x7d"]

end Dispatcher
end CallScribe
