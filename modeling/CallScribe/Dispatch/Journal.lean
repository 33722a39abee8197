import CallScribe.Langfuse.Backend

/-!
# CallScribe.Dispatch.Journal

What calls and dispatches leave behind, in the order in which it happens.

* `LogLine`: a structured log line.
* `MetricSample`: a measurement.
* `JournalEntry`: a line, a measurement, a payload that an adapter kept, or a call to a backend.
* `Metrics.tally`: counters, the last value of the gauge, and numbers of timings.
-/

namespace CallScribe

inductive LogLevel
  | trace | debug | info | warn | error
deriving DecidableEq, Repr

def LogLevel.name : LogLevel → String
  | .trace => "TRACE"
  | .debug => "DEBUG"
  | .info => "INFO"
  | .warn => "WARN"
  | .error => "ERROR"

/-- A named stretch of work that log lines belong to. -/
structure LogSpan where
  name : String
  fields : Fields Json

/-- A structured log line, with the spans around it from the outermost. -/
structure LogLine where
  level : LogLevel
  message : String
  fields : Fields Json
  spans : List LogSpan := []

def LogSpan.toJson (s : LogSpan) : Json :=
  .object [("fields", .object s.fields), ("name", .string s.name)]

namespace LogLine

/-- The line with one more span around it. -/
def within (span : LogSpan) (l : LogLine) : LogLine := { l with spans := span :: l.spans }

def toJson (l : LogLine) : Json :=
  .object [
    ("fields", .object l.fields),
    ("level", .string l.level.name),
    ("message", .string l.message),
    ("spans", .array (l.spans.map LogSpan.toJson))]

end LogLine

/-- A measurement of the dispatch. -/
inductive MetricSample
  | outcome (adapter : String) (event : CallEvent) (label : String)
  | duration (adapter : String)
  | registered (count : Nat)
deriving DecidableEq, Repr

/-- One entry of the journal. -/
inductive JournalEntry
  | log (line : LogLine)
  | metric (sample : MetricSample)
  | kept (adapter : String) (payload : Json) (latency : Option Int)
  | call (c : BackendCall) (accepted : Bool)

/-- The entry with a span around it, if it is a log line. -/
def JournalEntry.within (span : LogSpan) : JournalEntry → JournalEntry
  | .log l => .log (l.within span)
  | e => e

namespace Metrics

/-- The key of a measurement: its name and its labels. -/
def key : MetricSample → String
  | .outcome adapter event label =>
    String.join ["callback_dispatch_total\x7b", "adapter=", adapter, ",event=", event.name,
      ",outcome=", label, "\x7d"]
  | .duration adapter =>
    String.join ["callback_dispatch_duration_seconds\x7b", "adapter=", adapter, "\x7d"]
  | .registered _ => "callback_adapters_registered\x7b\x7d"

/-- Adds a measurement: counters and timings count up, the gauge takes the new value. -/
def add (totals : Fields Nat) (m : MetricSample) : Fields Nat :=
  match m with
  | .registered n => totals.insert (key m) n
  | _ => totals.insert (key m) ((totals.get? (key m)).getD 0 + 1)

/-- The totals of a journal. -/
def tally (journal : List JournalEntry) : Fields Nat :=
  journal.foldl (fun totals e =>
    match e with
    | .metric m => add totals m
    | _ => totals) []

end Metrics
end CallScribe
