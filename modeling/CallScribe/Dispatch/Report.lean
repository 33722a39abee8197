import CallScribe.Dispatch.Adapter

/-!
# CallScribe.Dispatch.Report

What became of a dispatch.

* `AdapterFailure`: why an adapter did not succeed. Texts are always redacted.
* `AdapterOutcome`, `DispatchReport`: one adapter, and all of them in order.
* `HookRun.failure`: why a hook does not succeed under a deadline, if it does not.
-/

namespace CallScribe

/-- Why an adapter did not succeed. -/
inductive AdapterFailure
  | error (text : String)
  | timeout (ms : Nat)
  | panicked (text : String)
deriving DecidableEq, Repr

namespace AdapterFailure

def label : AdapterFailure → String
  | .error _ => "error"
  | .timeout _ => "timeout"
  | .panicked _ => "panicked"

def message : AdapterFailure → String
  | .error text => "adapter error: " ++ text
  | .timeout ms => "adapter timed out after " ++ toString ms ++ " ms"
  | .panicked text => "adapter panicked: " ++ text

def toJson (f : AdapterFailure) : Json :=
  .object [
    ("detail", match f with
      | .error text => .string text
      | .timeout ms => .object [("timeout_ms", .int ms)]
      | .panicked text => .string text),
    ("kind", .string f.label)]

end AdapterFailure

/-- The outcome of one adapter; no failure means success. -/
structure AdapterOutcome where
  adapter : String
  failure : Option AdapterFailure
deriving DecidableEq, Repr

namespace AdapterOutcome

def succeeded (o : AdapterOutcome) : Bool := o.failure.isNone

def label (o : AdapterOutcome) : String :=
  match o.failure with
  | none => "ok"
  | some f => f.label

def resultJson (o : AdapterOutcome) : Json :=
  match o.failure with
  | none => .object [("Ok", .null)]
  | some f => .object [("Err", f.toJson)]

def toJson (o : AdapterOutcome) : Json :=
  .object [("adapter", .string o.adapter), ("result", o.resultJson)]

end AdapterOutcome

/-- The text of a panic that carries none. -/
def wordlessPanic : String := "non-string panic payload"

/-- The outcome of a hook: it counts only if it ends in time. -/
def HookRun.failure (run : HookRun) (limit : Deadline) (r : Redactor) : Option AdapterFailure :=
  if limit.allows run.takes then
    match run.ending with
    | .done => none
    | .failed e => some (.error (r.redact e.message))
    | .panicked text => some (.panicked (r.redact (text.getD wordlessPanic)))
  else some (.timeout (limit.nanos / 1000000))

/-- The outcomes of a dispatch, in the order of registration. -/
structure DispatchReport where
  event : CallEvent
  callId : String
  outcomes : List AdapterOutcome
deriving DecidableEq, Repr

namespace DispatchReport

def allSucceeded (r : DispatchReport) : Bool := r.outcomes.all AdapterOutcome.succeeded

/-- The adapters that failed, with their failures. -/
def failures (r : DispatchReport) : List (String × AdapterFailure) :=
  r.outcomes.filterMap fun o => o.failure.map fun f => (o.adapter, f)

def toJson (r : DispatchReport) : Json :=
  .object [
    ("call_id", .string r.callId),
    ("event", r.event.toJson),
    ("outcomes", .array (r.outcomes.map AdapterOutcome.toJson))]

end DispatchReport
end CallScribe
