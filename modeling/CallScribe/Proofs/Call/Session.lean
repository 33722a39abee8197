import CallScribe.Proofs.Call.Hooks
import Mathlib.Logic.Function.Basic

/-!
# CallScribe.Proofs.Call.Session

Runs of several calls that share their metadata and their journal.

* `Session`: the calls, and what they have handed to adapters and got reported so far.
* `SessionStep`: a hook of one of the calls, a payload or a dispatch outside of hooks, or a value
  that somebody else puts into a mapping.
* `Session.run`: steps one after the other.
-/

namespace CallScribe

namespace CallHook

/-- The payloads that the hook hands to adapters. -/
def handed (h : CallHook) (st : CallState) : List Payload :=
  match h with
  | .preCall .. | .postCall .. => []
  | .success _ _ _ response => [(h.apply st).context.payload .success response]
  | .failure .. => [(h.apply st).context.payload .failure none]

/-- The reports that the hook returns. -/
def reports (h : CallHook) (st : CallState) : List DispatchReport :=
  match h with
  | .preCall .. | .postCall .. => []
  | .success d live now response => [(st.context.success d live now response st.scene).2.1]
  | .failure d live now error => [(st.context.failure d live now error st.scene).2.1]

end CallHook

/-- Calls with one scene, with what was handed to adapters and reported so far. -/
structure Session where
  calls : Nat → CallContext
  scene : CallScene := {}
  handed : List Payload := []
  reports : List DispatchReport := []

inductive SessionStep
  | hook (i : Nat) (h : CallHook)
  | payload (i : Nat) (event : CallEvent) (response : Option Json)
  | dispatch (i : Nat) (d : Dispatcher) (live : LiveStore) (event : CallEvent)
    (response : Option Json)
  | insert (h : MetadataHandle) (key : String) (value : Json)

def SessionStep.apply (e : SessionStep) (s : Session) : Session :=
  match e with
  | .hook i h =>
    let st : CallState := ⟨s.calls i, s.scene⟩
    { calls := Function.update s.calls i (h.apply st).context
      scene := (h.apply st).scene
      handed := s.handed ++ h.handed st
      reports := s.reports ++ h.reports st }
  | .payload i event response =>
    { s with handed := s.handed ++ [(s.calls i).payload event response] }
  | .dispatch i d live event response =>
    let (report, scene) := (s.calls i).dispatch d live event response s.scene
    { s with
      scene
      handed := s.handed ++ [(s.calls i).payload event response]
      reports := s.reports ++ [report] }
  | .insert h key value =>
    { s with scene := { s.scene with store := (s.scene.store.insert h key value).2 } }

namespace Session

def run (s : Session) (steps : List SessionStep) : Session := steps.foldl (fun s e => e.apply s) s

theorem run_cons (s : Session) (e : SessionStep) (steps : List SessionStep) :
    s.run (e :: steps) = (e.apply s).run steps := rfl

end Session
end CallScribe
