import CallScribe.Dispatch.Deadline
import CallScribe.Dispatch.Journal
import CallScribe.Redaction.Policy

/-!
# CallScribe.Dispatch.Adapter

Adapters, which are told about the events of calls.

* `Adapter`: a name and a hook.
* `HookRun`: what the hook does with one payload.
* `Adapter.silent`, `.recorder`, `.failing`, `.sleeping`, `.panicking`, `.writing`: adapters for
  rehearsals.
* `Adapter.onEvents`: an adapter that acts on some events only.
-/

namespace CallScribe

/-- Why an adapter gives up. -/
inductive AdapterError
  | backend (text : String)
  | serialization (text : String)
  | other (text : String)
deriving DecidableEq, Repr

def AdapterError.message : AdapterError → String
  | .backend text => "backend error: " ++ text
  | .serialization text => "serialization error: " ++ text
  | .other text => text

/-- How a hook ends. A panic may carry no text. -/
inductive HookEnd
  | done
  | failed (e : AdapterError)
  | panicked (text : Option String)
deriving DecidableEq, Repr

/-- What a hook does: the mappings as it leaves them, what it writes down, how many milliseconds
it takes, and how it ends. A hook without a time never ends. -/
structure HookRun where
  store : MetadataStore
  entries : List JournalEntry := []
  takes : Option Nat := some 0
  ending : HookEnd := .done

/-- A receiver of events. -/
structure Adapter where
  name : String
  hook : Payload → MetadataStore → HookRun

namespace Adapter

/-- Does nothing. -/
def silent (name : String) : Adapter := ⟨name, fun _ s => { store := s }⟩

/-- Keeps every payload. -/
def recorder (name : String) : Adapter :=
  ⟨name, fun p s => { store := s, entries := [.kept name (p.toJson s) p.latencyMillis] }⟩

/-- Gives up on every payload. -/
def failing (name : String) (e : AdapterError) : Adapter :=
  ⟨name, fun _ s => { store := s, ending := .failed e }⟩

/-- Takes its time. -/
def sleeping (name : String) (ms : Nat) : Adapter :=
  ⟨name, fun _ s => { store := s, takes := some ms }⟩

/-- Panics on every payload. -/
def panicking (name : String) (text : Option String) : Adapter :=
  ⟨name, fun _ s => { store := s, ending := .panicked text }⟩

/-- Puts a value into the metadata of every payload that has some. -/
def writing (name key : String) (value : Json) : Adapter :=
  ⟨name, fun p s =>
    match p.params.metadata with
    | some h => { store := (s.insert h key value).2 }
    | none => { store := s }⟩

/-- Acts on some events only, and lets the others pass. -/
def onEvents (events : List CallEvent) (a : Adapter) : Adapter :=
  { a with hook := fun p s => if events.contains p.event then a.hook p s else { store := s } }

end Adapter
end CallScribe
