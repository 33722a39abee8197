import CallScribe.Langfuse.Recorder
import CallScribe.Proofs.Langfuse.Overrides
import CallScribe.Proofs.Redaction.Values

/-!
# CallScribe.Proofs.Langfuse.Record

What a record shows of its payload, and whether that is clean.

* `BackendCall.Clean`: no built-in family recognises anything in the input, the output, the
  metadata or the status message.
* `Payload.Scrubbed`: response and error text of the payload are clean.
* `Recorder.call_clean_iff`: of a scrubbed payload only messages and metadata can show a secret.
-/

namespace CallScribe

open Redactor

namespace BackendCall

def input : BackendCall → Json
  | .trace t => t.input
  | .generation _ g => g.input

def output : BackendCall → Json
  | .trace t => t.output
  | .generation _ g => g.output

/-- The metadata of a generation; a trace has none. -/
def metadata : BackendCall → Fields Json
  | .trace _ => []
  | .generation _ g => g.metadata

def status : BackendCall → Option String
  | .trace _ => none
  | .generation _ g => g.statusMessage

/-- The strings of input, output, metadata and status message. -/
def texts (c : BackendCall) : List String :=
  c.input.strings ++ c.output.strings ++ Json.fieldStrings c.metadata ++ c.status.toList

/-- No built-in family recognises anything in these strings. -/
def Clean (c : BackendCall) : Prop := ∀ s ∈ c.texts, builtin.Clean s.toList

instance (c : BackendCall) : Decidable c.Clean :=
  inferInstanceAs (Decidable (∀ s ∈ c.texts, builtin.Clean s.toList))

theorem clean_iff {c : BackendCall} : c.Clean ↔ c.input.Clean ∧ c.output.Clean ∧
    (Json.object c.metadata).Clean ∧ ∀ s, c.status = some s → builtin.Clean s.toList := by
  simp only [Clean, Json.Clean, texts, Json.strings, List.mem_append, or_imp, forall_and,
    Option.mem_toList, and_assoc]

end BackendCall

theorem LangfuseBackend.send_eq (b : LangfuseBackend) (rec : Record) :
    (b.send rec).1 = .trace rec.trace ::
      match b.trace rec.trace with
      | .ok t => [.generation t rec.generation]
      | .error _ => [] := by
  unfold send
  cases b.trace rec.trace with
  | error e => rfl
  | ok t =>
    dsimp only
    cases b.generation t rec.generation <;> rfl

theorem LangfuseBackend.send_calls {b : LangfuseBackend} {rec : Record} {call : BackendCall}
    (h : call ∈ (b.send rec).1) :
    call = .trace rec.trace ∨ ∃ t, call = .generation t rec.generation := by
  rw [send_eq] at h
  refine (List.mem_cons.mp h).imp_right fun h => ?_
  split at h
  · next t _ => exact ⟨t, List.mem_singleton.mp h⟩
  · cases h

/-- Response and error text are clean. -/
structure Payload.Scrubbed (p : Payload) : Prop where
  response : ∀ v, p.response = some v → v.Clean
  exception : p.event = .failure → ∀ t, p.exception = some t → builtin.Clean t.toList

theorem placeholder_clean : (Json.string placeholder).Clean := by decide +kernel

namespace Record.Filled

variable {release : Option String} {p : Payload} {metadata : Fields Json} {rec : Record}

/-- What is not masked shows the strings of the messages. -/
theorem input_clean_iff (h : Filled release p metadata rec) : rec.generation.input.Clean ↔
    rec.generation.input = .string placeholder ∨ (messagesJson p.messages).Clean := by
  by_cases hmask : SwitchedOn metadata "mask_input"
  · rw [h.maskedInput hmask]
    exact ⟨fun _ => .inl rfl, fun _ => placeholder_clean⟩
  · have hstrings : rec.generation.input.strings = (messagesJson p.messages).strings := by
      rw [h.input hmask]
      dsimp only
      split
      · rw [Json.strings, Json.fieldStrings, Json.fieldStrings, List.append_nil]
        rfl
      · rfl
    have hne : rec.generation.input ≠ .string placeholder := by
      rw [h.input hmask]
      dsimp only
      split <;> exact Json.noConfusion
    rw [Json.Clean, hstrings]
    exact ⟨.inr, fun h => h.resolve_left hne⟩

theorem output_clean (h : Filled release p metadata rec) (hp : p.Scrubbed) :
    rec.generation.output.Clean := by
  by_cases hmask : SwitchedOn metadata "mask_output"
  · rw [h.maskedOutput hmask]
    exact placeholder_clean
  · have houtput := h.output hmask
    generalize rec.generation.output = output at houtput
    cases houtput with
    | nothing => exact Json.clean_of_strings_nil rfl
    | message hresponse hm => exact (hp.response _ hresponse).of_at? hm
    | whole hresponse => exact hp.response _ hresponse

theorem status_clean (h : Filled release p metadata rec) (hp : p.Scrubbed) (s : String)
    (hs : rec.generation.statusMessage = some s) : builtin.Clean s.toList := by
  rw [h.status] at hs
  split at hs
  · next hfailure => exact hp.exception hfailure s hs
  · cases hs

end Record.Filled

namespace Recorder

variable {r : Recorder} {p : Payload} {metadata : Fields Json} {call : BackendCall}

theorem record_calls_eq (r : Recorder) (p : Payload) (metadata : Fields Json) :
    (r.record p metadata).calls =
      match Record.build r.release p metadata with
      | .ok rec => (r.backend.send rec).1
      | .error _ => [] := by
  unfold record
  cases Record.build r.release p metadata with
  | error e => rfl
  | ok rec =>
    dsimp only
    split <;> next hsend => rw [hsend]

theorem record_calls (h : call ∈ (r.record p metadata).calls) :
    ∃ rec : Record, Record.Filled r.release p metadata rec ∧
      (call = .trace rec.trace ∨ ∃ t, call = .generation t rec.generation) := by
  rw [record_calls_eq] at h
  split at h
  · next rec hbuild => exact ⟨rec, Record.filled_of_build hbuild, LangfuseBackend.send_calls h⟩
  · cases h

theorem call_metadata (h : call ∈ (r.record p metadata).calls) :
    call.metadata = [] ∨ call.metadata = metadata := by
  obtain ⟨rec, hfilled, rfl | ⟨t, rfl⟩⟩ := record_calls h
  · exact .inl rfl
  · exact .inr hfilled.metadata

/-- Output and status message of a scrubbed payload are always clean. -/
theorem call_clean_iff (hp : p.Scrubbed) (h : call ∈ (r.record p metadata).calls) :
    call.Clean ↔ (call.input = .string placeholder ∨ (messagesJson p.messages).Clean) ∧
      (Json.object call.metadata).Clean := by
  obtain ⟨rec, hfilled, hcall⟩ := record_calls h
  have hinput : call.input = rec.generation.input := by
    rcases hcall with rfl | ⟨t, rfl⟩
    · exact hfilled.traceInput
    · rfl
  have houtput : call.output = rec.generation.output := by
    rcases hcall with rfl | ⟨t, rfl⟩
    · exact hfilled.traceOutput
    · rfl
  have hstatus : ∀ s, call.status = some s → builtin.Clean s.toList := by
    rcases hcall with rfl | ⟨t, rfl⟩
    · exact fun s hs => by cases hs
    · exact hfilled.status_clean hp
  rw [BackendCall.clean_iff, hinput, houtput, hfilled.input_clean_iff]
  exact ⟨fun ⟨hin, _, hmeta, _⟩ => ⟨hin, hmeta⟩,
    fun ⟨hin, hmeta⟩ => ⟨hin, hfilled.output_clean hp, hmeta, hstatus⟩⟩

end Recorder
end CallScribe
