import CallScribe.Langfuse.Record
import CallScribe.Proofs.Except

/-!
# CallScribe.Proofs.Langfuse.Overrides

Which metadata a record accepts, and what they make of it.

* `KeyShape`: the shape that a key asks of its value, and the part of a value that is to blame for
  another shape.
* `Record.overrides`: the keys that a record reads, in their order.
* `Record.FirstOffence`: the first of some keys with a value of another shape, as an error.
* `Record.Judged`: a computation that fails with the first offence of its keys, or else gives what
  it should.
* `Record.Filled`, `Record.filled_of_build`: a record of a payload with some metadata, part by part.
* `Payload.Snapshot`: the metadata of a payload at a moment.
* `Record.build_judges`: which of them give a record, which error they give else, and the record.
-/

namespace CallScribe

/-- What a key asks of its value. -/
inductive KeyShape
  | text | tags | switch
deriving DecidableEq

namespace KeyShape

/-- How an error names the shape. -/
def expected : KeyShape → String
  | .text => "a string"
  | .tags => "a list of strings"
  | .switch => "a boolean"

/-- A value of the shape. Null stands for no value. -/
inductive Accepts : KeyShape → Json → Prop
  | null (shape : KeyShape) : Accepts shape .null
  | string (s : String) : Accepts .text (.string s)
  | int (n : Int) : Accepts .text (.int n)
  | real (d : Decimal) : Accepts .text (.real d)
  | tags (ss : List String) : Accepts .tags (.array (ss.map .string))
  | bool (b : Bool) : Accepts .switch (.bool b)

/-- What is to blame for another shape: the first element of an array that is no string, or else the
whole value. -/
inductive Blames : KeyShape → Json → Json → Prop
  | element (before : List String) {bad : Json} (after : List Json) (h : ∀ s, bad ≠ .string s) :
    Blames .tags (.array (before.map .string ++ bad :: after)) bad
  | whole {shape : KeyShape} {v : Json} (h : ¬shape.Accepts v)
    (harray : shape = .tags → ∀ items, v ≠ .array items) : Blames shape v v

theorem Blames.not_accepts {shape : KeyShape} {v bad : Json} (h : shape.Blames v bad) :
    ¬shape.Accepts v := by
  cases h with
  | element before after h =>
    intro haccepts
    generalize hitems : before.map Json.string ++ bad :: after = items at haccepts
    cases haccepts with
    | tags ss =>
      have hbad : bad ∈ ss.map Json.string := by
        rw [← hitems]
        exact List.mem_append_right _ List.mem_cons_self
      obtain ⟨s, -, hs⟩ := List.mem_map.mp hbad
      exact h s hs.symm
  | whole h _ => exact h

/-- The first element that is no string is one of them only. -/
theorem element_unique {before before' : List String} {bad bad' : Json} {after after' : List Json}
    (h : ∀ s, bad ≠ .string s) (h' : ∀ s, bad' ≠ .string s)
    (heq : before.map Json.string ++ bad :: after = before'.map Json.string ++ bad' :: after') :
    bad' = bad := by
  induction before generalizing before' with
  | nil =>
    cases before' with
    | nil => exact (List.cons.inj heq).1.symm
    | cons s before' => exact absurd (List.cons.inj heq).1 (h s)
  | cons s before ih =>
    cases before' with
    | nil => exact absurd (List.cons.inj heq).1.symm (h' s)
    | cons s' before' => exact ih (List.cons.inj heq).2

theorem Blames.unique {shape : KeyShape} {v bad bad' : Json} (h : shape.Blames v bad)
    (h' : shape.Blames v bad') : bad' = bad := by
  cases h with
  | element before after h =>
    generalize hitems : before.map Json.string ++ bad :: after = items at h'
    cases h' with
    | element before' after' h' => exact element_unique h h' hitems
    | whole _ harray => exact absurd rfl (harray rfl _)
  | whole h harray =>
    cases h' with
    | element => exact absurd rfl (harray rfl _)
    | whole => rfl

end KeyShape

namespace Record

/-- The keys that a record reads, in their order. -/
def overrides : List (String × KeyShape) :=
  [("generation_name", .text), ("generation_id", .text), ("trace_id", .text),
    ("trace_name", .text), ("session_id", .text), ("trace_user_id", .text), ("tags", .tags),
    ("mask_input", .switch), ("mask_output", .switch)]

/-- The key has no value, or one of its shape. -/
def WellShaped (metadata : Fields Json) (key : String × KeyShape) : Prop :=
  ∀ v, metadata.get? key.1 = some v → key.2.Accepts v

/-- The error of the first key whose value has another shape. -/
inductive FirstOffence (metadata : Fields Json) : List (String × KeyShape) → LangfuseError → Prop
  | here {key : String} {shape : KeyShape} {keys : List (String × KeyShape)} {v bad : Json}
    (hv : metadata.get? key = some v) (hbad : shape.Blames v bad) :
    FirstOffence metadata ((key, shape) :: keys)
      (.invalidMetadata key shape.expected bad.compact)
  | later {key : String × KeyShape} {keys : List (String × KeyShape)} {e : LangfuseError}
    (hkey : WellShaped metadata key) (h : FirstOffence metadata keys e) :
    FirstOffence metadata (key :: keys) e

/-- The text that a key has in place of a default; a number counts as its digits. -/
def overrideText (metadata : Fields Json) (key : String) : Option String :=
  match metadata.get? key with
  | some (.string s) => some s
  | some (.int n) => some (Json.int n).compact
  | some (.real d) => some (Json.real d).compact
  | _ => none

def SwitchedOn (metadata : Fields Json) (key : String) : Prop :=
  metadata.get? key = some (.bool true)

section Keys

variable {α β : Type} {metadata : Fields Json} {key : String × KeyShape}
  {keys : List (String × KeyShape)} {P : α → Prop} {Q : β → Prop}

theorem FirstOffence.not_wellShaped {e : LangfuseError} (h : FirstOffence metadata keys e) :
    ¬∀ k ∈ keys, WellShaped metadata k := by
  induction h with
  | here hv hbad => exact fun hall => hbad.not_accepts (hall _ List.mem_cons_self _ hv)
  | later _ _ ih => exact fun hall => ih fun k hk => hall k (List.mem_cons_of_mem _ hk)

theorem FirstOffence.unique {e e' : LangfuseError} (h : FirstOffence metadata keys e)
    (h' : FirstOffence metadata keys e') : e' = e := by
  induction h with
  | here hv hbad =>
    cases h' with
    | here hv' hbad' =>
      rw [hv] at hv'
      cases hv'
      rw [hbad.unique hbad']
    | later hkey _ => exact absurd (hkey _ hv) hbad.not_accepts
  | later hkey _ ih =>
    cases h' with
    | here hv hbad => exact absurd (hkey _ hv) hbad.not_accepts
    | later _ h' => exact ih h'

/-- A computation that reads some keys: it fails with the first offence, or else its result has a
property. -/
inductive Judged (metadata : Fields Json) (keys : List (String × KeyShape)) (P : α → Prop) :
    Except LangfuseError α → Prop
  | ok {a : α} (hkeys : ∀ k ∈ keys, WellShaped metadata k) (h : P a) :
    Judged metadata keys P (.ok a)
  | error {e : LangfuseError} (h : FirstOffence metadata keys e) :
    Judged metadata keys P (.error e)

theorem Judged.bind {x : Except LangfuseError α} {f : α → Except LangfuseError β}
    (hx : Judged metadata [key] P x) (hf : ∀ a, P a → Judged metadata keys Q (f a)) :
    Judged metadata (key :: keys) Q (x >>= f) := by
  cases hx with
  | error h =>
    cases h with
    | here hv hbad => exact .error (.here hv hbad)
    | later _ h => cases h
  | ok hkeys h =>
    have hkey := hkeys _ List.mem_cons_self
    show Judged metadata (key :: keys) Q (f _)
    generalize hy : f _ = y
    cases hy ▸ hf _ h with
    | ok hrest hQ => exact .ok (List.forall_mem_cons.mpr ⟨hkey, hrest⟩) hQ
    | error hrest => exact .error (.later hkey hrest)

end Keys

section Reading

variable {α : Type} {metadata : Fields Json} {key : String} {shape : KeyShape} {P : α → Prop}
  {a : α} {v bad : Json}

theorem judged_absent (hv : metadata.get? key = none) (h : P a) :
    Judged metadata [(key, shape)] P (.ok a) := by
  refine .ok (List.forall_mem_singleton.mpr fun v hv' => ?_) h
  rw [hv] at hv'
  cases hv'

theorem judged_accepted (hv : metadata.get? key = some v) (haccepts : shape.Accepts v) (h : P a) :
    Judged metadata [(key, shape)] P (.ok a) := by
  refine .ok (List.forall_mem_singleton.mpr fun v' hv' => ?_) h
  rw [hv] at hv'
  cases hv'
  exact haccepts

theorem judged_blamed (hv : metadata.get? key = some v) (hbad : shape.Blames v bad) :
    Judged metadata [(key, shape)] P (.error (.invalidMetadata key shape.expected bad.compact)) :=
  .error (.here hv hbad)

theorem textKey_judged (metadata : Fields Json) (key : String) :
    Judged metadata [(key, .text)] (· = overrideText metadata key) (textKey metadata key) := by
  unfold textKey overrideText
  cases hv : metadata.get? key with
  | none => exact judged_absent hv rfl
  | some v =>
    cases v with
    | null => exact judged_accepted hv (.null _) rfl
    | string s => exact judged_accepted hv (.string s) rfl
    | int n => exact judged_accepted hv (.int n) rfl
    | real d => exact judged_accepted hv (.real d) rfl
    | bool | array | object => exact judged_blamed hv (.whole nofun nofun)

theorem switchKey_judged (metadata : Fields Json) (key : String) :
    Judged metadata [(key, .switch)] (fun b => b = true ↔ SwitchedOn metadata key)
      (switchKey metadata key) := by
  unfold switchKey SwitchedOn
  cases hv : metadata.get? key with
  | none => exact judged_absent hv (by simp)
  | some v =>
    cases v with
    | null => exact judged_accepted hv (.null _) (by simp)
    | bool b => exact judged_accepted hv (.bool b) (by simp)
    | string | int | real | array | object => exact judged_blamed hv (.whole nofun nofun)

/-- Either all elements are strings, or the first that is none is the error. -/
theorem tagItems_cases (items : List Json) :
    (∃ ss : List String, tagItems items = .ok ss ∧ items = ss.map .string) ∨
      ∃ (before : List String) (bad : Json) (after : List Json),
        tagItems items = .error (badTags bad) ∧ items = before.map .string ++ bad :: after ∧
        ∀ s, bad ≠ .string s := by
  induction items with
  | nil => exact .inl ⟨[], rfl, rfl⟩
  | cons v items ih =>
    cases v with
    | string s =>
      rcases ih with ⟨ss, hok, rfl⟩ | ⟨before, bad, after, herror, rfl, hbad⟩
      · exact .inl ⟨s :: ss, by rw [tagItems, hok], rfl⟩
      · exact .inr ⟨s :: before, bad, after, by rw [tagItems, herror], rfl, hbad⟩
    | null | bool | int | real | array | object => exact .inr ⟨[], _, items, rfl, rfl, nofun⟩

/-- The tags are the strings of the array, none without one. -/
def TagsAre (metadata : Fields Json) (ss : List String) : Prop :=
  metadata.get? "tags" = some (.array (ss.map .string)) ∨
    ss = [] ∧ (metadata.get? "tags" = none ∨ metadata.get? "tags" = some .null)

theorem tagsKey_judged (metadata : Fields Json) :
    Judged metadata [("tags", .tags)] (TagsAre metadata) (tagsKey metadata) := by
  unfold tagsKey
  cases hv : metadata.get? "tags" with
  | none => exact judged_absent hv (.inr ⟨rfl, .inl hv⟩)
  | some v =>
    cases v with
    | null => exact judged_accepted hv (.null _) (.inr ⟨rfl, .inr hv⟩)
    | array items =>
      rcases tagItems_cases items with ⟨ss, hok, rfl⟩ | ⟨before, bad, after, herror, rfl, hbad⟩
      · show Judged _ _ _ (tagItems _)
        rw [hok]
        exact judged_accepted hv (.tags ss) (.inl hv)
      · show Judged _ _ _ (tagItems _)
        rw [herror]
        exact judged_blamed hv (.element before after hbad)
    | string | bool | int | real | object => exact judged_blamed hv (.whole nofun nofun)

end Reading

/-- The output of a payload: the message of the first choice, the whole response if that has none,
and nothing without a response. -/
inductive OutputIs (p : Payload) : Json → Prop
  | nothing (h : p.response = none) : OutputIs p .null
  | message {response m : Json} (h : p.response = some response)
    (hm : response.at? ["choices", "0", "message"] = some m) : OutputIs p m
  | whole {response : Json} (h : p.response = some response)
    (hm : response.at? ["choices", "0", "message"] = none) : OutputIs p response

theorem outputOf_is (p : Payload) : OutputIs p (outputOf p) := by
  unfold outputOf
  cases h : p.response with
  | none => exact .nothing h
  | some response =>
    cases hm : response.at? ["choices", "0", "message"] with
    | none =>
      simp only [hm, Option.getD_none]
      exact .whole h hm
    | some m =>
      simp only [hm, Option.getD_some]
      exact .message h hm

theorem usage_isSome_iff (p : Payload) : (p.response.bind Usage.ofResponse?).isSome = true ↔
    ∃ fields usage, p.response = some (.object fields) ∧
      Fields.get? "usage" fields = some usage := by
  cases h : p.response with
  | none => simp
  | some response =>
    cases response with
    | object fields =>
      cases hu : Fields.get? "usage" fields <;>
        simp [Usage.ofResponse?, Json.get?, hu]
    | null | bool | int | real | string | array => simp [Usage.ofResponse?, Json.get?]

/-- The parts of a record, from the payload and what its metadata have in place of defaults. -/
structure Filled (release : Option String) (p : Payload) (metadata : Fields Json) (rec : Record) :
    Prop where
  generationName : rec.generation.name =
    (overrideText metadata "generation_name").getD ("litellm-" ++ p.callType.name)
  generationId : rec.generation.id = (overrideText metadata "generation_id").getD p.callId
  traceId : rec.trace.id = (overrideText metadata "trace_id").getD p.callId
  traceName : rec.trace.name = (overrideText metadata "trace_name").getD rec.generation.name
  session : rec.trace.sessionId = overrideText metadata "session_id"
  user : rec.trace.userId = overrideText metadata "trace_user_id"
  tags : TagsAre metadata rec.trace.tags
  maskedInput : SwitchedOn metadata "mask_input" → rec.generation.input = .string placeholder
  input : ¬SwitchedOn metadata "mask_input" → rec.generation.input =
    let items := p.messages.map fun m =>
      Json.object [("content", m.content), ("role", .string m.role)]
    if p.callType = .embedding ∨ p.callType = .aembedding then .object [("input", .array items)]
    else .array items
  maskedOutput : SwitchedOn metadata "mask_output" → rec.generation.output = .string placeholder
  output : ¬SwitchedOn metadata "mask_output" → OutputIs p rec.generation.output
  traceInput : rec.trace.input = rec.generation.input
  traceOutput : rec.trace.output = rec.generation.output
  metadata : rec.generation.metadata = metadata
  level : rec.generation.level = if p.event = .failure then .error else .default
  status : rec.generation.statusMessage = if p.event = .failure then p.exception else none
  usage : rec.generation.usage.isSome = true ↔
    ∃ fields usage, p.response = some (.object fields) ∧ Fields.get? "usage" fields = some usage
  model : rec.generation.model = p.model
  times : rec.trace.timestamp = p.startTime ∧ rec.generation.startTime = p.startTime ∧
    rec.generation.endTime = p.endTime
  release : rec.trace.release = release

theorem build_judged (release : Option String) (p : Payload) (metadata : Fields Json) :
    Judged metadata overrides (Filled release p metadata) (build release p metadata) := by
  unfold build
  refine (textKey_judged metadata _).bind fun generationName hgenerationName => ?_
  refine (textKey_judged metadata _).bind fun generationId hgenerationId => ?_
  refine (textKey_judged metadata _).bind fun traceId htraceId => ?_
  refine (textKey_judged metadata _).bind fun traceName htraceName => ?_
  refine (textKey_judged metadata _).bind fun session hsession => ?_
  refine (textKey_judged metadata _).bind fun user huser => ?_
  refine (tagsKey_judged metadata).bind fun tags htags => ?_
  refine (switchKey_judged metadata _).bind fun maskInput hmaskInput => ?_
  refine (switchKey_judged metadata _).bind fun maskOutput hmaskOutput => ?_
  have hinput : inputOf p = if p.callType = .embedding ∨ p.callType = .aembedding then
      .object [("input", messagesJson p.messages)] else messagesJson p.messages := by
    unfold inputOf
    cases p.callType <;> rfl
  subst hgenerationName hgenerationId htraceId htraceName hsession huser
  refine .ok (List.forall_mem_nil _) ?_
  exact {
    generationName := rfl
    generationId := rfl
    traceId := rfl
    traceName := rfl
    session := rfl
    user := rfl
    tags := htags
    maskedInput := fun h => if_pos (hmaskInput.mpr h)
    input := fun h => (if_neg (mt hmaskInput.mp h)).trans hinput
    maskedOutput := fun h => if_pos (hmaskOutput.mpr h)
    output := fun h => (if_neg (mt hmaskOutput.mp h)).symm ▸ outputOf_is p
    traceInput := rfl
    traceOutput := rfl
    metadata := rfl
    level := by simp
    status := by simp
    usage := usage_isSome_iff p
    model := rfl
    times := ⟨rfl, rfl, rfl⟩
    release := rfl }

theorem filled_of_build {release : Option String} {p : Payload} {metadata : Fields Json}
    {rec : Record} (h : build release p metadata = .ok rec) : Filled release p metadata rec := by
  cases h ▸ build_judged release p metadata with
  | ok _ hfilled => exact hfilled

end Record

/-- The metadata of a payload at a moment: all that is in the mapping which its handle leads to, and
nothing if it has no handle. -/
structure Payload.Snapshot (p : Payload) (s : MetadataStore) (metadata : Fields Json) : Prop where
  absent : p.params.metadata = none → metadata = []
  held : ∀ h content, p.params.metadata = some h → s.mappings[h.index]? = some content →
    metadata = content

theorem Payload.metadata_snapshot (p : Payload) (s : MetadataStore) :
    p.Snapshot s (p.metadata s) where
  absent h := by rw [metadata, h]
  held h content hp hs := by
    rw [metadata, hp]
    exact (List.getD_eq_getElem?_getD ..).trans (congrArg (Option.getD · []) hs)

namespace Record

/-- A record is built exactly from metadata whose values have the shapes that their keys ask for.
The error is the first offence against them, and the record is filled from the payload and from its
metadata at that moment. -/
theorem build_judges (release : Option String) (p : Payload) (s : MetadataStore) :
    let metadata := p.metadata s
    p.Snapshot s metadata ∧
    ((∃ rec, build release p metadata = .ok rec) ↔ ∀ k ∈ overrides, WellShaped metadata k) ∧
    (∀ e, build release p metadata = .error e ↔ FirstOffence metadata overrides e) ∧
    ∀ rec, build release p metadata = .ok rec → Filled release p metadata rec := by
  intro metadata
  refine ⟨p.metadata_snapshot s, ?_⟩
  generalize hresult : build release p metadata = result
  cases hresult ▸ build_judged release p metadata with
  | ok hkeys hfilled =>
    refine ⟨iff_of_true ⟨_, rfl⟩ hkeys, fun e => iff_of_false ?_ ?_, fun rec h => ?_⟩
    · intro h
      cases h
    · exact fun hoffence => hoffence.not_wellShaped hkeys
    · cases h
      exact hfilled
  | error hoffence =>
    refine ⟨iff_of_false ?_ hoffence.not_wellShaped, fun e => ⟨fun h => ?_, fun h => ?_⟩,
      fun rec h => ?_⟩
    · rintro ⟨rec, h⟩
      cases h
    · cases h
      exact hoffence
    · rw [hoffence.unique h]
    · cases h

/-- A call that has failed. -/
def failedCall : Payload where
  event := .failure
  model := "gpt-4"
  messages := [⟨"user", .string "hello"⟩]
  stream := false
  callType := .embedding
  callId := "call-1"
  functionId := ""
  startTime := none
  endTime := none
  params := { metadata := some ⟨0⟩ }
  response := none
  exception := some "rate limited"

/-- The mapping that its handle leads to: the number gives both names, and null leaves the id of the
call. -/
def failedMetadata : MetadataStore := ⟨[[("generation_name", .int 7), ("trace_id", .null)]]⟩

theorem failedCall_filled :
    ∃ rec, build none failedCall (failedCall.metadata failedMetadata) = .ok rec ∧
      rec.generation.metadata = [("generation_name", .int 7), ("trace_id", .null)] ∧
      rec.generation.name = "7" ∧ rec.trace.name = "7" ∧ rec.trace.id = "call-1" ∧
      rec.generation.input = .object [("input", .array
        [.object [("content", .string "hello"), ("role", .string "user")]])] ∧
      rec.generation.level = .error ∧ rec.generation.statusMessage = some "rate limited" := by
  obtain ⟨hsnapshot, -, -, hfilled⟩ := build_judges none failedCall failedMetadata
  have hbuild : (build none failedCall (failedCall.metadata failedMetadata)).isOk = true := by
    decide +kernel
  obtain ⟨rec, hrec⟩ := exists_ok_of_isOk hbuild
  have h := hfilled rec hrec
  have hname : rec.generation.name = "7" := h.generationName.trans (by decide +kernel)
  have hmetadata := hsnapshot.held ⟨0⟩ _ rfl rfl
  have hshown : ¬SwitchedOn (failedCall.metadata failedMetadata) "mask_input" := by
    rw [hmetadata]
    nofun
  refine ⟨rec, hrec, h.metadata.trans hmetadata, hname, ?_, h.traceId.trans (by decide +kernel),
    h.input hshown, h.level, h.status⟩
  rw [h.traceName, hname]
  decide +kernel

end Record
end CallScribe
