import CallScribe.Proofs.Call.Command
import CallScribe.Proofs.Call.Credentials
import CallScribe.Proofs.Json.Shown

/-!
# CallScribe.Proofs.Call.ApiKey

Where the key of a call shows in its details.

* `KeyText.not_infix_maskSecret`, `KeyText.not_shows_maskHeader`: masking never leaves a key.
* `RequestArgs.withoutCredentials`: a request with nothing in the headers for credentials.
* `RequestArgs.HidesOutside`: the key is nowhere in a request but in these headers. Then the
  command does not show it (`RequestArgs.not_shows_command`), but the request itself does if one of
  them has it (`RequestArgs.shows_toJson_iff`).
* `CallContext.preCall_shows_key_iff`: after the hook before a call the details show the key if and
  only if a header for credentials has it, since the request is kept as it is. All else that is kept
  is masked or scrubbed.
-/

namespace CallScribe

namespace KeyText

variable {k : List Char} (hk : KeyText k)
include hk

/-- Eight characters are too few, even if the end of an escape is taken for a part of the key. -/
theorem not_infix_short {cs : List Char} (h : cs.length ≤ 8) :
    ¬ k <:+: cs.flatMap Json.escapeChar := by
  intro hinfix
  have hlength := Json.length_le_of_infix_escaped (hk.not_mem (by decide)) hinfix
  have hlong := hk.long
  omega

theorem not_infix_maskSecret (s : String) :
    ¬ k <:+: (maskSecret s).toList.flatMap Json.escapeChar := by
  obtain ⟨u, n, v, hshape, hu, hv, -⟩ := maskSecret_stars s
  have hstar : Json.escapeChar '*' = ['*'] := by decide
  have hback : ¬ k <:+: (List.replicate n '*' ++ v).flatMap Json.escapeChar := by
    clear hshape
    induction n with
    | zero => exact hk.not_infix_short (Nat.le_trans hv (by decide))
    | succ n ih =>
      rw [List.replicate_succ, List.cons_append, List.flatMap_cons, hstar, List.singleton_append,
        hk.behind (by decide)]
      exact ih
  rw [hshape, List.flatMap_append, List.flatMap_cons, hstar, List.singleton_append,
    hk.around (by decide), not_or]
  exact ⟨hk.not_infix_short (by omega), hback⟩

theorem not_infix_maskHeaderValue (s : String) : ¬ k <:+: Json.escaped (maskHeaderValue s) := by
  unfold maskHeaderValue
  split
  · rename_i scheme token hsplit
    split
    · rename_i hscheme
      have hlength := congrArg List.length (scheme_lower hscheme)
      rw [String.toList_ofList, List.length_map] at hlength
      have hblank : Json.escapeChar ' ' = [' '] := by decide
      rw [Json.escaped, String.toList_ofList, List.flatMap_append, List.flatMap_cons, hblank,
        List.singleton_append, hk.around (by decide), not_or]
      exact ⟨hk.not_infix_short (by rw [hlength]; decide), hk.not_infix_maskSecret _⟩
    · exact hk.not_infix_maskSecret s
  · exact hk.not_infix_maskSecret s

theorem not_shows_maskHeader {name : String}
    (hname : credentialHeaders.contains (lowerName name) = true) (v : Json) :
    ¬ (maskHeader name v).Shows k := by
  unfold maskHeader
  rw [if_pos hname]
  split
  · rw [hk.shows_string]
    exact hk.not_infix_maskHeaderValue _
  · exact hk.not_infix (by decide)

end KeyText

namespace RequestArgs

/-- The request without the values of its headers for credentials. -/
def withoutCredentials (a : RequestArgs) : RequestArgs :=
  { a with
    headers := a.headers.map fun h =>
      (h.1, if credentialHeaders.contains (lowerName h.1) then .null else h.2) }

variable {k : List Char} (hk : KeyText k) {a : RequestArgs}
include hk

theorem shows_toJson : a.toJson.Shows k ↔ (Json.ofString? a.apiBase).Shows k ∨
    (k <:+: Json.escaped "complete_input_dict" ∨ a.body.Shows k) ∨
      ∃ h ∈ a.headers, k <:+: Json.escaped h.1 ∨ h.2.Shows k := by
  have hbase : ¬ k <:+: Json.escaped "api_base" := hk.not_infix (by decide)
  have hheaders : ¬ k <:+: Json.escaped "headers" := hk.not_infix (by decide)
  rw [toJson, hk.shows_object]
  simp only [List.exists_mem_cons_iff, List.not_mem_nil, false_and, exists_false, or_false,
    hk.shows_object, hbase, hheaders, false_or]

/-- The key is nowhere in the request but in headers for credentials. -/
structure HidesOutside (k : List Char) (a : RequestArgs) : Prop where
  base : ¬ (Json.ofString? a.apiBase).Shows k
  frame : ¬ k <:+: Json.escaped "complete_input_dict"
  body : ¬ a.body.Shows k
  names : ∀ h ∈ a.headers, ¬ k <:+: Json.escaped h.1
  values : ∀ h ∈ a.headers, h.2.Shows k → credentialHeaders.contains (lowerName h.1) = true

theorem hidesOutside (h : ¬ a.withoutCredentials.toJson.Shows k) : a.HidesOutside k := by
  rw [shows_toJson hk, not_or, not_or, not_or] at h
  obtain ⟨hbase, ⟨hframe, hbody⟩, hheaders⟩ := h
  have hheader : ∀ h ∈ a.headers, ¬ (k <:+: Json.escaped h.1 ∨
      Json.Shows k (if credentialHeaders.contains (lowerName h.1) then .null else h.2)) :=
    fun h hh hshown => hheaders ⟨_, List.mem_map_of_mem hh, hshown⟩
  refine ⟨hbase, hframe, hbody, fun h hh hname => hheader h hh (.inl hname), fun h hh hvalue => ?_⟩
  refine Decidable.byContradiction fun hcred => hheader h hh (.inr ?_)
  rwa [if_neg hcred]

theorem shows_toJson_iff (h : a.HidesOutside k) : a.toJson.Shows k ↔
    ∃ h ∈ a.headers, credentialHeaders.contains (lowerName h.1) = true ∧ h.2.Shows k := by
  rw [shows_toJson hk, or_iff_right h.base, or_iff_right (not_or.mpr ⟨h.frame, h.body⟩)]
  constructor
  · rintro ⟨header, hheader, hname | hvalue⟩
    · exact absurd hname (h.names header hheader)
    · exact ⟨header, hheader, h.values header hheader hvalue, hvalue⟩
  · rintro ⟨header, hheader, -, hvalue⟩
    exact ⟨header, hheader, .inr hvalue⟩

/-- Masking leaves nothing of the key in the headers. -/
theorem not_shows_shownHeaders (h : a.HidesOutside k) : ¬ a.shownHeaders.Shows k := by
  rw [shownHeaders, hk.shows_object]
  rintro ⟨f, hf, hshown⟩
  obtain ⟨header, hheader, rfl⟩ := List.mem_map.mp hf
  rcases hshown with hname | hvalue
  · exact h.names header hheader hname
  · by_cases hcred : credentialHeaders.contains (lowerName header.1) = true
    · exact hk.not_shows_maskHeader hcred header.2 hvalue
    · unfold maskHeader at hvalue
      rw [if_neg hcred] at hvalue
      exact hcred (h.values header hheader hvalue)

theorem not_shows_shownBody (h : a.HidesOutside k) : ¬ a.shownBody.Shows k := by
  unfold shownBody
  split
  · exact hk.not_infix (by decide)
  · exact h.body

omit hk in
theorem printed_command (base headers body : List Char) :
    ("curl -X POST \\\n".toList ++ base ++ " \\\n-H '".toList ++ headers ++ "' \\\n-d '".toList ++
      body ++ "'\n".toList).flatMap Json.escapeChar = "curl -X POST \\\\".toList ++ '\\' ::
      ('n' :: base.flatMap Json.escapeChar ++ ' ' :: ("\\\\\\n-H ".toList ++ '\'' ::
        (headers.flatMap Json.escapeChar ++ '\'' :: (" \\\\\\n-d ".toList ++ '\'' ::
          (body.flatMap Json.escapeChar ++ '\'' :: "\\n".toList))))) := by
  have hfront : "curl -X POST \\\n".toList.flatMap Json.escapeChar =
      "curl -X POST \\\\".toList ++ '\\' :: ['n'] := by decide
  have hheaders : " \\\n-H '".toList.flatMap Json.escapeChar =
      ' ' :: ("\\\\\\n-H ".toList ++ ['\'']) := by decide
  have hbody : "' \\\n-d '".toList.flatMap Json.escapeChar =
      '\'' :: (" \\\\\\n-d ".toList ++ ['\'']) := by decide
  have hend : "'\n".toList.flatMap Json.escapeChar = '\'' :: "\\n".toList := by decide
  rw [List.flatMap_append, List.flatMap_append, List.flatMap_append, List.flatMap_append,
    List.flatMap_append, List.flatMap_append, hfront, hheaders, hbody, hend]
  simp only [List.append_assoc, List.cons_append, List.nil_append]

/-- The parts of a command in which a key can be found when it is printed as a string. The escape
of the line break in front of the address ends in a letter. -/
theorem infix_command (h : k <:+: Json.escaped a.command) :
    k <:+: 'n' :: Json.escaped a.shownBase ∨ a.shownHeaders.Shows k ∨ a.shownBody.Shows k := by
  have hprinted : ∀ v : Json, k <:+: v.chars.flatMap Json.escapeChar → v.Shows k := fun v =>
    Json.infix_of_printed (hk.not_mem (by decide)) (hk.not_mem (by decide)) v.printable_chars
  rw [Json.escaped, command_toList] at h
  unfold commandChars at h
  rw [printed_command] at h
  rcases (hk.around (by decide)).mp h with h | h
  · exact absurd h (hk.not_infix (by decide))
  rcases (hk.around (by decide)).mp h with h | h
  · exact .inl h
  rcases (hk.around (by decide)).mp h with h | h
  · exact absurd h (hk.not_infix (by decide))
  rcases (hk.around (by decide)).mp h with h | h
  · exact .inr (.inl (hprinted _ h))
  rcases (hk.around (by decide)).mp h with h | h
  · exact absurd h (hk.not_infix (by decide))
  rcases (hk.around (by decide)).mp h with h | h
  · exact .inr (.inr (hprinted _ h))
  · exact absurd h (hk.not_infix (by decide))

theorem not_shows_command (h : a.HidesOutside k)
    (hbase : ∀ base, a.apiBase = some base → ¬ k <+: 'n' :: base.toList) :
    ¬ k <:+: Json.escaped a.command := by
  intro hshown
  rcases infix_command hk hshown with haddress | hheaders | hbody
  · cases hset : a.apiBase with
    | none =>
      rw [shownBase, hset, Option.getD_none] at haddress
      exact hk.not_infix (by decide) haddress
    | some base =>
      have haside := h.base
      rw [hset, Json.ofString?, hk.shows_string] at haside
      rw [shownBase, hset, Option.getD_some] at haddress
      rcases List.infix_cons_iff.mp haddress with hfront | hinside
      · have hletter : Json.escapeChar 'n' = ['n'] := by decide
        have hplain : ('n' :: base.toList).flatMap Json.escapeChar = 'n' :: Json.escaped base := by
          rw [List.flatMap_cons, hletter, Json.escaped, List.singleton_append]
        rw [← hplain] at hfront
        exact hbase base hset (Json.prefix_of_escaped (hk.not_mem (by decide)) hfront)
      · exact haside hinside
  · exact not_shows_shownHeaders hk h hheaders
  · exact not_shows_shownBody hk h hbody

end RequestArgs

/-- What a call has gathered before its request is known. -/
def CallDetails.carried (d : CallDetails) : CallDetails :=
  { d with input := none, apiKey := none, args := none }

namespace CallContext

variable {k : List Char} {c : CallContext}

theorem not_shows_scrubValue (hk : KeyText k) (hleads : c.policy.redactor.LeadsFirst) {v : Json}
    (h : ¬ v.Shows k) : ¬ (c.scrubValue v).Shows k := by
  unfold scrubValue
  split
  · exact hk.not_shows_placeholder
  · exact mt (Redactor.shows_of_redactValue hk hleads) h

theorem not_infix_scrub (hk : KeyText k) (hleads : c.policy.redactor.LeadsFirst) {text : String}
    (h : ¬ k <:+: Json.escaped text) : ¬ k <:+: Json.escaped (c.policy.scrub text) := by
  unfold Policy.scrub
  split
  · exact mt hk.shows_string.mpr hk.not_shows_placeholder
  · exact mt (Redactor.infix_of_redact hk hleads) h

theorem preCall_details (c : CallContext) (input : Json) (apiKey : Option String) (model : String)
    (args : RequestArgs) (scene : CallScene) :
    (c.preCall input apiKey model args scene).1.details =
      { c.details with
        params := (c.details.params.ensureMetadata scene.store).2.1
        input := some (c.scrubValue input)
        apiKey := apiKey.map maskSecret
        args := some args } := by
  unfold preCall ensureMetadata
  generalize c.details.params.ensureMetadata scene.store = e
  obtain ⟨h, p, store⟩ := e
  dsimp only
  split <;> rfl

/-- The metadata shows no key that was not in it, nor a captured request that does not show it. -/
theorem not_shows_mapping (hk : KeyText k) {scene : CallScene}
    (hheld : ¬ (Json.object (c.mapping scene.store)).Shows k) {args : RequestArgs}
    (hcommand : ¬ k <:+: Json.escaped (c.policy.scrub args.command)) (input : Json)
    (apiKey : Option String) (model : String) :
    ¬ (Json.object ((c.preCall input apiKey model args scene).1.mapping
      (c.preCall input apiKey model args scene).2.store)).Shows k := by
  have hkey : longestWord (Json.escaped rawRequestKey) ≤ 12 := by decide
  rcases c.preCall_mapping_cases input apiKey model args scene with hmap | hmap
  · rwa [hmap]
  · rw [hmap, hk.shows_object]
    rintro ⟨f, hf, hshown⟩
    rcases Fields.mem_of_mem_insert hf with rfl | hf
    · rcases hshown with hname | hvalue
      · exact hk.not_infix hkey hname
      · exact hcommand (hk.shows_string.mp hvalue)
    · exact hheld (hk.shows_object.mpr ⟨f, hf, hshown⟩)

end CallContext

namespace CallParams

variable {k : List Char}

theorem ensureMetadata_addressed (p : CallParams) (s : MetadataStore) :
    (p.ensureMetadata s).2.1.apiBase = p.apiBase ∧
      (p.ensureMetadata s).2.1.provider = p.provider := by
  unfold ensureMetadata
  cases p.metadata <;> exact ⟨rfl, rfl⟩

theorem shows_toJson (hk : KeyText k) (p : CallParams) (s : MetadataStore) :
    (p.toJson s).Shows k ↔ (Json.ofString? p.apiBase).Shows k ∨
      (k <:+: Json.escaped "custom_llm_provider" ∨ (Json.ofString? p.provider).Shows k) ∨
      (Json.object (p.mapping s)).Shows k := by
  have hbase : ¬ k <:+: Json.escaped "api_base" := hk.not_infix (by decide)
  have hmeta : ¬ k <:+: Json.escaped "metadata" := hk.not_infix (by decide)
  have hempty : ¬ (Json.object []).Shows k := hk.not_infix (by decide)
  rw [toJson, hk.shows_object]
  simp only [List.exists_mem_cons_iff, List.not_mem_nil, false_and, exists_false, or_false, hbase,
    hmeta, false_or]
  unfold mapping
  cases p.metadata with
  | some h => rfl
  | none => simp only [hempty, hk.not_shows_null]

end CallParams

namespace CallDetails

variable {k : List Char}

theorem shows_toJson (hk : KeyText k) (d : CallDetails) (s : MetadataStore) :
    (d.toJson s).Shows k ↔
      (k <:+: Json.escaped "additional_args" ∨ (d.args.elim .null RequestArgs.toJson).Shows k) ∨
      (Json.ofString? d.apiKey).Shows k ∨ (Json.ofString? d.exception).Shows k ∨
      (d.input.getD .null).Shows k ∨
      (k <:+: Json.escaped "litellm_params" ∨ (d.params.toJson s).Shows k) ∨
      k <:+: Json.escaped "original_response" ∨ (Json.ofString? d.response).Shows k := by
  have hkey : ¬ k <:+: Json.escaped "api_key" := hk.not_infix (by decide)
  have hexception : ¬ k <:+: Json.escaped "exception" := hk.not_infix (by decide)
  have hinput : ¬ k <:+: Json.escaped "input" := hk.not_infix (by decide)
  have hobject : d.toJson s = .object [
      ("additional_args", d.args.elim .null RequestArgs.toJson),
      ("api_key", Json.ofString? d.apiKey), ("exception", Json.ofString? d.exception),
      ("input", d.input.getD .null), ("litellm_params", d.params.toJson s),
      ("original_response", Json.ofString? d.response)] := by
    unfold toJson
    cases d.args <;> rfl
  rw [hobject, hk.shows_object]
  simp only [List.exists_mem_cons_iff, List.not_mem_nil, false_and, exists_false, or_false, hkey,
    hexception, hinput, false_or]

/-- If all else hides the key, the details show it if and only if the request does. -/
theorem shows_toJson_iff (hk : KeyText k) {d : CallDetails} {s : MetadataStore}
    (h : ¬ ({ d with args := none }.toJson s).Shows k) :
    (d.toJson s).Shows k ↔ (d.args.elim .null RequestArgs.toJson).Shows k := by
  simp only [shows_toJson hk, not_or] at h
  obtain ⟨⟨hname, -⟩, hkey, hexception, hinput, hparams, hresponse⟩ := h
  rw [shows_toJson hk, or_iff_right hname]
  refine or_iff_left ?_
  simp only [not_or]
  exact ⟨hkey, hexception, hinput, hparams, hresponse⟩

end CallDetails

namespace CallContext

variable {c : CallContext} {scene : CallScene}

/-- After the hook before a call the details show its key if and only if a header for credentials
has it, with capture on or off: the request is kept as it is, and all else is masked or scrubbed.
The key is one that the call has neither seen before nor finds in the input or elsewhere in the
request; the last condition is for a captured command, where the escape of a line break stands in
front of the address. -/
theorem preCall_shows_key_iff {key : String} (hk : KeyText key.toList)
    (hleads : c.policy.redactor.LeadsFirst)
    (hheld : ¬ (c.details.carried.toJson scene.store).Shows key.toList) {input : Json}
    (hinput : ¬ input.Shows key.toList) {args : RequestArgs}
    (hargs : ¬ args.withoutCredentials.toJson.Shows key.toList)
    (hbase : ∀ base, args.apiBase = some base → ¬ key.toList <+: 'n' :: base.toList)
    (model : String) :
    let (c', scene') := c.preCall input (some key) model args scene
    ¬ ({ c'.details with args := none }.toJson scene'.store).Shows key.toList ∧
      ((c'.details.toJson scene'.store).Shows key.toList ↔
        ∃ h ∈ args.headers, credentialHeaders.contains (lowerName h.1) = true ∧
          h.2.Shows key.toList) := by
  simp only [CallDetails.shows_toJson hk, CallParams.shows_toJson hk, CallDetails.carried,
    not_or] at hheld
  obtain ⟨⟨hargsName, -⟩, -, hexception, -, ⟨hparamsName, hheldBase, ⟨hproviderName, hprovider⟩,
    hmapping⟩, hresponseName, hresponse⟩ := hheld
  have hout := RequestArgs.hidesOutside hk hargs
  have hcommand := not_infix_scrub hk hleads (RequestArgs.not_shows_command hk hout hbase)
  have hmap := not_shows_mapping hk hmapping hcommand input (some key) model
  obtain ⟨haddress, hname⟩ := c.details.params.ensureMetadata_addressed scene.store
  have hmasked : ¬ (Json.string (maskSecret key)).Shows key.toList := by
    rw [hk.shows_string]
    exact hk.not_infix_maskSecret key
  have hscrubbed := not_shows_scrubValue hk hleads hinput
  rw [mapping, preCall_details] at hmap
  dsimp only at hmap ⊢
  have hrest : ¬ ({ (c.preCall input (some key) model args scene).1.details with
      args := none }.toJson (c.preCall input (some key) model args scene).2.store).Shows
        key.toList := by
    rw [preCall_details, CallDetails.shows_toJson hk, CallParams.shows_toJson hk]
    simp only [not_or, haddress, hname]
    exact ⟨⟨hargsName, hk.not_shows_null⟩, hmasked, hexception, hscrubbed,
      ⟨hparamsName, hheldBase, ⟨hproviderName, hprovider⟩, hmap⟩, hresponseName, hresponse⟩
  refine ⟨hrest, ?_⟩
  rw [CallDetails.shows_toJson_iff hk hrest, preCall_details]
  exact RequestArgs.shows_toJson_iff hk hout

/-- A key as providers hand them out. -/
def handedKey : String := "sk-abcdefghijklmnopqrstuvwxyz123456"

theorem handedKey_text : KeyText handedKey.toList where
  long := by decide
  plain := List.all_eq_true.mp (by decide)
  not_marker h := absurd (Redactor.hasInfix_iff.mpr h) (by decide)
  not_placeholder h := absurd (Redactor.hasInfix_iff.mpr h) (by decide)

def authorized (credential : String) : RequestArgs where
  apiBase := some "https://api.openai.com/v1"
  headers := [("Accept", .string "application/json"), ("Authorization", .string credential)]
  body := .object [("model", .string "gpt-4")]

/-- What a call with this key keeps of such a request. -/
def keptDetails (captures : Bool) (credential : String) : Json :=
  let (c, scene) := { capturing with captures }.preCall (.string "Hello") (some handedKey) ""
    (authorized credential) {}
  c.details.toJson scene.store

/-- With another credential in the header nothing of the key is kept. -/
theorem otherCredential_kept : KeyText handedKey.toList ∧
    ¬ (capturing.details.carried.toJson {}).Shows handedKey.toList ∧
    ¬ (authorized "Bearer sk-0123456789").withoutCredentials.toJson.Shows handedKey.toList ∧
    ¬ (keptDetails true "Bearer sk-0123456789").Shows handedKey.toList := by
  have hheld : ¬ (capturing.details.carried.toJson ({} : CallScene).store).Shows
      handedKey.toList := by decide +kernel
  have hinput : ¬ (Json.string "Hello").Shows handedKey.toList := by decide +kernel
  have hargs : ¬ (authorized "Bearer sk-0123456789").withoutCredentials.toJson.Shows
      handedKey.toList := by decide +kernel
  have hbase : ∀ base, (authorized "Bearer sk-0123456789").apiBase = some base →
      ¬ handedKey.toList <+: 'n' :: base.toList := by
    rintro _ ⟨⟩
    decide
  obtain ⟨-, hiff⟩ := preCall_shows_key_iff (c := capturing) handedKey_text
    Redactor.builtin_leadsFirst hheld hinput hargs hbase ""
  refine ⟨handedKey_text, hheld, hargs, fun hshown => ?_⟩
  obtain ⟨header, hheader, -, hvalue⟩ := hiff.mp hshown
  have hnone : ∀ h ∈ (authorized "Bearer sk-0123456789").headers,
      ¬ h.2.Shows handedKey.toList := by decide +kernel
  exact hnone header hheader hvalue

/-- The key behind the word bearer is kept, with capture on and off. -/
theorem bearerKey_kept : 12 < handedKey.toList.length ∧
    ¬ (Json.string "Hello").Shows handedKey.toList ∧
    ¬ (capturing.details.carried.toJson {}).Shows handedKey.toList ∧
    ¬ (authorized ("Bearer " ++ handedKey)).withoutCredentials.toJson.Shows handedKey.toList ∧
    (keptDetails true ("Bearer " ++ handedKey)).Shows handedKey.toList ∧
    (keptDetails false ("Bearer " ++ handedKey)).Shows handedKey.toList := by decide +kernel

end CallContext
end CallScribe
