import CallScribe.Proofs.Call.Hooks
import CallScribe.Proofs.Json.Redacted

/-!
# CallScribe.Proofs.Call.RawRequest

What a captured request tells about the strings of its body.

* `RequestArgs.leafTexts`: the strings of a body as the command prints them.
* `CallContext.preCall_rawRequest`: what the hook before a call leaves in the metadata.
* `CallContext.preCall_rawRequest_eq_iff`: two bodies of one shape leave the same if and only if
  redaction makes their printed strings equal. The command is printed first and redacted then, so
  that an escape can stand between a secret and what it is recognised by.
-/

namespace CallScribe

open Redactor

namespace RequestArgs

/-- The command up to the last backslash in front of the body. -/
def commandHead (a : RequestArgs) : List Char :=
  "curl -X POST \\\n".toList ++ (a.apiBase.getD missingBase).toList ++ " \\\n-H '".toList ++
    (Json.object (maskHeaders a.headers)).chars ++ "' ".toList

/-- What stands between that backslash and the body. -/
def bodyFront : List Char := "\n-d '".toList

def bodyBack : List Char := "'\n".toList

theorem commandChars_eq (a : RequestArgs) : a.commandChars =
    a.commandHead ++ '\\' :: (bodyFront ++ a.shownBody.chars ++ bodyBack) := by
  have hfront : "' \\\n-d '".toList = "' ".toList ++ '\\' :: bodyFront := by decide
  unfold commandChars commandHead bodyBack
  rw [hfront]
  simp only [List.append_assoc, List.cons_append]

theorem command_toList (a : RequestArgs) : a.command.toList = a.commandChars :=
  String.toList_ofList

theorem shownBody_of_null {a : RequestArgs} (h : a.body.isNull = true) :
    a.shownBody = .object [] := by rw [shownBody, if_pos h]

theorem shownBody_of_not_null {a : RequestArgs} (h : a.body.isNull = false) :
    a.shownBody = a.body := by rw [shownBody, if_neg (by rw [h]; decide)]

/-- The strings of the body, as the command prints them. -/
def leafTexts (a : RequestArgs) : List (List Char) := a.body.leafTexts bodyFront bodyBack

theorem leafTexts_of_null {a : RequestArgs} (h : a.body.isNull = true) : a.leafTexts = [] := by
  unfold leafTexts
  cases hb : a.body <;> rw [hb] at h <;> first | rfl | cases h

theorem rewritten_command_iff {R : List Char → List Char} (hR : Rewriting R) {a b : RequestArgs}
    (hbase : a.apiBase = b.apiBase) (hheaders : a.headers = b.headers)
    (hshape : a.body.SameShape b.body) :
    R a.commandChars = R b.commandChars ↔ a.leafTexts.map R = b.leafTexts.map R := by
  have hhead : a.commandHead = b.commandHead := by
    unfold commandHead
    rw [hbase, hheaders]
  have hsep : Family.isBarrier '\\' = true := by decide
  rw [commandChars_eq, commandChars_eq, hhead, hR.fixed_iff _ hsep]
  have hnull := hshape.isNull
  cases hn : a.body.isNull with
  | true =>
    rw [hn] at hnull
    rw [shownBody_of_null hn, shownBody_of_null hnull.symm, leafTexts_of_null hn,
      leafTexts_of_null hnull.symm]
    exact ⟨fun _ => rfl, fun _ => rfl⟩
  | false =>
    rw [hn] at hnull
    rw [shownBody_of_not_null hn, shownBody_of_not_null hnull.symm]
    exact hshape.rewritten_in_iff hR bodyFront bodyBack

end RequestArgs

namespace CallContext

/-- The value under the reserved key of the call's metadata. -/
def rawRequest (c : CallContext) (s : MetadataStore) : Option Json :=
  c.metadata.bind fun h => (s.read h).get? rawRequestKey

theorem rawRequest_eq (c : CallContext) (s : MetadataStore) :
    c.rawRequest s = (c.mapping s).get? rawRequestKey := by
  unfold rawRequest mapping CallParams.mapping metadata
  cases c.details.params.metadata <;> rfl

theorem preCall_rawRequest {c : CallContext} {scene : CallScene} (hcap : c.captures = true)
    (hmeta : ∀ h, c.metadata = some h → scene.store.Holds h) (input : Json)
    (apiKey : Option String) (model : String) (a : RequestArgs) :
    (c.preCall input apiKey model a scene).1.rawRequest
        (c.preCall input apiKey model a scene).2.store =
      some (.string (c.policy.scrub a.command)) := by
  rw [rawRequest_eq, preCall_mapping_of_holds hcap hmeta, Fields.get?_insert_self]

/-- Two requests that differ in the strings of their bodies leave the same behind if and only if
redaction makes the printed strings equal, each in its place. -/
theorem preCall_rawRequest_eq_iff {c : CallContext} {scene : CallScene}
    (hcap : c.captures = true) (hpolicy : c.policy = Policy.standard)
    (hmeta : ∀ h, c.metadata = some h → scene.store.Holds h) {a b : RequestArgs}
    (hbase : a.apiBase = b.apiBase) (hheaders : a.headers = b.headers)
    (hshape : a.body.SameShape b.body) (input : Json) (apiKey : Option String) (model : String) :
    (c.preCall input apiKey model a scene).1.rawRequest
        (c.preCall input apiKey model a scene).2.store =
      (c.preCall input apiKey model b scene).1.rawRequest
        (c.preCall input apiKey model b scene).2.store ↔
      a.leafTexts.map builtin.redactChars = b.leafTexts.map builtin.redactChars := by
  rw [preCall_rawRequest hcap hmeta, preCall_rawRequest hcap hmeta, hpolicy,
    ← RequestArgs.rewritten_command_iff builtin_rewriting hbase hheaders hshape,
    ← RequestArgs.command_toList, ← RequestArgs.command_toList, Option.some.injEq,
    Json.string.injEq]
  exact String.ofList_inj

/-- A call that captures requests. -/
def capturing : CallContext where
  model := "gpt-4"
  messages := []
  callType := .completion
  callId := "1"
  captures := true

def promptArgs (prompt : String) : RequestArgs where
  body := .object [("prompt", .string prompt)]

/-- What such a call keeps of a request with one prompt. -/
def capturedPrompt (prompt : String) : Option Json :=
  let (c, scene) := capturing.preCall .null none "" (promptArgs prompt) {}
  c.rawRequest scene.store

/-- Keys in the same place are the same to a captured request. -/
theorem capturedPrompt_eq_of_keys :
    capturedPrompt "use sk-abcdefgh" = capturedPrompt "use sk-12345678" :=
  (preCall_rawRequest_eq_iff (c := capturing) (a := promptArgs "use sk-abcdefgh")
    (b := promptArgs "use sk-12345678") rfl rfl (fun _ h => by cases h) rfl rfl
    (.object (.cons _ (.string _ _) .nil)) .null none "").mpr (by decide +kernel)

/-- A line break after the word bearer is printed as an escape, and what follows is no longer
recognised as a token. -/
theorem capturedPrompt_shows_token :
    builtin.redact "Bearer\nabc" = builtin.redact "Bearer\n[REDACTED_API_KEY]" ∧
      capturedPrompt "Bearer\nabc" ≠ capturedPrompt "Bearer\n[REDACTED_API_KEY]" := by
  refine ⟨by decide +kernel, fun h => ?_⟩
  have hkept : ∀ prompt, capturedPrompt prompt =
      some (.string (capturing.policy.scrub (promptArgs prompt).command)) :=
    fun prompt => preCall_rawRequest (c := capturing) rfl (fun _ h => by cases h) _ _ _ _
  rw [hkept, hkept, Option.some.injEq, Json.string.injEq] at h
  have hchars := String.ofList_inj.mp h
  rw [RequestArgs.command_toList, RequestArgs.command_toList] at hchars
  have hiff := RequestArgs.rewritten_command_iff (a := promptArgs "Bearer\nabc")
    (b := promptArgs "Bearer\n[REDACTED_API_KEY]") builtin_rewriting rfl rfl
    (.object (.cons _ (.string _ _) .nil))
  exact absurd (hiff.mp hchars) (by decide +kernel)

end CallContext
end CallScribe
