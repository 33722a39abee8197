import CallScribe.Proofs.Call.RawRequest
import CallScribe.Proofs.Redaction.Tokens

/-!
# CallScribe.Proofs.Call.Credentials

Bearer tokens in the headers of a captured request.

* `SameHeader`: two headers that are the same but for the token of a credential.
* `maskHeader_token`: what masking leaves of a token stays behind the word bearer.
* `Indistinct`: two pieces of text that redaction makes equal in every place.
* `RequestArgs.redact_command_congr`: every redactor that begins with the built-in families makes
  the commands of two such requests equal.
* `CallContext.preCall_hides_token`: so nothing is seen of a token before a call.
-/

namespace CallScribe

/-- The characters of a token: ASCII letters and digits, and some marks. -/
def isTokenChar (c : Char) : Bool := c.isAlphanum || ['.', '_', '~', '+', '/', '-'].contains c

/-- Two headers that are the same, or whose credentials differ in the token behind the word
bearer. -/
inductive SameHeader : String × Json → String × Json → Prop
  | same (h : String × Json) : SameHeader h h
  | token {name scheme : String} {t t' : String}
    (hname : credentialHeaders.contains (lowerName name) = true)
    (hscheme : scheme.toLower = "bearer") (ht : ∀ c ∈ t.toList, isTokenChar c = true)
    (ht' : ∀ c ∈ t'.toList, isTokenChar c = true) :
    SameHeader (name, .string (scheme ++ " " ++ t)) (name, .string (scheme ++ " " ++ t'))

theorem isTokenChar_ascii {c : Char} (h : isTokenChar c = true) : c.toNat < 128 := by
  rw [isTokenChar, Bool.or_eq_true] at h
  rcases h with h | h
  · exact toNat_of_isAlphanum h
  · simp only [List.contains_eq_mem, decide_eq_true_eq, List.mem_cons, List.not_mem_nil,
      or_false] at h
    rcases h with rfl | rfl | rfl | rfl | rfl | rfl <;> decide

theorem isTokenChar_spec {c : Char} (h : isTokenChar c = true) :
    Family.bearerChars.contains c = true ∧ Json.escapeChar c = [c] :=
  holds_of_ascii (P := fun c => isTokenChar c = true →
    Family.bearerChars.contains c = true ∧ Json.escapeChar c = [c]) (by decide +kernel)
    (isTokenChar_ascii h) h

theorem schemeChar_spec {c : Char} (h : c.toLower ∈ "bearer".toList) :
    c ≠ ' ' ∧ Json.escapeChar c = [c] := by
  have hlower : "bearer".toList.all Char.isLower = true := by decide
  have hc : c.toNat < 128 := by
    have hrange := toNat_of_isLower (List.all_eq_true.mp hlower _ h)
    rw [toNat_toLower] at hrange
    split at hrange <;> omega
  exact holds_of_ascii (P := fun c => c.toLower ∈ "bearer".toList →
    c ≠ ' ' ∧ Json.escapeChar c = [c]) (by decide +kernel) hc h

theorem flatMap_escapeChar {cs : List Char} (h : ∀ c ∈ cs, Json.escapeChar c = [c]) :
    cs.flatMap Json.escapeChar = cs := by
  induction cs with
  | nil => rfl
  | cons c cs ih =>
    obtain ⟨hc, hcs⟩ := List.forall_mem_cons.mp h
    rw [List.flatMap_cons, hc, ih hcs]
    rfl

section Scheme

variable {scheme : String}

theorem scheme_lower (h : scheme.toLower = "bearer") :
    scheme.toList.map Char.toLower = "bearer".toList := by
  have hlist : scheme.toLower.toList = scheme.toList.map Char.toLower := String.toList_map
  rw [← h, hlist]

theorem scheme_char (h : scheme.toLower = "bearer") {c : Char} (hc : c ∈ scheme.toList) :
    c ≠ ' ' ∧ Json.escapeChar c = [c] := by
  refine schemeChar_spec ?_
  rw [← scheme_lower h]
  exact List.mem_map_of_mem hc

theorem splitAtBlank_append {u v : List Char} (hu : ∀ c ∈ u, c ≠ ' ') :
    splitAtBlank (u ++ ' ' :: v) = some (u, v) := by
  have hkeep : ∀ c ∈ u, (c ≠ ' ' : Bool) = true := by simpa using hu
  rw [splitAtBlank, List.dropWhile_append_of_pos hkeep, List.takeWhile_append_of_pos hkeep]
  simp

theorem maskHeader_token {name : String} {t : String}
    (hname : credentialHeaders.contains (lowerName name) = true)
    (hscheme : scheme.toLower = "bearer") (ht : ∀ c ∈ t.toList, isTokenChar c = true) :
    (maskHeader name (.string (scheme ++ " " ++ t))).chars =
      '"' :: (scheme.toList ++ ' ' :: (maskSecret t).toList) ++ ['"'] := by
  have hvalue : (scheme ++ " " ++ t).toList = scheme.toList ++ ' ' :: t.toList := by simp
  have hsplit := splitAtBlank_append (v := t.toList) fun c hc => (scheme_char hscheme hc).1
  have hmasked : maskHeaderValue (scheme ++ " " ++ t) =
      String.ofList (scheme.toList ++ ' ' :: (maskSecret t).toList) := by
    rw [maskHeaderValue, hvalue, hsplit]
    dsimp only
    rw [String.ofList_toList, if_pos hscheme, String.ofList_toList]
  have hplain : ∀ c ∈ scheme.toList ++ ' ' :: (maskSecret t).toList, Json.escapeChar c = [c] := by
    have hstars := maskSecret_forall (P := fun c => Json.escapeChar c = [c]) (by decide)
      fun c hc => (isTokenChar_spec (ht c hc)).2
    intro c hc
    rcases List.mem_append.mp hc with hc | hc
    · exact (scheme_char hscheme hc).2
    · rcases List.mem_cons.mp hc with rfl | hc
      · decide
      · exact hstars c hc
  rw [maskHeader, if_pos hname]
  simp only [hmasked, Json.chars, Json.quote, String.toList_ofList, flatMap_escapeChar hplain]

end Scheme

open Family

/-- What the families before that of assignments leave of a text. -/
def halfRedacted (text : List Char) : List Char := rewriteAll beforeAssignment id marker text

theorem halfRedacted_quote (u v : List Char) :
    halfRedacted (u ++ '"' :: v) = halfRedacted u ++ '"' :: halfRedacted v := by
  have hshut : ∀ f ∈ beforeAssignment, f.shuts (id '"') = true := by decide
  exact rewriteAll_shut beforeAssignment_subset hshut u v

/-- Two pieces of text that are the same to the families before that of assignments, whatever
stands around them. -/
def Indistinct (u v : List Char) : Prop :=
  ∀ front back, halfRedacted (front ++ u ++ back) = halfRedacted (front ++ v ++ back)

namespace Indistinct

variable {u u' v v' : List Char}

theorem refl (u : List Char) : Indistinct u u := fun _ _ => rfl

theorem append (hu : Indistinct u u') (hv : Indistinct v v') : Indistinct (u ++ v) (u' ++ v') := by
  intro front back
  have h₁ := hu front (v ++ back)
  have h₂ := hv (front ++ u') back
  simp only [List.append_assoc] at h₁ h₂ ⊢
  rw [h₁, h₂]

theorem quoted (h : halfRedacted u = halfRedacted u') :
    Indistinct ('"' :: u ++ ['"']) ('"' :: u' ++ ['"']) := by
  intro front back
  simp only [List.append_assoc, List.cons_append, List.nil_append, halfRedacted_quote, h]

theorem fields {fs gs : List (String × Json)}
    (h : List.Forall₂ (fun f g => f.1 = g.1 ∧ Indistinct f.2.chars g.2.chars) fs gs) :
    Indistinct (Json.fieldChars fs) (Json.fieldChars gs) := by
  induction h with
  | nil => exact refl _
  | @cons f g fs gs hfg hrest ih =>
    obtain ⟨k, v⟩ := f
    obtain ⟨k', w⟩ := g
    obtain ⟨rfl, hvw⟩ := hfg
    have hfield := (refl (Json.quote k ++ [':'])).append hvw
    cases hrest with
    | nil => simpa [Json.fieldChars] using hfield
    | cons _ _ =>
      have hall := hfield.append ((refl [',']).append ih)
      simpa [Json.fieldChars] using hall

end Indistinct

theorem SameHeader.masked {f g : String × Json} (h : SameHeader f g) :
    f.1 = g.1 ∧ Indistinct (maskHeader f.1 f.2).chars (maskHeader g.1 g.2).chars := by
  cases h with
  | same => exact ⟨rfl, .refl _⟩
  | token hname hscheme ht ht' =>
    refine ⟨rfl, ?_⟩
    rw [maskHeader_token hname hscheme ht, maskHeader_token hname hscheme ht']
    refine .quoted ?_
    rw [halfRedacted, halfRedacted,
      rewriteAll_token (scheme_lower hscheme) fun c hc => (isTokenChar_spec (ht c hc)).1,
      rewriteAll_token (scheme_lower hscheme) fun c hc => (isTokenChar_spec (ht' c hc)).1]

namespace RequestArgs

variable {a b : RequestArgs}

theorem halfRedacted_command_congr (hbase : a.apiBase = b.apiBase) (hbody : a.body = b.body)
    (hheaders : List.Forall₂ SameHeader a.headers b.headers) :
    halfRedacted a.commandChars = halfRedacted b.commandChars := by
  have hmasked : List.Forall₂ (fun f g => f.1 = g.1 ∧ Indistinct f.2.chars g.2.chars)
      (maskHeaders a.headers) (maskHeaders b.headers) := by
    unfold maskHeaders
    rw [List.forall₂_map_left_iff, List.forall₂_map_right_iff]
    exact hheaders.imp fun _ _ h => h.masked
  have hshown : a.shownBody = b.shownBody := by rw [shownBody, shownBody, hbody]
  -- what stands before and behind the headers is the same in both commands
  have hcommand := Indistinct.fields hmasked
    ("curl -X POST \\\n".toList ++ (a.apiBase.getD missingBase).toList ++
      " \\\n-H '".toList ++ ['\x7b'])
    ('\x7d' :: ("' \\\n-d '".toList ++ a.shownBody.chars ++ "'\n".toList))
  unfold commandChars
  rw [← hshown, ← hbase]
  simp only [Json.chars, List.append_assoc, List.cons_append, List.nil_append] at hcommand ⊢
  exact hcommand

theorem redact_command_congr {r : Redactor} {extra : List Family}
    (hr : r.families = builtin ++ extra) (hbase : a.apiBase = b.apiBase) (hbody : a.body = b.body)
    (hheaders : List.Forall₂ SameHeader a.headers b.headers) :
    r.redact a.command = r.redact b.command := by
  have hfold : ∀ text, r.redactChars text =
      (assignment :: extra).foldl (fun t f => f.maskAll t) (halfRedacted text) := by
    intro text
    have hsplit : r.families = beforeAssignment ++ assignment :: extra := hr
    simp only [Redactor.redactChars, halfRedacted, rewriteAll, rewrite_id]
    rw [hsplit, List.foldl_append]
  rw [Redactor.redact, Redactor.redact, command_toList, command_toList, hfold, hfold,
    halfRedacted_command_congr hbase hbody hheaders]

end RequestArgs

namespace CallContext

variable {c : CallContext} {scene : CallScene}

/-- What is left behind before a call depends on the request by its scrubbed command only. -/
theorem preCall_scene_congr {a b : RequestArgs}
    (h : c.policy.scrub a.command = c.policy.scrub b.command)
    (input : Json) (apiKey : Option String) (model : String) (scene : CallScene) :
    (c.preCall input apiKey model a scene).2 = (c.preCall input apiKey model b scene).2 := by
  unfold preCall ensureMetadata
  generalize c.details.params.ensureMetadata scene.store = e
  obtain ⟨handle, params, store⟩ := e
  cases hcap : c.captures with
  | true => simp only [withParams, capturedLine, hcap, if_true, h]
  | false => simp only [withParams, uncapturedLine, hcap, Bool.false_eq_true, if_false]

/-- Two requests whose headers differ in bearer tokens only leave the same behind, the captured
text included, if redaction begins with the built-in families. -/
theorem preCall_hides_token (hcap : c.captures = true) (hlog : c.policy.suppressed = false)
    {extra : List Family} (hredactor : c.policy.redactor.families = builtin ++ extra)
    (hmeta : ∀ h, c.metadata = some h → scene.store.Holds h) {a b : RequestArgs}
    (hbase : a.apiBase = b.apiBase) (hbody : a.body = b.body)
    (hheaders : List.Forall₂ SameHeader a.headers b.headers) (input : Json)
    (apiKey : Option String) (model : String) :
    ∃ text,
      (c.preCall input apiKey model a scene).1.rawRequest
          (c.preCall input apiKey model a scene).2.store = some (.string text) ∧
      (c.preCall input apiKey model b scene).1.rawRequest
          (c.preCall input apiKey model b scene).2.store = some (.string text) ∧
      (c.preCall input apiKey model a scene).2 = (c.preCall input apiKey model b scene).2 := by
  have hscrub : c.policy.scrub a.command = c.policy.scrub b.command := by
    have hredact := RequestArgs.redact_command_congr hredactor hbase hbody hheaders
    simp only [Policy.scrub, hlog, Bool.false_eq_true, if_false, hredact]
  refine ⟨c.policy.scrub a.command, preCall_rawRequest hcap hmeta input apiKey model a, ?_,
    preCall_scene_congr hscrub input apiKey model scene⟩
  rw [preCall_rawRequest hcap hmeta, hscrub]

/-- A request with a bearer token, and a second header that is none. -/
def tokenArgs (token : String) : RequestArgs where
  headers := [("Authorization", .string ("BEARER" ++ " " ++ token)), ("Trace", .string "Bearer")]

def capturedToken (token : String) : Option Json :=
  let (c, scene) := capturing.preCall .null none "" (tokenArgs token) {}
  c.rawRequest scene.store

/-- A short token and one that looks like a key. -/
theorem capturedToken_hidden :
    capturedToken "~x" = some (.string ("curl -X POST \\\n<api_base not set> \\\n-H '\x7b" ++
        "\"Authorization\":\"BEARER [REDACTED_API_KEY]\",\"Trace\":\"Bearer\"\x7d' \\\n" ++
        "-d '\x7b\x7d'\n")) ∧
      capturedToken "sk-ant-0123456789/+" = capturedToken "~x" := by
  have hheaders : List.Forall₂ SameHeader (tokenArgs "~x").headers
      (tokenArgs "sk-ant-0123456789/+").headers :=
    .cons (.token (by decide +kernel) (by decide +kernel) (List.all_eq_true.mp (by decide))
        (List.all_eq_true.mp (by decide)))
      (.cons (.same _) .nil)
  have hmeta : ∀ h, capturing.metadata = some h → ({} : CallScene).store.Holds h :=
    fun _ h => by cases h
  obtain ⟨text, hshort, hkey, -⟩ := preCall_hides_token rfl rfl (List.append_nil builtin).symm
    hmeta (a := tokenArgs "~x") (b := tokenArgs "sk-ant-0123456789/+") rfl rfl hheaders
    .null none ""
  have hkept : capturedToken "~x" =
      some (.string (capturing.policy.scrub (tokenArgs "~x").command)) :=
    preCall_rawRequest rfl hmeta .null none "" _
  refine ⟨?_, hkey.trans hshort.symm⟩
  rw [hkept, Option.some.injEq, Json.string.injEq]
  decide +kernel

end CallContext
end CallScribe
