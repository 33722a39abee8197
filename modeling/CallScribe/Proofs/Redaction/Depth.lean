import CallScribe.Proofs.Json.Places
import CallScribe.Proofs.Redaction.Values

/-!
# CallScribe.Proofs.Redaction.Depth

Redaction of structured values, place by place.

* `AnnouncesSecret`: the keys whose values are hidden whole.
* `Json.SecretAt`: a path leads to a value that is hidden for its key.
* `Redactor.within?_redactValue`: everywhere else the part of a redacted value is the redacted part.
* `Redactor.redactValue_places`: what stands at every place of a redacted value, that nothing is
  recognised in it, and that redacting it again changes nothing.
-/

namespace CallScribe

/-- One of the parts that announce a secret occurs in the lower-case key. -/
def AnnouncesSecret (key : String) : Prop :=
  ∃ part ∈ Redactor.sensitiveParts, part <:+: (lowerName key).toList

/-- The path leads to a member that is not null and whose key announces a secret. -/
def Json.SecretAt (v : Json) (path : List Nat) : Prop :=
  ∃ front i u key x, path = front ++ [i] ∧ v.within? front = some u ∧
    u.parts[i]? = some (some key, x) ∧ AnnouncesSecret key ∧ x.isNull = false

/-- The frame with its string redacted. -/
def Json.Frame.redacted : Json.Frame → Json.Frame
  | .string s => .string (Redactor.builtin.redact s)
  | frame => frame

theorem Json.SecretAt.cons {v x : Json} {i : Nat} {key? : Option String} {path : List Nat}
    (hpart : v.parts[i]? = some (key?, x)) (h : x.SecretAt path) : v.SecretAt (i :: path) := by
  obtain ⟨front, j, u, key, y, rfl, hu, hmember⟩ := h
  exact ⟨i :: front, j, u, key, y, rfl, by rw [within?, hpart]; exact hu, hmember⟩

namespace Redactor

theorem hasInfix_iff {part cs : List Char} : hasInfix part cs = true ↔ part <:+: cs := by
  induction cs with
  | nil => rw [hasInfix, List.isEmpty_iff, List.infix_nil]
  | cons c cs ih =>
    rw [hasInfix, Bool.or_eq_true, List.isPrefixOf_iff_prefix, ih, List.infix_cons_iff]

theorem isSensitiveKey_iff {key : String} : isSensitiveKey key = true ↔ AnnouncesSecret key := by
  simp only [isSensitiveKey, AnnouncesSecret, List.any_eq_true, hasInfix_iff]

variable (r : Redactor)

/-- What becomes of a value that may stand under a key. -/
def redactUnder (key? : Option String) (v : Json) : Json :=
  if key?.any isSensitiveKey && !v.isNull then .string (String.ofList marker) else r.redactValue v

theorem redactUnder_secret {key : String} {v : Json} (hkey : isSensitiveKey key = true)
    (hnull : v.isNull = false) : r.redactUnder (some key) v = .string (String.ofList marker) := by
  rw [redactUnder, Option.any_some, hkey, hnull, if_pos (by rfl)]

theorem redactUnder_open {key? : Option String} {v : Json}
    (h : ∀ key, key? = some key → isSensitiveKey key = true → v.isNull = true) :
    r.redactUnder key? v = r.redactValue v := by
  rw [redactUnder, if_neg]
  rw [Bool.and_eq_true, Option.any_eq_true, Bool.not_eq_true']
  rintro ⟨⟨key, hkey, hsecret⟩, hnull⟩
  rw [h key hkey hsecret] at hnull
  cases hnull

theorem redactItems_eq_map (items : List Json) : r.redactItems items = items.map r.redactValue := by
  induction items with
  | nil => rfl
  | cons v items ih => rw [redactItems, ih, List.map_cons]

theorem redactFields_cons (k : String) (v : Json) (fields : List (String × Json)) :
    r.redactFields ((k, v) :: fields) = (k, r.redactUnder (some k) v) :: r.redactFields fields := by
  rw [redactFields, redactUnder, Option.any_some]

theorem redactFields_eq_map (fields : List (String × Json)) :
    r.redactFields fields = fields.map fun f => (f.1, r.redactUnder (some f.1) f.2) := by
  induction fields with
  | nil => rfl
  | cons f fields ih => rw [redactFields_cons, ih, List.map_cons]

theorem parts_redactValue (v : Json) :
    (r.redactValue v).parts = v.parts.map fun part => (part.1, r.redactUnder part.1 part.2) := by
  cases v with
  | array items =>
    have hitem : ∀ v, r.redactUnder none v = r.redactValue v :=
      fun v => r.redactUnder_open fun _ h => by cases h
    simp [redactValue, redactItems_eq_map, Json.parts, hitem]
  | object fields => simp [redactValue, redactFields_eq_map, Json.parts]
  | null => rfl
  | bool b => rfl
  | int n => rfl
  | real d => rfl
  | string s => rfl

theorem frame_redactValue (v : Json) : (builtin.redactValue v).frame = v.frame.redacted := by
  cases v with
  | array items => simp [redactValue, redactItems_eq_map, Json.frame, Json.Frame.redacted]
  | object fields =>
    simp [redactValue, redactFields_eq_map, Json.frame, Json.Frame.redacted]
  | null => rfl
  | bool b => rfl
  | int n => rfl
  | real d => rfl
  | string s => rfl

/-- Outside of hidden values, the part of a redacted value is the redacted part. -/
theorem within?_redactValue {v : Json} {path : List Nat}
    (hopen : ∀ q, q <+: path → ¬ v.SecretAt q) :
    (r.redactValue v).within? path = (v.within? path).map r.redactValue := by
  induction path generalizing v with
  | nil => rfl
  | cons i path ih =>
    rw [Json.within?, Json.within?, parts_redactValue, List.getElem?_map]
    cases hpart : v.parts[i]? with
    | none => rfl
    | some part =>
      obtain ⟨key?, x⟩ := part
      have hshown : r.redactUnder key? x = r.redactValue x := by
        refine r.redactUnder_open fun key hkey hsecret => ?_
        cases hnull : x.isNull with
        | true => rfl
        | false =>
          rw [hkey] at hpart
          exact absurd ⟨[], i, v, key, x, rfl, rfl, hpart, isSensitiveKey_iff.mp hsecret, hnull⟩
            (hopen [i] (List.prefix_append [i] path))
      rw [Option.map_some, Option.bind_some, Option.bind_some, hshown]
      exact ih fun q hq hsecret =>
        hopen (i :: q) (List.cons_prefix_cons.mpr ⟨rfl, hq⟩) (hsecret.cons hpart)

/-- A hidden value that no other one contains gives way to the marker. -/
theorem within?_secret {v : Json} {path : List Nat} (hsecret : v.SecretAt path)
    (hopen : ∀ q, q <+: path → q ≠ path → ¬ v.SecretAt q) :
    (r.redactValue v).within? path = some (.string (String.ofList marker)) := by
  obtain ⟨front, i, u, key, x, rfl, hu, hpart, hkey, hnull⟩ := hsecret
  have hfront : (r.redactValue v).within? front = (v.within? front).map r.redactValue := by
    refine r.within?_redactValue fun q hq => ?_
    refine hopen q (hq.trans (List.prefix_append _ _)) fun he => ?_
    have hlen := hq.length_le
    rw [he, List.length_append, List.length_singleton] at hlen
    omega
  rw [Json.within?_append, hfront, hu, Option.map_some, Option.bind_some, Json.within?,
    parts_redactValue, List.getElem?_map, hpart, Option.map_some, Option.bind_some,
    r.redactUnder_secret (isSensitiveKey_iff.mpr hkey) hnull]
  rfl

theorem isNull_redactValue (v : Json) : (r.redactValue v).isNull = v.isNull := by
  cases v <;> rfl

mutual

theorem redactValue_redactValue (v : Json) :
    builtin.redactValue (builtin.redactValue v) = builtin.redactValue v := by
  cases v with
  | null => rfl
  | bool b => rfl
  | int n => rfl
  | real d => rfl
  | string s => exact congrArg Json.string (redact_of_clean (redact_clean s))
  | array items => exact congrArg Json.array (redactItems_redactItems items)
  | object fields => exact congrArg Json.object (redactFields_redactFields fields)

theorem redactItems_redactItems (items : List Json) :
    builtin.redactItems (builtin.redactItems items) = builtin.redactItems items := by
  cases items with
  | nil => rfl
  | cons v rest =>
    rw [redactItems, redactItems, redactValue_redactValue v, redactItems_redactItems rest]

theorem redactFields_redactFields (fields : List (String × Json)) :
    builtin.redactFields (builtin.redactFields fields) = builtin.redactFields fields := by
  cases fields with
  | nil => rfl
  | cons f rest =>
    obtain ⟨k, v⟩ := f
    rw [redactFields_cons, redactFields_cons, redactFields_redactFields rest]
    have hvalue : builtin.redactUnder (some k) (builtin.redactUnder (some k) v) =
        builtin.redactUnder (some k) v := by
      by_cases hsecret : isSensitiveKey k = true ∧ v.isNull = false
      · -- The marker is not null, so that a hidden value is hidden again.
        obtain ⟨hkey, hnull⟩ := hsecret
        rw [builtin.redactUnder_secret hkey hnull, builtin.redactUnder_secret hkey (by rfl)]
      · have hnull : ∀ key, some k = some key → isSensitiveKey key = true → v.isNull = true := by
          rintro _ ⟨⟩ hkey
          exact Bool.not_eq_false _ |>.mp fun h => hsecret ⟨hkey, h⟩
        rw [builtin.redactUnder_open hnull, builtin.redactUnder_open, redactValue_redactValue v]
        rwa [isNull_redactValue]
    rw [hvalue]

end

/-- At every place of a redacted value stands what stood there, its string redacted. Only where a
key announces a secret, at whatever depth, a value that is not null has given way to the marker, and
nothing is left below it. No built-in family recognises anything in a string of the result, and
redacting it again changes nothing. -/
theorem redactValue_places (v : Json) :
    (∀ path, (∀ q, q <+: path → ¬ v.SecretAt q) →
      ((builtin.redactValue v).within? path).map Json.frame =
        (v.within? path).map fun x => x.frame.redacted) ∧
    (∀ path, v.SecretAt path → (∀ q, q <+: path → q ≠ path → ¬ v.SecretAt q) →
      (builtin.redactValue v).within? path = some (.string (String.ofList marker)) ∧
        ∀ i below, (builtin.redactValue v).within? (path ++ i :: below) = none) ∧
    (∀ s ∈ (builtin.redactValue v).strings, ∀ f ∈ Family.builtin, f.occursIn s.toList = false) ∧
    builtin.redactValue (builtin.redactValue v) = builtin.redactValue v := by
  refine ⟨fun path hopen => ?_, fun path hsecret hopen => ?_, redactValue_clean v,
    redactValue_redactValue v⟩
  · rw [builtin.within?_redactValue hopen, Option.map_map]
    congr 1
    funext x
    exact frame_redactValue x
  · have hmarker := builtin.within?_secret hsecret hopen
    refine ⟨hmarker, fun i below => ?_⟩
    rw [Json.within?_append, hmarker]
    rfl

end Redactor
end CallScribe
