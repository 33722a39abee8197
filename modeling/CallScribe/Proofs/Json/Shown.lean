import CallScribe.Proofs.Json.Characters
import CallScribe.Proofs.Json.Reading
import CallScribe.Proofs.Redaction.Depth
import CallScribe.Proofs.Redaction.Pieces
import CallScribe.Redaction.Policy

/-!
# CallScribe.Proofs.Json.Shown

Where a key shows in the text of a value.

* `KeyText`: a text that is long enough for a key and has none of the marks that are put around
  texts. It stands on one side of every such mark.
* `KeyText.not_infix`: it is not in a text without long words.
* `Json.prefix_of_escaped`, `Json.length_le_of_infix_escaped`, `Json.infix_of_printed`: what is
  found in escapes, and what is found in a text that was printed twice.
* `Json.Shows`: the key is in the text of a value. An object shows it in one of its keys or values.
* `Redactor.shows_of_redactValue`: redaction shows no key that was not shown before.
-/

namespace CallScribe

/-- The characters of keys: neither controls and blanks, nor what stands around the texts of a
value, of a command or of a masked key. -/
def isKeyChar (c : Char) : Bool := decide (32 < c.toNat) && !"\"\\'*,:[]\x7b\x7d".toList.contains c

/-- A text that may be a key: too long to be shown whole when it is masked, and unlike what stands
in place of other texts. -/
structure KeyText (k : List Char) : Prop where
  long : 12 < k.length
  plain : ∀ c ∈ k, isKeyChar c = true
  not_marker : ¬ k <:+: marker
  not_placeholder : ¬ k <:+: placeholder.toList

/-- The length of the word at the beginning of a text. -/
def wordLength (cs : List Char) : Nat := (cs.takeWhile isKeyChar).length

/-- The length of the longest word of a text. -/
def longestWord : List Char → Nat
  | [] => 0
  | c :: cs => max (wordLength (c :: cs)) (longestWord cs)

theorem length_le_longestWord {w cs : List Char} (hw : ∀ c ∈ w, isKeyChar c = true)
    (h : w <:+: cs) : w.length ≤ longestWord cs := by
  induction cs with
  | nil =>
    rw [List.infix_nil.mp h]
    exact Nat.le_refl 0
  | cons c cs ih =>
    rw [longestWord]
    rcases List.infix_cons_iff.mp h with ⟨t, ht⟩ | h
    · have hlength : w.length ≤ wordLength (c :: cs) := by
        rw [wordLength, ← ht, List.takeWhile_append_of_pos hw, List.length_append]
        exact Nat.le_add_right _ _
      omega
    · have hrest := ih h
      omega

namespace KeyText

variable {k : List Char} (hk : KeyText k)
include hk

theorem not_mem {c : Char} (hc : isKeyChar c = false) : c ∉ k := by
  intro hmem
  rw [hk.plain c hmem] at hc
  cases hc

theorem not_infix_nil : ¬ k <:+: [] := by
  intro h
  have hlong := hk.long
  rw [List.infix_nil.mp h] at hlong
  cases hlong

theorem not_infix {cs : List Char} (h : longestWord cs ≤ 12) : ¬ k <:+: cs := by
  intro hinfix
  have hlength := length_le_longestWord hk.plain hinfix
  have hlong := hk.long
  omega

theorem around {c : Char} (hc : isKeyChar c = false) {u v : List Char} :
    k <:+: u ++ c :: v ↔ k <:+: u ∨ k <:+: v := infix_of_not_mem (hk.not_mem hc)

theorem behind {c : Char} (hc : isKeyChar c = false) {u : List Char} :
    k <:+: c :: u ↔ k <:+: u := by
  have h := hk.around hc (u := []) (v := u)
  rwa [List.nil_append, or_iff_right hk.not_infix_nil] at h

theorem enclosed {first last : Char} (hfirst : isKeyChar first = false)
    (hlast : isKeyChar last = false) {u : List Char} : k <:+: first :: u ++ [last] ↔ k <:+: u := by
  rw [hk.around hlast, or_iff_left hk.not_infix_nil, hk.behind hfirst]

end KeyText

/-! ## Escapes -/

namespace Json

theorem length_escapeChar (c : Char) : (escapeChar c).length ≤ 6 := by
  unfold escapeChar
  repeat' split
  all_goals simp

theorem prefix_of_escaped {w cs : List Char} (hw : '\\' ∉ w) (h : w <+: cs.flatMap escapeChar) :
    w <+: cs := by
  induction cs generalizing w with
  | nil => exact h
  | cons c cs ih =>
    rw [List.flatMap_cons] at h
    rcases escapeChar_cases c with ⟨hplain, -⟩ | ⟨d, rest, hescape, -⟩
    · rw [hplain, List.singleton_append] at h
      rcases List.prefix_cons_iff.mp h with rfl | ⟨t, rfl, ht⟩
      · exact List.nil_prefix
      · exact List.cons_prefix_cons.mpr ⟨rfl, ih (fun hmem => hw (List.mem_cons_of_mem _ hmem)) ht⟩
    · rw [hescape, List.cons_append] at h
      rcases List.prefix_cons_iff.mp h with rfl | ⟨t, rfl, -⟩
      · exact List.nil_prefix
      · exact absurd List.mem_cons_self hw

theorem length_le_of_infix_escapeChar (c : Char) {w : List Char} (hw : '\\' ∉ w)
    (h : w <:+: escapeChar c) : w.length ≤ 5 := by
  have hlength := length_escapeChar c
  rcases escapeChar_cases c with ⟨hplain, -⟩ | ⟨d, rest, hescape, -⟩
  · have hle := h.length_le
    rw [hplain, List.length_singleton] at hle
    omega
  · rw [hescape] at h hlength
    rcases List.infix_cons_iff.mp h with h | h
    · rcases List.prefix_cons_iff.mp h with rfl | ⟨t, rfl, -⟩
      · exact Nat.zero_le _
      · exact absurd List.mem_cons_self hw
    · have hle := h.length_le
      rw [List.length_cons] at hlength
      omega

/-- What has no backslash is not much longer than the text whose escapes it lies in: at most the
end of one escape is in it, and characters that stand for themselves. -/
theorem length_le_of_infix_escaped {w cs : List Char} (hw : '\\' ∉ w)
    (h : w <:+: cs.flatMap escapeChar) : w.length ≤ cs.length + 4 := by
  induction cs generalizing w with
  | nil =>
    rw [List.infix_nil.mp h]
    exact Nat.zero_le _
  | cons c cs ih =>
    have hescape : ∀ {u}, '\\' ∉ u → u <:+: escapeChar c → u.length ≤ 5 :=
      length_le_of_infix_escapeChar c
    rw [List.flatMap_cons] at h
    rw [List.length_cons]
    rcases List.infix_append_iff.mp h with h | h | ⟨u, v, rfl, hu, hv⟩
    · have hall := hescape hw h
      omega
    · have hrest := ih hw h
      omega
    · rw [List.mem_append, not_or] at hw
      have hfront := hescape hw.1 hu.isInfix
      have hback := (prefix_of_escaped hw.2 hv).length_le
      rw [List.length_append]
      omega

theorem escapeChar_of_printable {c : Char} (hc : 32 ≤ c.toNat) :
    escapeChar c = [c] ∨ escapeChar c = ['\\', '"'] ∨ escapeChar c = ['\\', '\\'] := by
  unfold escapeChar
  repeat' split
  · exact .inr (.inl rfl)
  · exact .inr (.inr rfl)
  iterate 5
    · subst_vars
      exact absurd hc (by decide)
  · omega
  · exact .inl rfl

/-- A text without controls can be printed once more: only quotes and backslashes are added. -/
theorem infix_of_printed {w cs : List Char} (hback : '\\' ∉ w) (hquote : '"' ∉ w)
    (hcs : ∀ c ∈ cs, 32 ≤ c.toNat) (h : w <:+: cs.flatMap escapeChar) : w <:+: cs := by
  induction cs with
  | nil => exact h
  | cons c cs ih =>
    obtain ⟨hc, hcs⟩ := List.forall_mem_cons.mp hcs
    have hrest : w <:+: cs.flatMap escapeChar → w <:+: c :: cs := fun h =>
      List.infix_cons_iff.mpr (.inr (ih hcs h))
    have hnil : w <:+: [] → w <:+: c :: cs := fun h => h.trans (List.nil_infix)
    rw [List.flatMap_cons] at h
    rcases escapeChar_of_printable hc with hplain | hescape | hescape
    · rw [hplain, List.singleton_append] at h
      rcases List.infix_cons_iff.mp h with hfront | h
      · have hfront' : w <+: (c :: cs).flatMap escapeChar := by
          rwa [List.flatMap_cons, hplain]
        exact (prefix_of_escaped hback hfront').isInfix
      · exact hrest h
    · have h' : w <:+: [] ++ '\\' :: ([] ++ '"' :: cs.flatMap escapeChar) := by
        rwa [hescape] at h
      rw [infix_of_not_mem hback, infix_of_not_mem hquote] at h'
      exact h'.elim hnil fun h => h.elim hnil hrest
    · have h' : w <:+: [] ++ '\\' :: ([] ++ '\\' :: cs.flatMap escapeChar) := by
        rwa [hescape] at h
      rw [infix_of_not_mem hback, infix_of_not_mem hback] at h'
      exact h'.elim hnil fun h => h.elim hnil hrest

end Json

/-! ## Values -/

/-- The key is somewhere in the text of the value. -/
def Json.Shows (k : List Char) (v : Json) : Prop := k <:+: v.chars

instance (k : List Char) (v : Json) : Decidable (v.Shows k) :=
  decidable_of_iff (Redactor.hasInfix k v.chars = true) Redactor.hasInfix_iff

namespace KeyText

variable {k : List Char} (hk : KeyText k)
include hk

theorem shows_string {s : String} : (Json.string s).Shows k ↔ k <:+: Json.escaped s :=
  hk.enclosed (by decide) (by decide)

theorem not_shows_null : ¬ Json.null.Shows k := hk.not_infix (by decide)

theorem not_shows_marker : ¬ (Json.string (String.ofList marker)).Shows k := by
  have hprinted : marker.flatMap Json.escapeChar = marker := by decide
  rw [hk.shows_string, Json.escaped, String.toList_ofList, hprinted]
  exact hk.not_marker

theorem not_shows_placeholder : ¬ (Json.string placeholder).Shows k := by
  have hprinted : Json.escaped placeholder = placeholder.toList := by decide
  rw [hk.shows_string, hprinted]
  exact hk.not_placeholder

theorem infix_itemChars {vs : List Json} : k <:+: Json.itemChars vs ↔ ∃ v ∈ vs, v.Shows k := by
  induction vs with
  | nil => simpa [Json.itemChars] using hk.not_infix_nil
  | cons v vs ih =>
    rw [Json.itemChars_cons, List.exists_mem_cons_iff, ← ih]
    cases vs with
    | nil =>
      rw [Json.itemsTail, List.append_nil, Json.itemChars, or_iff_left hk.not_infix_nil, Json.Shows]
    | cons w vs => exact hk.around (by decide)

theorem infix_fieldChars {fs : List (String × Json)} : k <:+: Json.fieldChars fs ↔
    ∃ f ∈ fs, k <:+: Json.escaped f.1 ∨ f.2.Shows k := by
  induction fs with
  | nil => simpa [Json.fieldChars] using hk.not_infix_nil
  | cons f fs ih =>
    obtain ⟨key, v⟩ := f
    have hkey : k <:+: Json.quote key ↔ k <:+: Json.escaped key := hk.shows_string
    have hmember : k <:+: Json.quote key ++ ':' :: v.chars ↔
        k <:+: Json.escaped key ∨ v.Shows k := by
      rw [hk.around (by decide), hkey, Json.Shows]
    rw [Json.fieldChars_cons, List.exists_mem_cons_iff, ← ih, ← hmember]
    cases fs with
    | nil =>
      rw [Json.fieldsTail, List.append_nil, Json.fieldChars, or_iff_left hk.not_infix_nil]
    | cons g fs => exact hk.around (by decide)

theorem shows_array {items : List Json} :
    (Json.array items).Shows k ↔ ∃ v ∈ items, v.Shows k :=
  (hk.enclosed (by decide) (by decide)).trans hk.infix_itemChars

theorem shows_object {fs : List (String × Json)} : (Json.object fs).Shows k ↔
    ∃ f ∈ fs, k <:+: Json.escaped f.1 ∨ f.2.Shows k :=
  (hk.enclosed (by decide) (by decide)).trans hk.infix_fieldChars

end KeyText

namespace Redactor

variable {k : List Char} {r : Redactor}

theorem infix_of_redact (hk : KeyText k) (hr : r.LeadsFirst) {s : String}
    (h : k <:+: Json.escaped (r.redact s)) : k <:+: Json.escaped s := by
  rw [Json.escaped, redact_toList] at h
  exact infix_of_redactChars (hk.not_mem (by decide)) (hk.not_mem (by decide)) hk.not_marker hr h

mutual

theorem shows_of_redactValue (hk : KeyText k) (hr : r.LeadsFirst) {v : Json}
    (h : (r.redactValue v).Shows k) : v.Shows k := by
  cases v with
  | null => exact h
  | bool b => exact h
  | int n => exact h
  | real d => exact h
  | string s => exact hk.shows_string.mpr (infix_of_redact hk hr (hk.shows_string.mp h))
  | array items => exact hk.shows_array.mpr (shows_of_redactItems hk hr (hk.shows_array.mp h))
  | object fields => exact hk.shows_object.mpr (shows_of_redactFields hk hr (hk.shows_object.mp h))

theorem shows_of_redactItems (hk : KeyText k) (hr : r.LeadsFirst) {vs : List Json}
    (h : ∃ v ∈ r.redactItems vs, v.Shows k) : ∃ v ∈ vs, v.Shows k := by
  cases vs with
  | nil => exact h
  | cons v vs =>
    rw [redactItems, List.exists_mem_cons_iff] at h
    rw [List.exists_mem_cons_iff]
    exact h.imp (shows_of_redactValue hk hr) (shows_of_redactItems hk hr)

theorem shows_of_redactFields (hk : KeyText k) (hr : r.LeadsFirst) {fs : List (String × Json)}
    (h : ∃ f ∈ r.redactFields fs, k <:+: Json.escaped f.1 ∨ f.2.Shows k) :
    ∃ f ∈ fs, k <:+: Json.escaped f.1 ∨ f.2.Shows k := by
  cases fs with
  | nil => exact h
  | cons f fs =>
    obtain ⟨key, v⟩ := f
    rw [redactFields, List.exists_mem_cons_iff] at h
    rw [List.exists_mem_cons_iff]
    refine h.imp (Or.imp_right fun hv => ?_) (shows_of_redactFields hk hr)
    split at hv
    · exact absurd hv hk.not_shows_marker
    · exact shows_of_redactValue hk hr hv

end

end Redactor
end CallScribe
