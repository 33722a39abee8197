import CallScribe.Proofs.Json.Lexical

/-!
# CallScribe.Proofs.Json.Grammar

The grammar of JSON texts. The reader takes in these texts and no others.

* `RawJson.Spelled`: the texts of a value; `RawJson.Padded`: the same with blanks around them.
* `Json.Takes`: a reader takes in texts up to a length; `RawJson.takes_readValue`: a step for each
  character is enough for a value.
* `Json.Gives`: what a reader takes in is such a text; `RawJson.gives_readValue`.
* `RawJson.read?_iff`: a text is read as a value if and only if it is one of its texts.
-/

namespace CallScribe

namespace Json

/-! ## Blanks -/

section Blanks

variable {b r : List Char}

theorem skipSpace_append (hb : Blanks b) (r : List Char) : skipSpace (b ++ r) = skipSpace r :=
  List.dropWhile_append_of_pos hb

theorem skipSpace_cons {c : Char} (hc : isSpace c = false) (cs : List Char) :
    skipSpace (c :: cs) = c :: cs := List.dropWhile_cons_of_neg (by simp [hc])

theorem exists_blanks (cs : List Char) : ∃ b, Blanks b ∧ cs = b ++ skipSpace cs :=
  ⟨cs.takeWhile isSpace, List.all_eq_true.mp List.all_takeWhile,
    List.takeWhile_append_dropWhile.symm⟩

theorem closes_append (hb : Blanks b) (hr : Closes r) : Closes (b ++ r) := by
  cases b with
  | nil => exact hr
  | cons c b =>
    intro d hd
    cases hd
    exact .inl (hb c List.mem_cons_self)

theorem closes_comma (r : List Char) : Closes (',' :: r) := by simp [Closes]

end Blanks

/-! ## Lists -/

section Lists

variable {α : Type}

/-- The texts of several elements, with commas between them. -/
inductive Commas (P : α → List Char → Prop) : List α → List Char → Prop
  | last {x : α} {u : List Char} (h : P x u) : Commas P [x] u
  | more {x : α} {xs : List α} {u w : List Char} (h : P x u) (hrest : Commas P xs w) :
    Commas P (x :: xs) (u ++ ',' :: w)

/-- The same, or blanks for no elements. -/
inductive Listed (P : α → List Char → Prop) : List α → List Char → Prop
  | empty {b : List Char} (hb : Blanks b) : Listed P [] b
  | elements {xs : List α} {u : List Char} (h : Commas P xs u) : Listed P xs u

/-- The reader takes in the texts up to a length, blanks behind them apart. -/
def Takes (P : α → List Char → Prop) (element : List Char → Option (α × List Char)) (n : Nat) :
    Prop := ∀ {x u r}, P x u → u.length ≤ n → Closes r →
      ∃ a, Blanks a ∧ element (u ++ r) = some (x, a ++ r)

/-- What the reader takes in is such a text, with the blanks behind it. -/
def Gives (P : α → List Char → Prop) (element : List Char → Option (α × List Char)) : Prop :=
  ∀ {x cs r}, element cs = some (x, r) → ∃ u, P x u ∧ cs = u ++ skipSpace r

variable {P : α → List Char → Prop} {element : List Char → Option (α × List Char)} {close : Char}
  {xs : List α} {n fuel : Nat} {u : List Char}

section Complete

variable (helement : Takes P element n) (hclose : close = ']' ∨ close = '\x7d')
include helement hclose

theorem Commas.read (h : Commas P xs u) (hlength : u.length ≤ n) (hfuel : u.length < fuel)
    (acc : List α) (r : List Char) :
    readMore element close fuel acc (u ++ close :: r) = some (acc.reverse ++ xs, r) := by
  obtain ⟨hspace, hne, hcloses⟩ :
      isSpace close = false ∧ close ≠ ',' ∧ Closes (close :: r) := by
    rcases hclose with rfl | rfl <;> exact ⟨by decide, by decide, by simp [Closes]⟩
  induction h generalizing fuel acc with
  | last h =>
    obtain ⟨fuel, rfl⟩ := Nat.exists_eq_add_one_of_ne_zero (Nat.ne_zero_of_lt hfuel)
    obtain ⟨a, ha, hread⟩ := helement h hlength hcloses
    rw [readMore, hread]
    simp [skipSpace_append ha, skipSpace_cons hspace]
  | @more x xs u w h _ ih =>
    obtain ⟨fuel, rfl⟩ := Nat.exists_eq_add_one_of_ne_zero (Nat.ne_zero_of_lt hfuel)
    rw [List.length_append, List.length_cons] at hlength hfuel
    have hcomma := closes_comma (w ++ close :: r)
    obtain ⟨a, ha, hread⟩ := helement h (by omega) hcomma
    have hmore := ih (show w.length ≤ n by omega) (show w.length < fuel by omega) (x :: acc)
    rw [readMore, List.append_assoc, List.cons_append, hread]
    simp [skipSpace_append ha, skipSpace_cons (c := ',') (by decide), hmore]

theorem Listed.read (hhead : ∀ {x u} r, P x u → ∃ c cs, skipSpace (u ++ r) = c :: cs ∧ c ≠ close)
    (h : Listed P xs u) (hlength : u.length ≤ n) (hfuel : u.length < fuel) (r : List Char) :
    readList element close fuel (u ++ close :: r) = some (xs, r) := by
  cases h with
  | empty hb =>
    have hspace : isSpace close = false := by
      rcases hclose with rfl | rfl <;> decide
    simp [readList, skipSpace_append hb, skipSpace_cons hspace]
  | elements h =>
    have hread := h.read helement hclose hlength hfuel [] r
    obtain ⟨c, cs, hskip, hne⟩ : ∃ c cs, skipSpace (u ++ close :: r) = c :: cs ∧ c ≠ close := by
      cases h with
      | last h => exact hhead _ h
      | more h _ =>
        rw [List.append_assoc]
        exact hhead _ h
    rw [readList, hskip]
    exact (if_neg hne).trans hread

end Complete

section Sound

variable (helement : Gives P element)
include helement

theorem commas_of_readMore {acc : List α} {cs r : List Char}
    (h : readMore element close fuel acc cs = some (xs, r)) :
    ∃ ys u, Commas P ys u ∧ xs = acc.reverse ++ ys ∧ cs = u ++ close :: r := by
  induction fuel generalizing acc cs with
  | zero => cases h
  | succ fuel ih =>
    rw [readMore] at h
    obtain ⟨⟨x, rest⟩, hread, hmore⟩ := Option.bind_eq_some_iff.mp h
    obtain ⟨u, hu, rfl⟩ := helement hread
    simp only at hmore
    split at hmore
    · rename_i more hcomma
      obtain ⟨ys, w, hw, rfl, rfl⟩ := ih hmore
      exact ⟨x :: ys, _, .more hu hw, by simp, by simp [hcomma]⟩
    · rename_i c more _ hskip
      split at hmore
      · subst_vars
        cases hmore
        exact ⟨[x], u, .last hu, by simp, by rw [hskip]⟩
      · cases hmore
    · cases hmore

theorem listed_of_readList {cs r : List Char} (h : readList element close fuel cs = some (xs, r)) :
    ∃ u, Listed P xs u ∧ cs = u ++ close :: r := by
  unfold readList at h
  split at h
  · rename_i c rest hskip
    split at h
    · subst_vars
      cases h
      obtain ⟨b, hb, hcs⟩ := exists_blanks cs
      rw [hskip] at hcs
      exact ⟨b, .empty hb, hcs⟩
    · obtain ⟨ys, u, hu, rfl, rfl⟩ := commas_of_readMore helement h
      exact ⟨u, .elements hu, rfl⟩
  · cases h

end Sound

end Lists

end Json

namespace RawJson

open Json

mutual

/-- The texts of a value, from its first character to its last. -/
inductive Spelled : RawJson → List Char → Prop
  | null : Spelled .null ['n', 'u', 'l', 'l']
  | yes : Spelled (.bool true) ['t', 'r', 'u', 'e']
  | no : Spelled (.bool false) ['f', 'a', 'l', 's', 'e']
  | number {n : RawNumber} {u : List Char} (h : n.Spelled u) : Spelled (.number n) u
  | string {s : RawString} {u : List Char} (h : s.Spelled u) :
    Spelled (.string s) ('"' :: (u ++ ['"']))
  | array {items : List RawJson} {u : List Char} (h : Listed Padded items u) :
    Spelled (.array items) ('[' :: (u ++ [']']))
  | object {members : List (RawString × RawJson)} {u : List Char}
    (h : Listed SpelledMember members u) : Spelled (.object members) ('\x7b' :: (u ++ ['\x7d']))

/-- The texts of a value with blanks around it. -/
inductive Padded : RawJson → List Char → Prop
  | mk {v : RawJson} {b u a : List Char} (hb : Blanks b) (h : Spelled v u) (ha : Blanks a) :
    Padded v (b ++ (u ++ a))

inductive SpelledMember : RawString × RawJson → List Char → Prop
  | mk {key : RawString} {v : RawJson} {b k c u : List Char} (hb : Blanks b) (hk : key.Spelled k)
    (hc : Blanks c) (h : Padded v u) :
    SpelledMember (key, v) (b ++ '"' :: (k ++ '"' :: (c ++ ':' :: u)))

end

theorem Spelled.padded {v : RawJson} {u : List Char} (h : Spelled v u) : Padded v u := by
  have hpadded := Padded.mk blanks_nil h blanks_nil
  rwa [List.nil_append, List.append_nil] at hpadded

/-! ## What is spelled is read -/

theorem ne_of_number {c : Char} (hc : c = '-' ∨ c.isDigit = true) {d : Char} (hminus : d ≠ '-')
    (hdigit : d.isDigit = false) : c ≠ d := by
  rintro rfl
  rcases hc with hc | hc
  · exact hminus hc
  · cases hdigit.symm.trans hc

/-- A value does not begin with a blank or with a bracket that closes. -/
theorem Spelled.head {v : RawJson} {u : List Char} (h : Spelled v u) :
    ∃ c cs, u = c :: cs ∧ isSpace c = false ∧ c ≠ ']' := by
  cases h with
  | number h =>
    obtain ⟨c, cs, rfl, hc⟩ := h.head
    have hblank := ne_of_number hc (d := ' ') (by decide) rfl
    have hline := ne_of_number hc (d := '\n') (by decide) rfl
    have htab := ne_of_number hc (d := '\t') (by decide) rfl
    have hreturn := ne_of_number hc (d := '\r') (by decide) rfl
    refine ⟨c, cs, rfl, ?_, ne_of_number hc (by decide) rfl⟩
    simp [isSpace, hblank, hline, htab, hreturn]
  | _ => exact ⟨_, _, rfl, by decide, by decide⟩

theorem Padded.head {v : RawJson} {u : List Char} (r : List Char) (h : Padded v u) :
    ∃ c cs, skipSpace (u ++ r) = c :: cs ∧ c ≠ ']' := by
  cases h with
  | mk hb h _ =>
    obtain ⟨c, cs, rfl, hspace, hc⟩ := h.head
    rw [List.append_assoc, skipSpace_append hb, List.append_assoc, List.cons_append,
      skipSpace_cons hspace]
    exact ⟨c, _, rfl, hc⟩

theorem SpelledMember.head {m : RawString × RawJson} {u : List Char} (r : List Char)
    (h : SpelledMember m u) : ∃ c cs, skipSpace (u ++ r) = c :: cs ∧ c ≠ '\x7d' := by
  cases h with
  | mk hb =>
    rw [List.append_assoc, skipSpace_append hb, List.cons_append, skipSpace_cons (by decide)]
    exact ⟨'"', _, rfl, by decide⟩

theorem takes_readMember {value : List Char → Option (RawJson × List Char)} {n : Nat}
    (hvalue : Takes Padded value n) : Takes SpelledMember (readMember value) n := by
  intro m u r h hlength hr
  cases h with
  | @mk key v b k c u hb hk hc h =>
    simp only [List.length_append, List.length_cons] at hlength
    obtain ⟨a, ha, hread⟩ := hvalue h (by omega) hr
    have hkey := hk.read [] (c ++ ':' :: (u ++ r))
    refine ⟨a, ha, ?_⟩
    rw [readMember, List.append_assoc, skipSpace_append hb]
    simp [skipSpace_append hc, skipSpace_cons (c := '"') (by decide),
      skipSpace_cons (c := ':') (by decide), hkey, hread]

theorem readValue_number {fuel : Nat} {c : Char} {cs rest : List Char}
    (hskip : skipSpace cs = c :: rest) (hc : c = '-' ∨ c.isDigit = true) :
    readValue (fuel + 1) cs = (readNumber (c :: rest)).map fun (n, r) => (.number n, r) := by
  rw [readValue, hskip]
  split
  iterate 6
    · rename_i heq
      cases heq
      exact absurd rfl (ne_of_number hc (by decide) rfl)
  · rfl

/-- One step takes in a value if the steps after it take in its parts. -/
theorem Spelled.read {fuel : Nat} (hvalue : Takes Padded (readValue fuel) fuel) {v : RawJson}
    {u : List Char} (h : Spelled v u) (hlength : u.length ≤ fuel + 1) {cs r : List Char}
    (hskip : skipSpace cs = u ++ r) (hr : Closes r) : readValue (fuel + 1) cs = some (v, r) := by
  cases h with
  | number h =>
    obtain ⟨c, cs, rfl, hc⟩ := h.head
    rw [readValue_number hskip hc]
    exact congrArg (Option.map _) (h.read hr)
  | null =>
    rw [readValue, hskip]
    rfl
  | yes =>
    rw [readValue, hskip]
    rfl
  | no =>
    rw [readValue, hskip]
    rfl
  | string h =>
    have hread := h.read [] r
    rw [readValue, hskip]
    simp [hread]
  | @array items u h =>
    simp only [List.length_cons, List.length_append, List.length_nil] at hlength
    have hread := h.read hvalue (.inl rfl) Padded.head (by omega) (show u.length < fuel by omega) r
    rw [readValue, hskip]
    simp [hread]
  | @object members u h =>
    simp only [List.length_cons, List.length_append, List.length_nil] at hlength
    have hread := h.read (takes_readMember hvalue) (.inr rfl) SpelledMember.head (by omega)
      (show u.length < fuel by omega) r
    rw [readValue, hskip]
    simp [hread]

theorem takes_readValue (fuel : Nat) : Takes Padded (readValue fuel) fuel := by
  induction fuel with
  | zero =>
    intro v u r h hlength _
    obtain ⟨c, cs, hskip, -⟩ := h.head []
    rw [List.eq_nil_of_length_eq_zero (Nat.le_zero.mp hlength)] at hskip
    cases hskip
  | succ fuel ih =>
    intro v u r h hlength hr
    cases h with
    | @mk v b u a hb h ha =>
      obtain ⟨c, cs, hu, hspace, -⟩ := h.head
      rw [List.length_append, List.length_append] at hlength
      refine ⟨a, ha, h.read ih (by omega) ?_ (closes_append ha hr)⟩
      rw [List.append_assoc, skipSpace_append hb, List.append_assoc, hu, List.cons_append,
        skipSpace_cons hspace]

/-! ## What is read is spelled -/

theorem gives_readMember {value : List Char → Option (RawJson × List Char)}
    (hvalue : Gives Padded value) : Gives SpelledMember (readMember value) := by
  intro m cs r h
  obtain ⟨b, hb, hcs⟩ := exists_blanks cs
  unfold readMember at h
  split at h
  · rename_i more hopen
    obtain ⟨⟨key, rest⟩, hkey, hcolon⟩ := Option.bind_eq_some_iff.mp h
    obtain ⟨k, hk, rfl⟩ := RawString.read_iff.mp hkey
    obtain ⟨c, hc, hrest⟩ := exists_blanks rest
    simp only at hcolon
    split at hcolon
    · rename_i after hskip
      obtain ⟨⟨v, r⟩, hread, heq⟩ := Option.map_eq_some_iff.mp hcolon
      cases heq
      obtain ⟨u, hu, rfl⟩ := hvalue hread
      rw [hskip] at hrest
      rw [hopen, hrest] at hcs
      exact ⟨_, .mk hb hk hc hu, by simp [hcs]⟩
    · cases hcolon
  · cases h

theorem spelled_of_readValue {fuel : Nat} (hvalue : Gives Padded (readValue fuel)) {v : RawJson}
    {cs r : List Char} (h : readValue (fuel + 1) cs = some (v, r)) :
    ∃ u, Spelled v u ∧ skipSpace cs = u ++ r := by
  rw [readValue] at h
  generalize skipSpace cs = cs' at h
  split at h
  · cases h
    exact ⟨_, .null, rfl⟩
  · cases h
    exact ⟨_, .yes, rfl⟩
  · cases h
    exact ⟨_, .no, rfl⟩
  · obtain ⟨⟨s, r⟩, hread, heq⟩ := Option.map_eq_some_iff.mp h
    cases heq
    obtain ⟨u, hu, rfl⟩ := RawString.read_iff.mp hread
    exact ⟨_, .string hu, by simp⟩
  · obtain ⟨⟨items, r⟩, hread, heq⟩ := Option.map_eq_some_iff.mp h
    cases heq
    obtain ⟨u, hu, rfl⟩ := listed_of_readList hvalue hread
    exact ⟨_, .array hu, by simp⟩
  · obtain ⟨⟨members, r⟩, hread, heq⟩ := Option.map_eq_some_iff.mp h
    cases heq
    obtain ⟨u, hu, rfl⟩ := listed_of_readList (gives_readMember hvalue) hread
    exact ⟨_, .object hu, by simp⟩
  · obtain ⟨⟨n, r⟩, hread, heq⟩ := Option.map_eq_some_iff.mp h
    cases heq
    obtain ⟨u, hu, hcs⟩ := RawNumber.spelled_of_read hread
    exact ⟨u, .number hu, hcs⟩

theorem gives_readValue (fuel : Nat) : Gives Padded (readValue fuel) := by
  induction fuel with
  | zero =>
    intro v cs r h
    rw [readValue] at h
    cases h
  | succ fuel ih =>
    intro v cs r h
    obtain ⟨u, hu, hskip⟩ := spelled_of_readValue ih h
    obtain ⟨b, hb, hcs⟩ := exists_blanks cs
    obtain ⟨a, ha, hr⟩ := exists_blanks r
    refine ⟨_, .mk hb hu ha, ?_⟩
    rw [hcs, hskip, List.append_assoc, List.append_assoc, ← hr]

/-- A text is read as a value if and only if it is one of the texts of the value. -/
theorem read?_iff {text : String} {v : RawJson} : read? text = some v ↔ Padded v text.toList := by
  constructor
  · intro h
    obtain ⟨⟨w, rest⟩, hread, h⟩ := Option.bind_eq_some_iff.mp h
    obtain ⟨u, hu, htext⟩ := gives_readValue _ hread
    simp only at h
    split at h
    · rename_i hrest
      cases h
      rw [List.isEmpty_iff.mp hrest, List.append_nil] at htext
      rwa [htext]
    · cases h
  · intro h
    obtain ⟨a, ha, hread⟩ := takes_readValue _ h (Nat.le_refl _) closes_nil
    rw [List.append_nil] at hread
    have hrest : skipSpace (a ++ []) = [] := skipSpace_append ha []
    simp only [read?, hread, Option.bind_eq_bind, Option.bind_some, hrest, List.isEmpty_nil,
      if_true]

end RawJson
end CallScribe
