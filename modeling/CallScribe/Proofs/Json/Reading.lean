import CallScribe.Proofs.Json.Numbers
import CallScribe.Proofs.Json.Redacted

/-!
# CallScribe.Proofs.Json.Reading

The text of a value tells the value.

* `Json.spelled_escaped`: what is put between quotes stands for the string.
* `Json.Kind`: what the first character of a text tells.
* `Json.chars_append_inj`: no text of a value is the beginning of another one, unless a number goes
  on. Two values with one text are the same.
-/

namespace CallScribe
namespace Json

open Decimal

/-! ## Strings -/

theorem hex4?_control : ∀ n < 32, hex4? '0' '0' (hexChar (n / 16)) (hexChar (n % 16)) = some n := by
  decide

/-- What is printed for a character stands for it. -/
theorem spelled_escapeChar (c : Char) : ∃ raw : RawChar, raw.Spelled (escapeChar c) ∧
    ∀ acc s, RawString.characters? none acc (raw :: s) =
      RawString.characters? none (c :: acc) s := by
  have hplain (acc : List Char) (s : RawString) : RawString.characters? none acc (.plain c :: s) =
      RawString.characters? none (c :: acc) s := by rw [RawString.characters?]
  unfold escapeChar
  repeat' split
  iterate 7
    · subst_vars
      exact ⟨.plain _, .escape rfl, hplain⟩
  · rename_i hcontrol
    refine ⟨.unit c.toNat, .unit (hex4?_control c.toNat hcontrol), fun acc s => ?_⟩
    have hchar : Char.ofNat c.toNat = c := Char.ofNat_toNat c
    have hhigh : ¬ (0xD800 ≤ c.toNat) := by omega
    have hlow : ¬ (0xDC00 ≤ c.toNat) := by omega
    simp [RawString.characters?, hhigh, hlow, hchar]
  · rename_i hquote hback _ _ _ _ _ hprinted
    exact ⟨.plain c, .plain hquote hback (by omega), hplain⟩

theorem spelled_flatMap (cs : List Char) : ∃ raw : RawString,
    raw.Spelled (cs.flatMap escapeChar) ∧
    ∀ acc, RawString.characters? none acc raw = some (acc.reverse ++ cs) := by
  induction cs with
  | nil =>
    refine ⟨[], .nil, fun acc => ?_⟩
    simp [RawString.characters?]
  | cons c cs ih =>
    obtain ⟨raw, hspelled, hcharacters⟩ := ih
    obtain ⟨r, hr, hc⟩ := spelled_escapeChar c
    refine ⟨r :: raw, .cons hr hspelled, fun acc => ?_⟩
    rw [hc, hcharacters]
    simp

theorem spelled_escaped (s : String) : ∃ raw : RawString, raw.text? = some s ∧
    raw.Spelled (escaped s) := by
  obtain ⟨raw, hspelled, hcharacters⟩ := spelled_flatMap s.toList
  refine ⟨raw, ?_, hspelled⟩
  rw [RawString.text?, hcharacters, List.reverse_nil, List.nil_append, Option.map_some,
    String.ofList_toList]

theorem quote_append_inj {s t : String} {r r' : List Char} (h : quote s ++ r = quote t ++ r') :
    s = t ∧ r = r' := by
  have hquote : ∀ (s : String) (r : List Char), quote s ++ r = '"' :: (escaped s ++ '"' :: r) :=
    fun s r => by simp [quote, escaped]
  rw [hquote, hquote] at h
  obtain ⟨raw, htext, hspelled⟩ := spelled_escaped s
  obtain ⟨raw', htext', hspelled'⟩ := spelled_escaped t
  have hs : readString [] (escaped s ++ '"' :: r) = some (raw, r) := hspelled.read [] r
  have ht : readString [] (escaped t ++ '"' :: r') = some (raw', r') := hspelled'.read [] r'
  rw [← (List.cons.inj h).2, hs, Option.some.injEq, Prod.mk.injEq] at ht
  obtain ⟨rfl, hrest⟩ := ht
  rw [htext, Option.some.injEq] at htext'
  exact ⟨htext', hrest⟩

/-! ## Numbers -/

/-- No number goes on here. -/
def Ends (r : List Char) : Prop := ∀ c ∈ r.head?, numberChars.contains c = false

theorem numeral_append_inj {u v r s : List Char} (hu : Numeral u) (hv : Numeral v) (hr : Ends r)
    (hs : Ends s) (h : u ++ r = v ++ s) : u = v ∧ r = s := by
  have htake : ∀ {u r : List Char}, Numeral u → Ends r →
      (u ++ r).takeWhile numberChars.contains = u := by
    intro u r hu hr
    rw [List.takeWhile_append_of_pos hu]
    cases r with
    | nil => exact List.append_nil u
    | cons c r => rw [List.takeWhile_cons_of_neg (by simpa using hr c rfl), List.append_nil]
  have huv : u = v := by rw [← htake hu hr, h, htake hv hs]
  rw [huv] at h
  exact ⟨huv, List.append_cancel_left h⟩

/-! ## Values -/

/-- What values can begin with. -/
inductive Kind
  | null
  | yes
  | no
  | number
  | string
  | array
  | object

def kind : Json → Kind
  | .null => .null
  | .bool true => .yes
  | .bool false => .no
  | .int _ | .real _ => .number
  | .string _ => .string
  | .array _ => .array
  | .object _ => .object

/-- The kind of value that begins with a character. -/
def kindOf? (c : Char) : Option Kind :=
  if c = 'n' then some .null
  else if c = 't' then some .yes
  else if c = 'f' then some .no
  else if c = '"' then some .string
  else if c = '[' then some .array
  else if c = '\x7b' then some .object
  else if numberChars.contains c then some .number
  else none

theorem kindOf?_number {c : Char} (hc : numberChars.contains c = true) :
    kindOf? c = some .number := by
  have hno : ∀ d : Char, numberChars.contains d = false → c ≠ d := by
    rintro d hd rfl
    rw [hd] at hc
    cases hc
  rw [kindOf?, if_neg (hno _ (by decide)), if_neg (hno _ (by decide)), if_neg (hno _ (by decide)),
    if_neg (hno _ (by decide)), if_neg (hno _ (by decide)), if_neg (hno _ (by decide)), if_pos hc]

theorem head?_numeral {u : List Char} (hu : Numeral u) {v : Json} (hv : exactNumber? u = some v) :
    u.head?.bind kindOf? = some .number := by
  cases u with
  | nil => cases hv
  | cons c u => exact kindOf?_number (hu c List.mem_cons_self)

theorem head?_chars (v : Json) : v.chars.head?.bind kindOf? = some v.kind := by
  cases v with
  | null => rfl
  | bool b => cases b <;> rfl
  | int n => exact head?_numeral (numeral_intChars n) (exactNumber?_intChars n)
  | real d => exact head?_numeral (numeral_chars d) (exactNumber?_chars d)
  | string s => rfl
  | array items => rfl
  | object fields => rfl

/-- What follows the first element of an array. -/
def itemsTail : List Json → List Char
  | [] => []
  | v :: rest => ',' :: itemChars (v :: rest)

/-- What follows the first member of an object. -/
def fieldsTail : List (String × Json) → List Char
  | [] => []
  | f :: rest => ',' :: fieldChars (f :: rest)

theorem itemChars_cons (v : Json) (rest : List Json) :
    itemChars (v :: rest) = v.chars ++ itemsTail rest := by
  cases rest <;> simp [itemChars, itemsTail]

theorem fieldChars_cons (k : String) (v : Json) (rest : List (String × Json)) :
    fieldChars ((k, v) :: rest) = quote k ++ ':' :: v.chars ++ fieldsTail rest := by
  cases rest <;> simp [fieldChars, fieldsTail]

theorem ends_itemsTail (rest : List Json) (r : List Char) : Ends (itemsTail rest ++ ']' :: r) := by
  cases rest <;> simp [Ends, itemsTail] <;> decide

theorem ends_fieldsTail (rest : List (String × Json)) (r : List Char) :
    Ends (fieldsTail rest ++ '\x7d' :: r) := by
  cases rest <;> simp [Ends, fieldsTail] <;> decide

theorem head?_chars_append (v : Json) (r : List Char) :
    (v.chars ++ r).head?.bind kindOf? = some v.kind := by
  have hv := head?_chars v
  cases hc : v.chars with
  | nil =>
    rw [hc] at hv
    cases hv
  | cons c cs =>
    rw [hc] at hv
    exact hv

/-- Values with texts that agree as far as one of them goes are of one kind. -/
theorem kind_eq {v w : Json} {r s : List Char} (h : v.chars ++ r = w.chars ++ s) :
    v.kind = w.kind := by
  have hvw := head?_chars_append v r
  rw [h, head?_chars_append w s, Option.some.injEq] at hvw
  exact hvw.symm

theorem chars_append_ne_cons (v : Json) (r s : List Char) {c : Char} (hc : kindOf? c = none) :
    v.chars ++ r ≠ c :: s := by
  intro h
  have hhead := head?_chars_append v r
  rw [h, List.head?_cons, Option.bind_some, hc] at hhead
  cases hhead

theorem number_append_inj {v w : Json} {r s : List Char} (hr : Ends r) (hs : Ends s)
    (hv : v.kind = .number) (hw : w.kind = .number) (h : v.chars ++ r = w.chars ++ s) :
    v = w ∧ r = s := by
  have hread : ∀ v : Json, v.kind = .number → Numeral v.chars ∧ exactNumber? v.chars = some v := by
    intro v hv
    cases v with
    | int n => exact ⟨numeral_intChars n, exactNumber?_intChars n⟩
    | real d => exact ⟨numeral_chars d, exactNumber?_chars d⟩
    | bool b => cases b <;> cases hv
    | null => cases hv
    | string s => cases hv
    | array items => cases hv
    | object fields => cases hv
  obtain ⟨hnv, hreadv⟩ := hread v hv
  obtain ⟨hnw, hreadw⟩ := hread w hw
  obtain ⟨hchars, hrest⟩ := numeral_append_inj hnv hnw hr hs h
  rw [hchars, hreadw, Option.some.injEq] at hreadv
  exact ⟨hreadv.symm, hrest⟩

mutual

theorem chars_append_inj {v w : Json} {r s : List Char} (hr : Ends r) (hs : Ends s)
    (h : v.chars ++ r = w.chars ++ s) : v = w ∧ r = s := by
  have hkind := kind_eq h
  -- Values of different kinds are no cases: their kinds are different constructors.
  match v, w, hkind with
  | .null, .null, _ => exact ⟨rfl, by simpa [chars] using h⟩
  | .bool true, .bool true, _ => exact ⟨rfl, by simpa [chars] using h⟩
  | .bool false, .bool false, _ => exact ⟨rfl, by simpa [chars] using h⟩
  | .int _, .int _, _ => exact number_append_inj hr hs rfl rfl h
  | .int _, .real _, _ => exact number_append_inj hr hs rfl rfl h
  | .real _, .int _, _ => exact number_append_inj hr hs rfl rfl h
  | .real _, .real _, _ => exact number_append_inj hr hs rfl rfl h
  | .string t, .string u, _ =>
    obtain ⟨rfl, hrest⟩ := quote_append_inj h
    exact ⟨rfl, hrest⟩
  | .array vs, .array ws, _ =>
    have hitems : itemChars vs ++ ']' :: r = itemChars ws ++ ']' :: s := by
      simpa [chars] using h
    obtain ⟨hvs, hrest⟩ := itemChars_append_inj hitems
    exact ⟨congrArg array hvs, hrest⟩
  | .object fs, .object gs, _ =>
    have hfields : fieldChars fs ++ '\x7d' :: r = fieldChars gs ++ '\x7d' :: s := by
      simpa [chars] using h
    obtain ⟨hfs, hrest⟩ := fieldChars_append_inj hfields
    exact ⟨congrArg object hfs, hrest⟩

theorem itemChars_append_inj {vs ws : List Json} {r s : List Char}
    (h : itemChars vs ++ ']' :: r = itemChars ws ++ ']' :: s) : vs = ws ∧ r = s := by
  match vs, ws with
  | [], [] => exact ⟨rfl, by simpa [itemChars] using h⟩
  | [], w :: ws =>
    rw [itemChars_cons, List.append_assoc] at h
    exact absurd h.symm (chars_append_ne_cons w _ _ rfl)
  | v :: vs, [] =>
    rw [itemChars_cons, List.append_assoc] at h
    exact absurd h (chars_append_ne_cons v _ _ rfl)
  | v :: vs, w :: ws =>
    rw [itemChars_cons, itemChars_cons, List.append_assoc, List.append_assoc] at h
    obtain ⟨rfl, htail⟩ := chars_append_inj (ends_itemsTail vs r) (ends_itemsTail ws s) h
    match vs, ws with
    | [], [] => exact ⟨rfl, by simpa [itemsTail] using htail⟩
    | [], w :: ws => exact absurd (List.cons.inj htail).1 (by decide)
    | v' :: vs, [] => exact absurd (List.cons.inj htail).1 (by decide)
    | v' :: vs, w :: ws =>
      obtain ⟨hrest, hrs⟩ := itemChars_append_inj (List.cons.inj htail).2
      rw [hrest]
      exact ⟨rfl, hrs⟩

theorem fieldChars_append_inj {fs gs : List (String × Json)} {r s : List Char}
    (h : fieldChars fs ++ '\x7d' :: r = fieldChars gs ++ '\x7d' :: s) : fs = gs ∧ r = s := by
  have hquote : ∀ (k : String) (u r : List Char), quote k ++ u ≠ '\x7d' :: r :=
    fun k u r hk => absurd (List.cons.inj hk).1 (by decide)
  match fs, gs with
  | [], [] => exact ⟨rfl, by simpa [fieldChars] using h⟩
  | [], (k, w) :: gs =>
    rw [fieldChars_cons, List.append_assoc, List.append_assoc] at h
    exact absurd h.symm (hquote k _ _)
  | (k, v) :: fs, [] =>
    rw [fieldChars_cons, List.append_assoc, List.append_assoc] at h
    exact absurd h (hquote k _ _)
  | (k, v) :: fs, (l, w) :: gs =>
    rw [fieldChars_cons, fieldChars_cons] at h
    simp only [List.append_assoc, List.cons_append] at h
    obtain ⟨rfl, hvalue⟩ := quote_append_inj h
    obtain ⟨rfl, htail⟩ :=
      chars_append_inj (ends_fieldsTail fs r) (ends_fieldsTail gs s) (List.cons.inj hvalue).2
    match fs, gs with
    | [], [] => exact ⟨rfl, by simpa [fieldsTail] using htail⟩
    | [], g :: gs => exact absurd (List.cons.inj htail).1 (by decide)
    | f :: fs, [] => exact absurd (List.cons.inj htail).1 (by decide)
    | f :: fs, g :: gs =>
      obtain ⟨hrest, hrs⟩ := fieldChars_append_inj (List.cons.inj htail).2
      rw [hrest]
      exact ⟨rfl, hrs⟩

end

/-- The text of a value is the text of no other one. -/
theorem chars_inj {v w : Json} : v.chars = w.chars ↔ v = w := by
  refine ⟨fun h => ?_, congrArg chars⟩
  have hnil : Ends [] := by simp [Ends]
  exact (chars_append_inj hnil hnil (congrArg (· ++ []) h)).1

theorem compact_inj {v w : Json} : v.compact = w.compact ↔ v = w :=
  String.ofList_inj.trans chars_inj

end Json
end CallScribe
