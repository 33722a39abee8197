import CallScribe.Proofs.Json.Grammar
import CallScribe.Proofs.Json.Reading

/-!
# CallScribe.Proofs.Json.RoundTrip

Printed values are read back.

* `Json.ExactInt`: the integers that are read without rounding; `Json.spelled_intChars`.
* `Json.Readable.reads`: the text of a value of exact integers, strings and names stands for the
  value, as long as the reader may go deep enough.
* `Json.read?_compact`: the text of such a value is read as that value.
-/

namespace CallScribe

namespace Decimal

theorem digitChar_ne_zero : ∀ n < 10, 0 < n → Nat.digitChar n ≠ '0' := by decide

theorem head?_digitChars {n : Nat} (hn : 0 < n) : (digitChars n).head? ≠ some '0' := by
  induction n using Nat.strongRecOn with
  | _ n ih =>
    rw [digitChars, Nat.toDigits_eq_if (by decide)]
    split
    · rename_i hlt
      simpa using digitChar_ne_zero n hlt hn
    · have hne : Nat.toDigits 10 (n / 10) ≠ [] := Nat.toDigits_ne_nil
      rw [List.head?_append_of_ne_nil _ hne]
      exact ih (n / 10) (by omega) (by omega)

end Decimal

namespace Json

open Decimal

/-! ## Numbers -/

theorem isWhole_digitChars (n : Nat) : RawNumber.IsWhole (digitChars n) := by
  rcases Nat.eq_zero_or_pos n with rfl | hn
  · exact .inl rfl
  · exact .inr ⟨digits_digitChars n, Nat.toDigits_ne_nil, head?_digitChars hn⟩

theorem spelled_digitChars (negative : Bool) (n : Nat) : RawNumber.MagnitudeSpelled negative
    ⟨negative, digitChars n, [], none⟩ (digitChars n) := by
  have h : RawNumber.MagnitudeSpelled negative _ (digitChars n ++ ([] ++ [])) :=
    .mk (isWhole_digitChars n) .none .none
  rwa [List.append_nil, List.append_nil] at h

theorem value?_digitChars (negative : Bool) (n : Nat)
    (h : if negative then n ≠ 0 ∧ n ≤ pow2 63 else n < pow2 64) :
    (RawNumber.mk negative (digitChars n) [] none).value? =
      some (.int (if negative then -(n : Int) else n)) := by
  unfold RawNumber.value?
  cases negative <;> simp_all [digitsValue_digitChars]

/-- The integers that are read without rounding. -/
def ExactInt (n : Int) : Prop := -(pow2 63 : Int) ≤ n ∧ n < pow2 64

theorem exactInt_ofNat {n : Nat} (hn : n < pow2 64) : ExactInt n :=
  ⟨Int.le_trans (Int.neg_nonpos_of_nonneg (Int.natCast_nonneg _)) (Int.natCast_nonneg n),
    Int.ofNat_lt.mpr hn⟩

theorem spelled_intChars {n : Int} (hn : ExactInt n) : ∃ raw : RawNumber,
    raw.value? = some (.int n) ∧ raw.Spelled (intChars n) := by
  obtain ⟨hlow, hhigh⟩ := hn
  cases n with
  | ofNat n =>
    exact ⟨_, value?_digitChars false n (Int.ofNat_lt.mp hhigh),
      .positive (spelled_digitChars false n)⟩
  | negSucc n =>
    have hsmall : n + 1 ≤ pow2 63 := by
      rw [Int.negSucc_eq] at hlow
      omega
    exact ⟨_, value?_digitChars true (n + 1) ⟨Nat.succ_ne_zero n, hsmall⟩,
      .negative (spelled_digitChars true (n + 1))⟩

/-! ## Values -/

/-- The text of the value is one that it is read back from. -/
def Reads (depth : Nat) (v : Json) : Prop :=
  ∃ raw : RawJson, raw.Spelled v.chars ∧ raw.value? .whole depth = some v

theorem spelledMember_chars {raw : RawJson} {key : RawString} {k : String} {v : Json}
    (hkey : key.Spelled (escaped k)) (h : raw.Spelled v.chars) :
    RawJson.SpelledMember (key, raw) (quote k ++ ':' :: v.chars) := by
  have hmember := RawJson.SpelledMember.mk blanks_nil hkey blanks_nil h.padded
  simpa [quote, escaped] using hmember

section Parts

variable {depth : Nat}

theorem spelled_itemChars {v : Json} {rest : List Json} (hread : ∀ w ∈ v :: rest, Reads depth w) :
    ∃ raws : List RawJson, Commas RawJson.Padded raws (itemChars (v :: rest)) ∧
      ∀ i, RawJson.itemValues? .whole i depth raws = some (v :: rest) := by
  induction rest generalizing v with
  | nil =>
    obtain ⟨raw, hspelled, hvalue⟩ := hread v List.mem_cons_self
    refine ⟨[raw], .last hspelled.padded, fun i => ?_⟩
    simp [RawJson.itemValues?, JsonShape.item, hvalue]
  | cons w rest ih =>
    obtain ⟨raw, hspelled, hvalue⟩ := hread v List.mem_cons_self
    obtain ⟨raws, hrest, hvalues⟩ := ih fun u hu => hread u (List.mem_cons_of_mem v hu)
    refine ⟨raw :: raws, .more hspelled.padded hrest, fun i => ?_⟩
    simp [RawJson.itemValues?, JsonShape.item, hvalue, hvalues]

theorem spelled_fieldChars {f : String × Json} {rest : List (String × Json)}
    (hread : ∀ g ∈ f :: rest, Reads depth g.2) :
    ∃ raws : List (RawString × RawJson),
      Commas RawJson.SpelledMember raws (fieldChars (f :: rest)) ∧
      RawJson.memberValues? .whole depth raws = some (f :: rest) := by
  induction rest generalizing f with
  | nil =>
    obtain ⟨k, v⟩ := f
    obtain ⟨raw, hspelled, hvalue⟩ := hread (k, v) List.mem_cons_self
    obtain ⟨key, htext, hkey⟩ := spelled_escaped k
    refine ⟨[(key, raw)], .last (spelledMember_chars hkey hspelled), ?_⟩
    simp [RawJson.memberValues?, JsonShape.member?, htext, hvalue]
  | cons g rest ih =>
    obtain ⟨k, v⟩ := f
    obtain ⟨raw, hspelled, hvalue⟩ := hread (k, v) List.mem_cons_self
    obtain ⟨key, htext, hkey⟩ := spelled_escaped k
    obtain ⟨raws, hrest, hvalues⟩ := ih fun u hu => hread u (List.mem_cons_of_mem (k, v) hu)
    refine ⟨(key, raw) :: raws, ?_, ?_⟩
    · have hmembers := Commas.more (spelledMember_chars hkey hspelled) hrest
      simpa [fieldChars_cons, fieldsTail] using hmembers
    · simp [RawJson.memberValues?, JsonShape.member?, htext, hvalue, hvalues]

theorem reads_int {n : Int} (hn : ExactInt n) : Reads depth (.int n) := by
  obtain ⟨raw, hvalue, hspelled⟩ := spelled_intChars hn
  exact ⟨.number raw, .number hspelled, hvalue⟩

theorem reads_string (s : String) : Reads depth (.string s) := by
  obtain ⟨raw, htext, hspelled⟩ := spelled_escaped s
  refine ⟨.string raw, .string hspelled, ?_⟩
  rw [RawJson.value?, htext]
  rfl

theorem reads_array {items : List Json} (h : ∀ v ∈ items, Reads (depth + 1) v) :
    Reads (depth + 2) (.array items) := by
  cases items with
  | nil => exact ⟨.array [], .array (.empty blanks_nil), rfl⟩
  | cons v rest =>
    obtain ⟨raws, hspelled, hvalues⟩ := spelled_itemChars h
    refine ⟨.array raws, .array (.elements hspelled), ?_⟩
    rw [RawJson.value?, hvalues]
    rfl

theorem reads_object {fields : List (String × Json)} (h : ∀ f ∈ fields, Reads (depth + 1) f.2) :
    Reads (depth + 2) (.object fields) := by
  cases fields with
  | nil => exact ⟨.object [], .object (.empty blanks_nil), rfl⟩
  | cons f rest =>
    obtain ⟨raws, hspelled, hvalues⟩ := spelled_fieldChars h
    refine ⟨.object raws, .object (.elements hspelled), ?_⟩
    rw [RawJson.value?, hvalues]
    rfl

end Parts

/-- The value has integers only that stay exact, and is nested to a depth at most. -/
inductive Readable : Nat → Json → Prop
  | null {d : Nat} : Readable d .null
  | bool {d : Nat} (b : Bool) : Readable d (.bool b)
  | int {d : Nat} {n : Int} (hn : ExactInt n) : Readable d (.int n)
  | string {d : Nat} (s : String) : Readable d (.string s)
  | array {d : Nat} {items : List Json} (h : ∀ v ∈ items, Readable d v) :
    Readable (d + 1) (.array items)
  | object {d : Nat} {fields : List (String × Json)} (h : ∀ f ∈ fields, Readable d f.2) :
    Readable (d + 1) (.object fields)

theorem Readable.reads {d depth : Nat} {v : Json} (h : Readable d v) (hd : d < depth) :
    Reads depth v := by
  induction h generalizing depth with
  | null => exact ⟨.null, .null, by rw [RawJson.value?]⟩
  | bool b =>
    cases b with
    | true => exact ⟨.bool true, .yes, by rw [RawJson.value?]⟩
    | false => exact ⟨.bool false, .no, by rw [RawJson.value?]⟩
  | int hn => exact reads_int hn
  | string s => exact reads_string s
  | array _ ih =>
    obtain ⟨depth, rfl⟩ := Nat.exists_eq_add_of_le' (show 2 ≤ depth by omega)
    exact reads_array fun v hv => ih v hv (by omega)
  | object _ ih =>
    obtain ⟨depth, rfl⟩ := Nat.exists_eq_add_of_le' (show 2 ≤ depth by omega)
    exact reads_object fun f hf => ih f hf (by omega)

/-- A value of exact integers, strings and names is read back from its text. -/
theorem read?_compact {d : Nat} {v : Json} (h : Readable d v) (hd : d < depthLimit) :
    read? v.compact = some v := by
  obtain ⟨raw, hspelled, hvalue⟩ := h.reads hd
  have hpadded : raw.Padded v.compact.toList := by
    rw [compact, String.toList_ofList]
    exact hspelled.padded
  rw [read?, readAs?, RawJson.read?_iff.mpr hpadded]
  exact hvalue

end Json
end CallScribe
