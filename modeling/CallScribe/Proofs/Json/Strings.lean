import CallScribe.Json.Basic

/-!
# CallScribe.Proofs.Json.Strings

The strings that occur in a value, keys apart.

* `Json.strings`, with `Json.itemStrings` and `Json.fieldStrings` for the members of arrays and
  objects.
* `Json.strings_of_at?`: a value inside another one has no strings of its own.
-/

namespace CallScribe

namespace Json

mutual

/-- The strings of a value, keys apart. -/
def strings : Json → List String
  | .null | .bool _ | .int _ | .real _ => []
  | .string s => [s]
  | .array items => itemStrings items
  | .object fields => fieldStrings fields

def itemStrings : List Json → List String
  | [] => []
  | v :: rest => strings v ++ itemStrings rest

def fieldStrings : List (String × Json) → List String
  | [] => []
  | (_, v) :: rest => strings v ++ fieldStrings rest

end

theorem mem_itemStrings {s : String} {vs : List Json} :
    s ∈ itemStrings vs ↔ ∃ v ∈ vs, s ∈ v.strings := by
  induction vs with
  | nil => simp [itemStrings]
  | cons v vs ih => simp [itemStrings, ih]

theorem mem_fieldStrings {s : String} {fs : Fields Json} :
    s ∈ fieldStrings fs ↔ ∃ f ∈ fs, s ∈ f.2.strings := by
  induction fs with
  | nil => simp [fieldStrings]
  | cons f fs ih => simp [fieldStrings, ih]

end Json

theorem Fields.mem_of_get? {α : Type} {key : String} {v : α} {fs : Fields α}
    (h : fs.get? key = some v) : (key, v) ∈ fs := by
  induction fs with
  | nil => simp [Fields.get?] at h
  | cons f rest ih =>
    obtain ⟨k, w⟩ := f
    rw [Fields.get?] at h
    by_cases hk : k = key
    · rw [if_pos hk, Option.some.injEq] at h
      rw [hk, h]
      exact List.mem_cons_self
    · rw [if_neg hk] at h
      exact List.mem_cons_of_mem _ (ih h)

theorem Fields.mem_of_mem_insert {α : Type} {key : String} {v : α} {fs : Fields α}
    {f : String × α} (h : f ∈ fs.insert key v) : f = (key, v) ∨ f ∈ fs := by
  induction fs with
  | nil => exact .inl (List.mem_singleton.mp h)
  | cons g rest ih =>
    obtain ⟨k, w⟩ := g
    rw [Fields.insert] at h
    split at h
    · exact (List.mem_cons.mp h).imp_right (List.mem_cons_of_mem _)
    · split at h
      · exact List.mem_cons.mp h
      · rcases List.mem_cons.mp h with rfl | h
        · exact .inr List.mem_cons_self
        · exact (ih h).imp_right (List.mem_cons_of_mem _)

namespace Json

theorem strings_of_step? {key : String} {v w : Json} (h : v.step? key = some w) :
    w.strings ⊆ v.strings := by
  intro s hs
  cases v with
  | object fs => exact mem_fieldStrings.mpr ⟨_, Fields.mem_of_get? h, hs⟩
  | array items =>
    simp only [step?] at h
    split at h
    · split at h
      · exact mem_itemStrings.mpr ⟨w, List.mem_of_getElem? h, hs⟩
      · cases h
    · cases h
  | null => simp [step?] at h
  | bool b => simp [step?] at h
  | int n => simp [step?] at h
  | real d => simp [step?] at h
  | string t => simp [step?] at h

theorem strings_of_at? {path : List String} {v w : Json} (h : v.at? path = some w) :
    w.strings ⊆ v.strings := by
  induction path generalizing v with
  | nil =>
    rw [at?, Option.some.injEq] at h
    rw [h]
    exact List.Subset.refl _
  | cons key path ih =>
    rw [at?] at h
    obtain ⟨u, hu, hw⟩ := Option.bind_eq_some_iff.mp h
    exact fun s hs => strings_of_step? hu (ih hw hs)

end Json
end CallScribe
