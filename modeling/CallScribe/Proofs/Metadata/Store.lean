import CallScribe.Metadata.Store

/-!
# CallScribe.Proofs.Metadata.Store

What is read after something was written.

* `Fields.get?_insert_self`, `Fields.get?_insert_of_ne`: what was put under a key is read there,
  and all other keys are as before.
* `Fields.insert_insert`: of two values for one key the later counts.
* `MetadataStore.Holds`: the handle leads to a mapping of the store.
* `MetadataStore.read_insert`, `MetadataStore.read_insert_of_ne`: the content of a mapping after a
  change of that one or of another one.
* `CallParams.mapping`: the mapping that parameters lead to, empty if they have none.
* `CallParams.ensureMetadata_holds`, `CallParams.ensureMetadata_read`: a call that is sure to have
  a mapping has one, and it is the one it had.
-/

namespace CallScribe

namespace Fields

variable {α : Type}

theorem get?_insert_self (key : String) (value : α) (fs : Fields α) :
    (fs.insert key value).get? key = some value := by
  induction fs with
  | nil => simp [insert, get?]
  | cons f rest ih =>
    obtain ⟨k, v⟩ := f
    simp only [insert]
    by_cases hk : k = key
    · simp [hk, get?]
    · rw [if_neg hk]
      by_cases hlt : key < k
      · simp [hlt, get?]
      · rw [if_neg hlt, get?, if_neg hk, ih]

theorem get?_insert_of_ne {key key' : String} (hne : key' ≠ key) (value : α) (fs : Fields α) :
    (fs.insert key value).get? key' = fs.get? key' := by
  induction fs with
  | nil => simp [insert, get?, hne.symm]
  | cons f rest ih =>
    obtain ⟨k, v⟩ := f
    simp only [insert]
    by_cases hk : k = key
    · simp [hk, get?, hne.symm]
    · rw [if_neg hk]
      by_cases hlt : key < k
      · simp [hlt, get?, hne.symm]
      · rw [if_neg hlt, get?, get?, ih]

theorem insert_insert (key : String) (v w : α) (fs : Fields α) :
    (fs.insert key v).insert key w = fs.insert key w := by
  induction fs with
  | nil => simp [insert]
  | cons f rest ih =>
    obtain ⟨k, u⟩ := f
    simp only [insert]
    by_cases hk : k = key
    · simp [hk, insert]
    · rw [if_neg hk, if_neg hk]
      by_cases hlt : key < k
      · simp [hlt, insert]
      · rw [if_neg hlt, if_neg hlt, insert, if_neg hk, if_neg hlt, ih]

end Fields

namespace MetadataStore

/-- The handle leads to a mapping of the store. -/
def Holds (s : MetadataStore) (h : MetadataHandle) : Prop := h.index < s.mappings.length

theorem holds_of_get? {s : MetadataStore} {h : MetadataHandle} {key : String}
    {value : Json} (hget : (s.read h).get? key = some value) : s.Holds h := by
  rcases Nat.lt_or_ge h.index s.mappings.length with hlt | hge
  · exact hlt
  · rw [read, List.getD_eq_getElem?_getD, List.getElem?_eq_none hge] at hget
    cases hget

theorem read_insert {s : MetadataStore} {h : MetadataHandle} (hh : s.Holds h) (key : String)
    (value : Json) : (s.insert h key value).2.read h = (s.read h).insert key value := by
  have hlen : h.index < s.mappings.length := hh
  simp only [insert]
  rw [read, List.getD_eq_getElem?_getD, List.getElem?_set_self hlen]
  rfl

theorem read_insert_of_not_holds {s : MetadataStore} {h : MetadataHandle} (hh : ¬s.Holds h)
    (key : String) (value : Json) : (s.insert h key value).2.read h = s.read h := by
  have hlen : s.mappings.length ≤ h.index := Nat.le_of_not_lt hh
  rw [insert, List.set_eq_of_length_le hlen]

theorem read_insert_of_ne {h h' : MetadataHandle} (hne : h' ≠ h) (s : MetadataStore) (key : String)
    (value : Json) : (s.insert h key value).2.read h' = s.read h' := by
  have hindex : h.index ≠ h'.index := by
    intro he
    cases h
    cases h'
    exact hne (congrArg MetadataHandle.mk he.symm)
  simp only [insert, read, List.getD_eq_getElem?_getD, List.getElem?_set_ne hindex]

/-- A new empty mapping is read like one that is not there. -/
theorem read_add_nil (s : MetadataStore) (h : MetadataHandle) :
    (s.add []).2.read h = s.read h := by
  simp only [add, read, List.getD_eq_getElem?_getD, List.getElem?_append]
  split
  · rfl
  · rename_i hlen
    rw [List.getElem?_eq_none (Nat.le_of_not_lt hlen)]
    cases h.index - s.mappings.length <;> rfl

theorem not_holds_add (s : MetadataStore) (content : Fields Json) :
    ¬s.Holds (s.add content).1 := Nat.lt_irrefl _

theorem read_add (s : MetadataStore) (content : Fields Json) :
    (s.add content).2.read (s.add content).1 = content := by
  simp [add, read]

theorem holds_add (s : MetadataStore) (content : Fields Json) :
    (s.add content).2.Holds (s.add content).1 := by
  simp [add, Holds]

end MetadataStore

namespace CallParams

/-- The mapping that the parameters lead to, empty if they have none. -/
def mapping (p : CallParams) (s : MetadataStore) : Fields Json :=
  match p.metadata with
  | some h => s.read h
  | none => []

theorem mapping_of_metadata {p : CallParams} {h : MetadataHandle} (hp : p.metadata = some h)
    (s : MetadataStore) : p.mapping s = s.read h := by
  rw [mapping, hp]

theorem ensureMetadata_holds {p : CallParams} {s : MetadataStore}
    (hp : ∀ h, p.metadata = some h → s.Holds h) :
    (p.ensureMetadata s).2.2.Holds (p.ensureMetadata s).1 := by
  unfold ensureMetadata
  cases hm : p.metadata with
  | some h => exact hp h hm
  | none => exact s.holds_add []

theorem ensureMetadata_read (p : CallParams) (s : MetadataStore) :
    (p.ensureMetadata s).2.1.metadata = some (p.ensureMetadata s).1 ∧
      (p.ensureMetadata s).2.2.read (p.ensureMetadata s).1 = p.mapping s := by
  unfold ensureMetadata mapping
  cases hm : p.metadata with
  | some h => exact ⟨hm, rfl⟩
  | none => exact ⟨rfl, s.read_add []⟩

theorem ensureMetadata_read_any (p : CallParams) (s : MetadataStore) (h : MetadataHandle) :
    (p.ensureMetadata s).2.2.read h = s.read h := by
  unfold ensureMetadata
  cases p.metadata with
  | some h' => rfl
  | none => exact s.read_add_nil h

theorem ensureMetadata_handle (p : CallParams) (s : MetadataStore) :
    p.metadata = some (p.ensureMetadata s).1 ∨
      p.metadata = none ∧ ¬s.Holds (p.ensureMetadata s).1 := by
  unfold ensureMetadata
  cases hm : p.metadata with
  | some h => exact .inl rfl
  | none => exact .inr ⟨rfl, s.not_holds_add []⟩

end CallParams
end CallScribe
