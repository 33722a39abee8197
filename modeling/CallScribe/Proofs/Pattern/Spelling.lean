import CallScribe.Proofs.Pattern.Shape
import CallScribe.Proofs.Pattern.Greedy

/-!
# CallScribe.Proofs.Pattern.Spelling

The words of a pattern, and where in a text they occur.

* `Pattern.Spells`: the words, with the bounds of runs in both directions.
* `Pattern.spells_of_mem_ends`, `Pattern.mem_ends_of_spells`: the ends of matches are the ends of
  words. The order of preference plays no part in this.
* `Pattern.occursAfter_iff`: a search succeeds if and only if a word occurs in the text.
-/

namespace CallScribe

namespace Pattern

/-- The pattern stands for this word. -/
def Spells : Pattern → List Char → Prop
  | .empty, w => w = []
  | .one s, w => ∃ c, w = [c] ∧ s.contains c = true
  | .run s least most _, w =>
    (∀ c ∈ w, s.contains c = true) ∧ least ≤ w.length ∧ ∀ m, most = some m → w.length ≤ m
  | .look _, w => w = []
  | .seq p q, w => ∃ u v, w = u ++ v ∧ p.Spells u ∧ q.Spells v
  | .alt p q, w => p.Spells w ∨ q.Spells w
  | .loop p least most _, w => ∃ ws : List (List Char), w = ws.flatten ∧ (∀ u ∈ ws, p.Spells u) ∧
    least ≤ ws.length ∧ ∀ m, most = some m → ws.length ≤ m
  | .lead p, w => p.Spells w

theorem Spells.reads {p : Pattern} {w : List Char} (h : p.Spells w) : p.Reads w := by
  induction p generalizing w with
  | empty => exact h
  | look t => exact h
  | one s => exact h
  | run s least most greedy => exact ⟨h.1, h.2.1⟩
  | seq p q ihp ihq =>
    obtain ⟨u, v, hw, hu, hv⟩ := h
    exact ⟨u, v, hw, ihp hu, ihq hv⟩
  | alt p q ihp ihq => exact h.imp ihp ihq
  | loop p least most greedy ih =>
    obtain ⟨ws, hw, hws, -⟩ := h
    exact ⟨ws, hw, fun u hu => ih (hws u hu)⟩
  | lead p ih => exact ih h

end Pattern

namespace Place

/-- One more place after each member of the set. -/
theorem getElem?_sweep {set : CharSet} {w rest : List Char}
    (hw : ∀ c ∈ w, set.contains c = true) {h : Place} (ha : h.ahead = w ++ rest) :
    (h :: sweep set h.pos h.lead h.ahead)[w.length]? = some (h.after w) := by
  induction w generalizing h with
  | nil => rfl
  | cons c w ih =>
    obtain ⟨hc, hw⟩ := List.forall_mem_cons.mp hw
    have hahead : (h.after [c]).ahead = w ++ rest := by
      rw [after, ha]
      rfl
    have hsweep : sweep set h.pos h.lead h.ahead =
        h.after [c] :: sweep set (h.after [c]).pos (h.after [c]).lead (h.after [c]).ahead := by
      rw [hahead, ha, List.cons_append, sweep, if_pos hc]
      simp [after, ha]
    rw [List.length_cons, List.getElem?_cons_succ, hsweep, ih hw hahead, after_append]
    rfl

theorem reached_of_getElem?_sweep {set : CharSet} {h d : Place} {i : Nat}
    (hd : (h :: sweep set h.pos h.lead h.ahead)[i]? = some d) :
    ∃ w, Reached h w d ∧ (∀ c ∈ w, set.contains c = true) ∧ w.length = i := by
  cases i with
  | zero =>
    cases hd
    exact ⟨[], Reached.refl h, by simp, rfl⟩
  | succ i =>
    rw [List.getElem?_cons_succ] at hd
    have hpos := pos_of_getElem?_sweep hd
    obtain ⟨w, hw, -, hall, -⟩ := sweep_reached (List.mem_of_getElem? hd) h.behind
    have hlen : d.pos = h.pos + w.length := hw.pos
    exact ⟨w, hw, hall, by omega⟩

/-- A run reaches what stands at its number of repetitions. -/
theorem mem_runs_iff {set : CharSet} {least : Nat} {most : Option Nat} {greedy : Bool}
    {h d : Place} : d ∈ h.runs set least most greedy ↔
      ∃ i, least ≤ i ∧ (∀ m, most = some m → i ≤ m) ∧
        (h :: sweep set h.pos h.lead h.ahead)[i]? = some d := by
  have horder : ∀ l : List Place, d ∈ inOrder greedy l ↔ d ∈ l := by
    intro l
    cases greedy <;> simp [inOrder]
  have hdrop : ∀ l : List Place, d ∈ l.drop least ↔ ∃ i, least ≤ i ∧ l[i]? = some d := by
    intro l
    rw [List.mem_iff_getElem?]
    constructor
    · rintro ⟨i, hi⟩
      exact ⟨least + i, by omega, by rw [← hi, List.getElem?_drop]⟩
    · rintro ⟨i, hi, hd⟩
      refine ⟨i - least, ?_⟩
      rw [List.getElem?_drop, Nat.add_sub_cancel' hi, hd]
  unfold runs
  cases most with
  | none => simp [horder, hdrop]
  | some m =>
    simp only [horder, hdrop, List.getElem?_take, Option.some.injEq, forall_eq']
    constructor
    · rintro ⟨i, hi, hd⟩
      split at hd
      · exact ⟨i, hi, by omega, hd⟩
      · cases hd
    · rintro ⟨i, hi, him, hd⟩
      exact ⟨i, hi, by rw [if_pos (by omega), hd]⟩

theorem exists_mem_distinctFrom {seen : List Nat} {l : List Place} {d : Place} (hd : d ∈ l)
    (hseen : d.pos ∉ seen) : ∃ e ∈ distinctFrom seen l, e.pos = d.pos := by
  induction l generalizing seen with
  | nil => cases hd
  | cons h rest ih =>
    rw [distinctFrom]
    by_cases hin : h.pos ∈ seen
    · rw [if_pos (by simpa using hin)]
      rcases List.mem_cons.mp hd with rfl | hd
      · exact absurd hin hseen
      · exact ih hd hseen
    · rw [if_neg (by simpa using hin)]
      by_cases hpos : d.pos = h.pos
      · exact ⟨h, List.mem_cons_self, hpos.symm⟩
      · rcases List.mem_cons.mp hd with rfl | hd
        · exact absurd rfl hpos
        · have hlater : d.pos ∉ h.pos :: seen := by simp [hpos, hseen]
          obtain ⟨e, he, hepos⟩ := ih hd hlater
          exact ⟨e, List.mem_cons_of_mem _ he, hepos⟩

theorem exists_mem_distinct {l : List Place} {d : Place} (hd : d ∈ l) :
    ∃ e ∈ distinct l, e.pos = d.pos := exists_mem_distinctFrom hd List.not_mem_nil

/-- Two ends at one position are ends of one word. -/
theorem Reached.of_pos {h d e : Place} {v w : List Char} (hd : Reached h v d)
    (he : Reached h w e) (hpos : e.pos = d.pos) : Reached h v e := by
  have hlen : w.length = v.length := by
    have hw := he.pos
    have hv := hd.pos
    omega
  have hwords : w = v := (List.append_inj (he.ahead.symm.trans hd.ahead) hlen).1
  rwa [hwords] at he

end Place

namespace Pattern

theorem spells_of_mem_ends {p : Pattern} (hp : p.blind = true) {h d : Place} (hd : d ∈ p.ends h) :
    ∃ w, Place.Reached h w d ∧ p.Spells w := by
  induction p generalizing h d with
  | empty => exact ends_reached hp hd
  | one s => exact ends_reached hp hd
  | run s least most greedy =>
    obtain ⟨i, hleast, hmost, hi⟩ := Place.mem_runs_iff.mp hd
    obtain ⟨w, hr, hall, hlen⟩ := Place.reached_of_getElem?_sweep hi
    exact ⟨w, hr, hall, by omega, fun m hm => by rw [hlen]; exact hmost m hm⟩
  | look t => simp [blind] at hp
  | loop p least most greedy ih => simp [blind] at hp
  | seq p q ihp ihq =>
    simp only [blind, Bool.and_eq_true] at hp
    obtain ⟨e, he, hd⟩ := List.mem_flatMap.mp (Place.mem_of_mem_distinct hd)
    obtain ⟨u, hu, hpu⟩ := ihp hp.1 he
    obtain ⟨v, hv, hqv⟩ := ihq hp.2 hd
    exact ⟨u ++ v, hu.trans hv, u, v, rfl, hpu, hqv⟩
  | alt p q ihp ihq =>
    simp only [blind, Bool.and_eq_true] at hp
    rcases List.mem_append.mp (Place.mem_of_mem_distinct hd) with hd | hd
    · obtain ⟨w, hw, hr⟩ := ihp hp.1 hd
      exact ⟨w, hw, .inl hr⟩
    · obtain ⟨w, hw, hr⟩ := ihq hp.2 hd
      exact ⟨w, hw, .inr hr⟩
  | lead p ih =>
    obtain ⟨e, he, rfl⟩ := List.mem_map.mp hd
    obtain ⟨w, hw, hr⟩ := ih hp he
    exact ⟨w, ⟨hw.ahead, hw.pos, hw.behind⟩, hr⟩

theorem mem_ends_of_spells {p : Pattern} (hp : p.blind = true) {h : Place} {w rest : List Char}
    (ha : h.ahead = w ++ rest) (hw : p.Spells w) : ∃ d ∈ p.ends h, Place.Reached h w d := by
  induction p generalizing h w rest with
  | empty =>
    have hnil : w = [] := hw
    subst hnil
    exact ⟨h, List.mem_singleton.mpr rfl, Place.Reached.refl h⟩
  | one s =>
    obtain ⟨c, rfl, hc⟩ := hw
    refine ⟨h.after [c], ?_, Place.reached_after ha⟩
    have hall : ∀ x ∈ [c], s.contains x = true := List.forall_mem_singleton.mpr hc
    have hsweep := Place.getElem?_sweep hall ha
    rw [List.length_singleton, List.getElem?_cons_succ] at hsweep
    rw [ends, Place.step, List.take_one, List.head?_eq_getElem?, hsweep]
    exact List.mem_singleton.mpr rfl
  | run s least most greedy =>
    obtain ⟨hall, hleast, hmost⟩ := hw
    refine ⟨h.after w, ?_, Place.reached_after ha⟩
    exact Place.mem_runs_iff.mpr ⟨w.length, hleast, hmost, Place.getElem?_sweep hall ha⟩
  | look t => simp [blind] at hp
  | loop p least most greedy ih => simp [blind] at hp
  | seq p q ihp ihq =>
    have hboth := hp
    simp only [blind, Bool.and_eq_true] at hp
    obtain ⟨u, v, rfl, hu, hv⟩ := hw
    rw [List.append_assoc] at ha
    obtain ⟨e, he, hue⟩ := ihp hp.1 ha hu
    have hahead : e.ahead = v ++ rest := List.append_cancel_left (hue.ahead.symm.trans ha)
    obtain ⟨d, hd, hvd⟩ := ihq hp.2 hahead hv
    obtain ⟨d', hd', hpos⟩ := Place.exists_mem_distinct (List.mem_flatMap.mpr ⟨e, he, hd⟩)
    obtain ⟨w, hwd, -⟩ := ends_reached (p := .seq p q) hboth hd'
    exact ⟨d', hd', (hue.trans hvd).of_pos hwd hpos⟩
  | alt p q ihp ihq =>
    have hboth := hp
    simp only [blind, Bool.and_eq_true] at hp
    obtain ⟨d, hd, hwd⟩ : ∃ d ∈ p.ends h ++ q.ends h, Place.Reached h w d := by
      rcases hw with hw | hw
      · obtain ⟨d, hd, hwd⟩ := ihp hp.1 ha hw
        exact ⟨d, List.mem_append_left _ hd, hwd⟩
      · obtain ⟨d, hd, hwd⟩ := ihq hp.2 ha hw
        exact ⟨d, List.mem_append_right _ hd, hwd⟩
    obtain ⟨d', hd', hpos⟩ := Place.exists_mem_distinct hd
    obtain ⟨w', hwd', -⟩ := ends_reached (p := .alt p q) hboth hd'
    exact ⟨d', hd', hwd.of_pos hwd' hpos⟩
  | lead p ih =>
    obtain ⟨d, hd, hwd⟩ := ih hp ha hw
    exact ⟨_, List.mem_map_of_mem hd, ⟨hwd.ahead, hwd.pos, hwd.behind⟩⟩

theorem first?_isSome_iff {p : Pattern} (hp : p.blind = true) {behind : Option Char}
    {cs : List Char} : (p.first? behind cs).isSome = true ↔ ∃ w, w <+: cs ∧ p.Spells w := by
  rw [first?, Option.isSome_iff_exists]
  constructor
  · rintro ⟨d, hd⟩
    obtain ⟨w, hr, hw⟩ := spells_of_mem_ends hp (List.mem_of_head? hd)
    exact ⟨w, ⟨d.ahead, hr.ahead.symm⟩, hw⟩
  · rintro ⟨w, ⟨rest, hrest⟩, hw⟩
    obtain ⟨d, hd, -⟩ := mem_ends_of_spells hp (h := .start behind cs) hrest.symm hw
    cases hl : p.ends (.start behind cs) with
    | nil =>
      rw [hl] at hd
      cases hd
    | cons e es => exact ⟨e, rfl⟩

/-- A search succeeds if and only if a word of the pattern occurs in the text. -/
theorem occursAfter_iff {p : Pattern} (hp : p.blind = true) {behind : Option Char}
    {cs : List Char} : p.occursAfter behind cs = true ↔ ∃ w, w <:+: cs ∧ p.Spells w := by
  induction cs generalizing behind with
  | nil => simp [occursAfter, first?_isSome_iff hp]
  | cons c rest ih =>
    rw [occursAfter, Bool.or_eq_true, first?_isSome_iff hp, ih]
    simp only [List.infix_cons_iff, or_and_right, exists_or]

end Pattern
end CallScribe
