import CallScribe.Pattern.Rewriting

/-!
# CallScribe.Proofs.Pattern.Reading

What a match reads, for patterns that look at nothing else.

* `Pattern.Reads p w`: the pattern can read exactly the characters `w`.
* `Place.Reached h w d`: reading `w` leads from the place `h` to the place `d`.
* `Pattern.ends_reached`: every end of a match is reached by reading characters that the pattern
  reads.
* `Pattern.ends_shorten`: in a text that stops earlier the ends are those that still lie in it, in
  the same order of preference. This is what makes a match independent of the text behind it.
* `Pattern.ends_unseen`: what stands in front of a match plays no part.

`Pattern.blind` holds for patterns without tests and loops of patterns; the loops over one set,
which have a constructor of their own, are among them.
-/

namespace CallScribe

/-- Reading `w` leads from `h` to `d`. -/
structure Place.Reached (h : Place) (w : List Char) (d : Place) : Prop where
  ahead : h.ahead = w ++ d.ahead
  pos : d.pos = h.pos + w.length
  behind : d.behind = w.getLast?.or h.behind

namespace Place

theorem Reached.refl (h : Place) : Reached h [] h := ⟨by simp, by simp, by simp⟩

theorem Reached.trans {h d e : Place} {u v : List Char} (h₁ : Reached h u d)
    (h₂ : Reached d v e) : Reached h (u ++ v) e where
  ahead := by rw [h₁.ahead, h₂.ahead, List.append_assoc]
  pos := by rw [h₂.pos, h₁.pos, List.length_append, Nat.add_assoc]
  behind := by
    rw [h₂.behind, h₁.behind, List.getLast?_append]
    cases v.getLast? <;> simp

theorem Reached.cons {h d : Place} {c : Char} {w rest : List Char} (hc : h.ahead = c :: rest)
    (hd : Reached ⟨some c, rest, h.pos + 1, h.lead⟩ w d) : Reached h (c :: w) d where
  ahead := by rw [hc, List.cons_append, ← hd.ahead]
  pos := by rw [hd.pos, List.length_cons]; simp only; omega
  behind := by
    rw [hd.behind, List.getLast?_cons]
    cases w.getLast? <;> simp

/-- Two places determine what is read between them. -/
theorem Reached.unique {h d : Place} {v w : List Char} (hv : Reached h v d)
    (hw : Reached h w d) : v = w :=
  List.append_cancel_right (hv.ahead.symm.trans hw.ahead)

theorem Reached.pos_of_start {α : Type} {char : α → Char} {behind : Option Char}
    {cs : List Char} {w : List α} {d : Place} (h : Reached (start behind cs) (w.map char) d) :
    d.pos = w.length := by
  rw [h.pos, List.length_map]
  exact Nat.zero_add _

theorem mem_distinctFrom {d : Place} {seen : List Nat} {l : List Place} :
    d ∈ distinctFrom seen l → d ∈ l := by
  induction l generalizing seen with
  | nil => simp [distinctFrom]
  | cons h rest ih =>
    intro hd
    simp only [distinctFrom] at hd
    split at hd
    · exact List.mem_cons_of_mem _ (ih hd)
    · rcases List.mem_cons.mp hd with rfl | hd
      · exact List.mem_cons_self
      · exact List.mem_cons_of_mem _ (ih hd)

theorem mem_of_mem_distinct {d : Place} {l : List Place} (h : d ∈ distinct l) : d ∈ l :=
  mem_distinctFrom h

theorem head?_distinct (l : List Place) : (distinct l).head? = l.head? := by
  cases l <;> simp [distinct, distinctFrom]

theorem distinctFrom_distinctFrom {seen seen' : List Nat} (hs : seen' ⊆ seen) (l : List Place) :
    distinctFrom seen' (distinctFrom seen l) = distinctFrom seen l := by
  induction l generalizing seen seen' with
  | nil => rfl
  | cons h rest ih =>
    by_cases hp : h.pos ∈ seen
    · simp only [distinctFrom, List.contains_iff_mem, hp, if_true]
      exact ih hs
    · have hp' : h.pos ∉ seen' := fun hm => hp (hs hm)
      simp only [distinctFrom, List.contains_iff_mem, hp, hp', if_false]
      rw [ih (List.cons_subset_cons _ hs)]

theorem distinct_distinct (l : List Place) : distinct (distinct l) = distinct l :=
  distinctFrom_distinctFrom (List.Subset.refl _) l

theorem sweep_reached {set : CharSet} {pos : Nat} {lead : Option (Nat × Nat)} {cs : List Char}
    {d : Place} (hd : d ∈ sweep set pos lead cs) (behind : Option Char) :
    ∃ w, Reached ⟨behind, cs, pos, lead⟩ w d ∧ w ≠ [] ∧ (∀ c ∈ w, set.contains c = true) ∧
      d.lead = lead := by
  induction cs generalizing pos behind with
  | nil => simp [sweep] at hd
  | cons c rest ih =>
    simp only [sweep] at hd
    split at hd
    · rename_i hc
      rcases List.mem_cons.mp hd with rfl | hd
      · exact ⟨[c], ⟨by simp, by simp, by simp⟩, by simp, by simpa using hc, rfl⟩
      · obtain ⟨w, hw, _, hall, hl⟩ := ih hd (some c)
        refine ⟨c :: w, Reached.cons rfl hw, by simp, ?_, hl⟩
        intro x hx
        rcases List.mem_cons.mp hx with rfl | hx
        · exact hc
        · exact hall x hx
    · simp at hd

end Place

namespace Pattern

/-- The pattern can read exactly these characters. -/
def Reads : Pattern → List Char → Prop
  | .empty, w => w = []
  | .one s, w => ∃ c, w = [c] ∧ s.contains c = true
  | .run s least _ _, w => (∀ c ∈ w, s.contains c = true) ∧ least ≤ w.length
  | .look _, w => w = []
  | .seq p q, w => ∃ u v, w = u ++ v ∧ p.Reads u ∧ q.Reads v
  | .alt p q, w => p.Reads w ∨ q.Reads w
  | .loop p _ _ _, w => ∃ ws : List (List Char), w = ws.flatten ∧ ∀ u ∈ ws, p.Reads u
  | .lead p, w => p.Reads w

/-- No test and no loop of a pattern: a match depends on nothing but what it reads. -/
def blind : Pattern → Bool
  | .empty | .one _ | .run .. => true
  | .look _ | .loop .. => false
  | .seq p q | .alt p q => p.blind && q.blind
  | .lead p => p.blind

end Pattern

namespace Place

theorem step_reached {set : CharSet} {h d : Place} (hd : d ∈ h.step set) :
    ∃ c, Reached h [c] d ∧ set.contains c = true ∧ d.lead = h.lead := by
  obtain ⟨behind, ahead, pos, lead⟩ := h
  cases ahead with
  | nil => simp [step, sweep] at hd
  | cons c rest =>
    simp only [step, sweep] at hd
    split at hd
    · rename_i hc
      rw [List.take_succ_cons, List.take_zero, List.mem_singleton] at hd
      subst hd
      exact ⟨c, ⟨by simp, by simp, by simp⟩, hc, rfl⟩
    · simp at hd

theorem pos_of_getElem?_sweep {set : CharSet} {pos i : Nat} {lead : Option (Nat × Nat)}
    {cs : List Char} {d : Place} (hd : (sweep set pos lead cs)[i]? = some d) :
    d.pos = pos + i + 1 := by
  induction cs generalizing pos i with
  | nil => simp [sweep] at hd
  | cons c rest ih =>
    simp only [sweep] at hd
    split at hd
    · cases i with
      | zero => simp at hd; subst hd; simp
      | succ i =>
        rw [List.getElem?_cons_succ] at hd
        rw [ih hd]; omega
    · simp at hd

/-- The members of a run stand at their number of repetitions among all that the set allows. -/
theorem getElem?_of_mem_runs {set : CharSet} {least : Nat} {most : Option Nat} {greedy : Bool}
    {h d : Place} (hd : d ∈ h.runs set least most greedy) :
    ∃ i, least ≤ i ∧ (h :: sweep set h.pos h.lead h.ahead)[i]? = some d := by
  have mem_inOrder : ∀ l : List Place, d ∈ inOrder greedy l → d ∈ l := by
    intro l hl
    cases greedy <;> simpa [inOrder] using hl
  have mem_drop : ∀ l : List Place, d ∈ l.drop least → ∃ i, least ≤ i ∧ l[i]? = some d := by
    intro l hl
    obtain ⟨i, hi⟩ := List.mem_iff_getElem?.mp hl
    exact ⟨least + i, by omega, by rw [← hi, List.getElem?_drop]⟩
  cases most with
  | none => exact mem_drop _ (mem_inOrder _ hd)
  | some m =>
    obtain ⟨i, hi, hg⟩ := mem_drop _ (mem_inOrder _ hd)
    rw [List.getElem?_take] at hg
    split at hg
    · exact ⟨i, hi, hg⟩
    · simp at hg

theorem runs_reached {set : CharSet} {least : Nat} {most : Option Nat} {greedy : Bool}
    {h d : Place} (hd : d ∈ h.runs set least most greedy) :
    ∃ w, Reached h w d ∧ (∀ c ∈ w, set.contains c = true) ∧ least ≤ w.length ∧
      d.lead = h.lead := by
  obtain ⟨i, hi, hg⟩ := getElem?_of_mem_runs hd
  cases i with
  | zero =>
    simp at hg; subst hg
    exact ⟨[], Reached.refl h, by simp, by simpa using hi, rfl⟩
  | succ i =>
    rw [List.getElem?_cons_succ] at hg
    have hpos := pos_of_getElem?_sweep hg
    obtain ⟨w, hw, _, hall, hl⟩ := sweep_reached (List.mem_of_getElem? hg) h.behind
    refine ⟨w, hw, hall, ?_, hl⟩
    have : d.pos = h.pos + w.length := hw.pos
    omega

end Place

namespace Pattern

/-- Every end of a match is reached by reading what the pattern reads. -/
theorem ends_reached {p : Pattern} (hp : p.blind = true) {h d : Place} (hd : d ∈ p.ends h) :
    ∃ w, Place.Reached h w d ∧ p.Reads w := by
  induction p generalizing h d with
  | empty =>
    simp only [ends, List.mem_singleton] at hd
    subst hd
    exact ⟨[], Place.Reached.refl _, rfl⟩
  | one s =>
    obtain ⟨c, hr, hc, _⟩ := Place.step_reached hd
    exact ⟨[c], hr, c, rfl, hc⟩
  | run s least most greedy =>
    obtain ⟨w, hr, hall, hlen, _⟩ := Place.runs_reached hd
    exact ⟨w, hr, hall, hlen⟩
  | look t => simp [blind] at hp
  | loop p least most greedy ih => simp [blind] at hp
  | seq p q ihp ihq =>
    simp only [blind, Bool.and_eq_true] at hp
    obtain ⟨e, he, hd⟩ := List.mem_flatMap.mp (Place.mem_of_mem_distinct hd)
    obtain ⟨u, hu, hpu⟩ := ihp hp.1 he
    obtain ⟨v, hv, hqv⟩ := ihq hp.2 hd
    exact ⟨u ++ v, hu.trans hv, u, v, rfl, hpu, hqv⟩
  | alt p q ihp ihq =>
    simp only [blind, Bool.and_eq_true] at hp
    rcases List.mem_append.mp (Place.mem_of_mem_distinct hd) with hd | hd
    · obtain ⟨w, hw, hr⟩ := ihp hp.1 hd
      exact ⟨w, hw, Or.inl hr⟩
    · obtain ⟨w, hw, hr⟩ := ihq hp.2 hd
      exact ⟨w, hw, Or.inr hr⟩
  | lead p ih =>
    obtain ⟨e, he, rfl⟩ := List.mem_map.mp hd
    obtain ⟨w, hw, hr⟩ := ih hp he
    exact ⟨w, ⟨hw.ahead, hw.pos, hw.behind⟩, hr⟩

end Pattern

namespace Place

/-- The same place with more text behind it. -/
def extend (x : List Char) (h : Place) : Place := { h with ahead := h.ahead ++ x }

/-- The same place in a text that stops `x` earlier, if it still lies there. -/
def shorten (x : List Char) (h : Place) : Option Place :=
  if x.length ≤ h.ahead.length then
    some { h with ahead := h.ahead.take (h.ahead.length - x.length) }
  else none

@[simp] theorem shorten_extend (x : List Char) (h : Place) :
    (h.extend x).shorten x = some h := by
  simp [shorten, extend]

theorem shorten_eq_none {x : List Char} {h : Place} (hl : h.ahead.length < x.length) :
    h.shorten x = none := by
  rw [shorten, if_neg (by omega)]

/-- Among places of one text, one position is one place of the text, so that it does not matter
whether the text is shortened before or after doubles are left out. -/
theorem filterMap_shorten_distinctFrom {x : List Char} {N : Nat} {l : List Place}
    (hN : ∀ d ∈ l, d.pos + d.ahead.length = N) {seen seen' : List Nat}
    (hseen : ∀ d ∈ l, x.length ≤ d.ahead.length → (d.pos ∈ seen ↔ d.pos ∈ seen')) :
    (distinctFrom seen l).filterMap (shorten x) = distinctFrom seen' (l.filterMap (shorten x)) := by
  induction l generalizing seen seen' with
  | nil => simp [distinctFrom]
  | cons h rest ih =>
    have hN' : ∀ d ∈ rest, d.pos + d.ahead.length = N :=
      fun d hd => hN d (List.mem_cons_of_mem _ hd)
    have hh := hN h List.mem_cons_self
    by_cases hx : x.length ≤ h.ahead.length
    · have hs : h.shorten x =
          some { h with ahead := h.ahead.take (h.ahead.length - x.length) } := by
        rw [shorten, if_pos hx]
      rw [List.filterMap_cons_some hs]
      have hmem := hseen h List.mem_cons_self hx
      by_cases hp : h.pos ∈ seen
      · simp only [distinctFrom, List.contains_iff_mem, hp, hmem.mp hp, if_true]
        exact ih hN' fun d hd => hseen d (List.mem_cons_of_mem _ hd)
      · have hp' : h.pos ∉ seen' := fun hm => hp (hmem.mpr hm)
        simp only [distinctFrom, List.contains_iff_mem, hp, hp', if_false]
        rw [List.filterMap_cons_some hs]
        congr 1
        refine ih hN' fun d hd hl => ?_
        simp only [List.mem_cons]
        rw [hseen d (List.mem_cons_of_mem _ hd) hl]
    · have hs : h.shorten x = none := shorten_eq_none (by omega)
      rw [List.filterMap_cons_none hs]
      by_cases hp : h.pos ∈ seen
      · simp only [distinctFrom, List.contains_iff_mem, hp, if_true]
        exact ih hN' fun d hd => hseen d (List.mem_cons_of_mem _ hd)
      · simp only [distinctFrom, List.contains_iff_mem, hp, if_false]
        rw [List.filterMap_cons_none hs]
        refine ih hN' fun d hd hl => ?_
        have hd' := hN d (List.mem_cons_of_mem _ hd)
        have hne : d.pos ≠ h.pos := by omega
        simp only [List.mem_cons, hne, false_or]
        exact hseen d (List.mem_cons_of_mem _ hd) hl

theorem filterMap_shorten_distinct {x : List Char} {N : Nat} {l : List Place}
    (hN : ∀ d ∈ l, d.pos + d.ahead.length = N) :
    (distinct l).filterMap (shorten x) = distinct (l.filterMap (shorten x)) :=
  filterMap_shorten_distinctFrom hN fun _ _ _ => Iff.rfl

theorem Reached.sum {h d : Place} {w : List Char} (hr : Reached h w d) :
    d.pos + d.ahead.length = h.pos + h.ahead.length := by
  rw [hr.ahead, hr.pos, List.length_append]; omega

/-- A place that survives was the extension of what becomes of it. -/
theorem Reached.eq_extend {h d e : Place} {w x : List Char} (hr : Reached (h.extend x) w d)
    (hs : d.shorten x = some e) : d = e.extend x := by
  simp only [shorten] at hs
  split at hs
  · rename_i hl
    cases hs
    have hz : ∃ z, d.ahead = z ++ x := by
      have ha : h.ahead ++ x = w ++ d.ahead := hr.ahead
      rcases List.append_eq_append_iff.mp ha with ⟨y, _, hx⟩ | ⟨z, _, hd⟩
      · have : y = [] := by
          rw [hx, List.length_append] at hl
          exact List.length_eq_zero_iff.mp (by omega)
        exact ⟨[], by rw [hx, this]; rfl⟩
      · exact ⟨z, hd⟩
    obtain ⟨z, hz⟩ := hz
    obtain ⟨_, ahead, _, _⟩ := d
    simp only at hz
    subst hz
    simp [extend]
  · cases hs

theorem sweep_extend (set : CharSet) (pos : Nat) (lead : Option (Nat × Nat)) (cs x : List Char) :
    ∃ beyond, sweep set pos lead (cs ++ x) =
        (sweep set pos lead cs).map (extend x) ++ beyond ∧
      ∀ d ∈ beyond, d.ahead.length < x.length := by
  induction cs generalizing pos with
  | nil =>
    refine ⟨sweep set pos lead x, by simp [sweep], fun d hd => ?_⟩
    obtain ⟨w, hr, hw, _, _⟩ := sweep_reached hd none
    have := congrArg List.length hr.ahead
    have : 0 < w.length := List.length_pos_iff.mpr hw
    simp only [List.length_append] at *
    omega
  | cons c rest ih =>
    simp only [List.cons_append, sweep]
    split
    · obtain ⟨beyond, he, hb⟩ := ih (pos + 1)
      exact ⟨beyond, by rw [he]; simp [extend], hb⟩
    · exact ⟨[], by simp, by simp⟩

theorem filterMap_shorten_beyond {x : List Char} {l : List Place}
    (h : ∀ d ∈ l, d.ahead.length < x.length) : l.filterMap (shorten x) = [] := by
  rw [List.filterMap_eq_nil_iff]
  exact fun d hd => shorten_eq_none (h d hd)

theorem filterMap_shorten_map_extend (x : List Char) (l : List Place) :
    (l.map (extend x)).filterMap (shorten x) = l := by
  rw [List.filterMap_map]
  have : shorten x ∘ extend x = some := funext fun h => shorten_extend x h
  rw [this, List.filterMap_some]

theorem runs_shorten {set : CharSet} {least : Nat} {most : Option Nat} {greedy : Bool}
    (h : Place) (x : List Char) :
    ((h.extend x).runs set least most greedy).filterMap (shorten x) =
      h.runs set least most greedy := by
  obtain ⟨beyond, he, hb⟩ := sweep_extend set h.pos h.lead h.ahead x
  have hall : (h.extend x) :: sweep set h.pos h.lead (h.ahead ++ x) =
      (h :: sweep set h.pos h.lead h.ahead).map (extend x) ++ beyond := by
    rw [he]; simp
  -- taking and dropping by number leaves the part within the text and the part beyond it apart
  have hdrop : ∀ (l b : List Place), (∀ d ∈ b, d.ahead.length < x.length) →
      ((l.map (extend x) ++ b).drop least).filterMap (shorten x) = l.drop least := by
    intro l b hb
    rw [List.drop_append, List.filterMap_append, ← List.map_drop, filterMap_shorten_map_extend,
      filterMap_shorten_beyond fun d hd => hb d (List.mem_of_mem_drop hd), List.append_nil]
  have horder : ∀ l : List Place, (inOrder greedy l).filterMap (shorten x) =
      inOrder greedy (l.filterMap (shorten x)) := by
    intro l
    cases greedy <;> simp [inOrder, List.filterMap_reverse]
  cases most with
  | none =>
    show (inOrder greedy ((h.extend x :: sweep set h.pos h.lead (h.ahead ++ x)).drop
      least)).filterMap (shorten x) = _
    rw [hall, horder, hdrop _ _ hb]
    rfl
  | some m =>
    show (inOrder greedy (((h.extend x :: sweep set h.pos h.lead (h.ahead ++ x)).take
      (m + 1)).drop least)).filterMap (shorten x) = _
    rw [hall, List.take_append, ← List.map_take, horder,
      hdrop _ _ fun d hd => hb d (List.mem_of_mem_take hd)]
    rfl

theorem step_shorten {set : CharSet} (h : Place) (x : List Char) :
    ((h.extend x).step set).filterMap (shorten x) = h.step set := by
  obtain ⟨beyond, he, hb⟩ := sweep_extend set h.pos h.lead h.ahead x
  show ((sweep set h.pos h.lead (h.ahead ++ x)).take 1).filterMap (shorten x) = _
  rw [he, List.take_append, List.filterMap_append, ← List.map_take, filterMap_shorten_map_extend,
    filterMap_shorten_beyond fun d hd => hb d (List.mem_of_mem_take hd), List.append_nil]
  rfl

end Place

namespace Pattern

theorem filterMap_shorten_flatMap {q : Pattern} {h : Place} {x : List Char} {l : List Place}
    (hq : q.blind = true) (hl : ∀ d ∈ l, ∃ w, Place.Reached (h.extend x) w d)
    (ih : ∀ h : Place, (q.ends (h.extend x)).filterMap (Place.shorten x) = q.ends h) :
    (l.flatMap q.ends).filterMap (Place.shorten x) =
      (l.filterMap (Place.shorten x)).flatMap q.ends := by
  induction l with
  | nil => rfl
  | cons d rest ihl =>
    obtain ⟨w, hr⟩ := hl d List.mem_cons_self
    rw [List.flatMap_cons, List.filterMap_append,
      ihl fun e he => hl e (List.mem_cons_of_mem _ he)]
    cases hs : d.shorten x with
    | some e =>
      rw [List.filterMap_cons_some hs, List.flatMap_cons, hr.eq_extend hs, ih e]
    | none =>
      have hlen : d.ahead.length < x.length := by
        simp only [Place.shorten] at hs
        split at hs
        · cases hs
        · omega
      rw [List.filterMap_cons_none hs, Place.filterMap_shorten_beyond, List.nil_append]
      intro e he
      obtain ⟨v, hv, _⟩ := ends_reached hq he
      have := congrArg List.length hv.ahead
      rw [List.length_append] at this
      omega

/-- What is read and what is left make up the same length for every end. -/
theorem ends_sum {p : Pattern} (hp : p.blind = true) {h d : Place} (hd : d ∈ p.ends h) :
    d.pos + d.ahead.length = h.pos + h.ahead.length := by
  obtain ⟨w, hw, _⟩ := ends_reached hp hd
  exact hw.sum

/-- In a text that stops `x` earlier the ends are those that still lie in it. -/
theorem ends_shorten {p : Pattern} (hp : p.blind = true) (h : Place) (x : List Char) :
    (p.ends (h.extend x)).filterMap (Place.shorten x) = p.ends h := by
  induction p generalizing h with
  | empty => simp [ends]
  | one s => exact Place.step_shorten h x
  | run s least most greedy => exact Place.runs_shorten h x
  | look t => simp [blind] at hp
  | loop p least most greedy ih => simp [blind] at hp
  | seq p q ihp ihq =>
    simp only [blind, Bool.and_eq_true] at hp
    have hreach : ∀ d ∈ p.ends (h.extend x), ∃ w, Place.Reached (h.extend x) w d := by
      intro d hd
      obtain ⟨w, hw, _⟩ := ends_reached hp.1 hd
      exact ⟨w, hw⟩
    have hsum : ∀ d ∈ (p.ends (h.extend x)).flatMap q.ends,
        d.pos + d.ahead.length = (h.extend x).pos + (h.extend x).ahead.length := by
      intro d hd
      obtain ⟨e, he, hd⟩ := List.mem_flatMap.mp hd
      rw [ends_sum hp.2 hd, ends_sum hp.1 he]
    simp only [ends]
    rw [Place.filterMap_shorten_distinct hsum,
      filterMap_shorten_flatMap hp.2 hreach (ihq hp.2), ihp hp.1]
  | alt p q ihp ihq =>
    simp only [blind, Bool.and_eq_true] at hp
    have hsum : ∀ d ∈ p.ends (h.extend x) ++ q.ends (h.extend x),
        d.pos + d.ahead.length = (h.extend x).pos + (h.extend x).ahead.length := by
      intro d hd
      rcases List.mem_append.mp hd with hd | hd
      · exact ends_sum hp.1 hd
      · exact ends_sum hp.2 hd
    simp only [ends]
    rw [Place.filterMap_shorten_distinct hsum, List.filterMap_append, ihp hp.1, ihq hp.2]
  | lead p ih =>
    simp only [ends]
    rw [List.filterMap_map, ← ih hp h, List.map_filterMap]
    congr 1
    funext d
    simp only [Function.comp, Place.shorten, Place.extend]
    split <;> rfl

end Pattern

namespace Place

/-- The same place with nothing in front of it. -/
def unseen (h : Place) : Place := { h with behind := none }

theorem map_unseen_distinctFrom (seen : List Nat) (l : List Place) :
    (distinctFrom seen l).map unseen = distinctFrom seen (l.map unseen) := by
  induction l generalizing seen with
  | nil => rfl
  | cons h rest ih =>
    simp only [distinctFrom, List.map_cons]
    rw [show h.unseen.pos = h.pos from rfl]
    split
    · exact ih seen
    · rw [List.map_cons, ih]

theorem map_unseen_sweep_congr (set : CharSet) {h h' : Place} (he : h.unseen = h'.unseen) :
    (h :: sweep set h.pos h.lead h.ahead).map unseen =
      (h' :: sweep set h'.pos h'.lead h'.ahead).map unseen := by
  obtain ⟨_, _, _, _⟩ := h
  obtain ⟨_, _, _, _⟩ := h'
  simp only [unseen, Place.mk.injEq, true_and] at he
  obtain ⟨rfl, rfl, rfl⟩ := he
  rfl

end Place

namespace Pattern

theorem map_unseen_flatMap {q : Pattern}
    (hq : ∀ {h h' : Place}, h.unseen = h'.unseen →
      (q.ends h).map Place.unseen = (q.ends h').map Place.unseen)
    {l l' : List Place} (hl : l.map Place.unseen = l'.map Place.unseen) :
    (l.flatMap q.ends).map Place.unseen = (l'.flatMap q.ends).map Place.unseen := by
  induction l generalizing l' with
  | nil =>
    cases l' with
    | nil => rfl
    | cons d' rest' => simp at hl
  | cons d rest ih =>
    cases l' with
    | nil => simp at hl
    | cons d' rest' =>
      rw [List.map_cons, List.map_cons, List.cons.injEq] at hl
      rw [List.flatMap_cons, List.flatMap_cons, List.map_append, List.map_append, hq hl.1,
        ih hl.2]

/-- What stands in front of a match plays no part. -/
theorem ends_unseen {p : Pattern} (hp : p.blind = true) {h h' : Place}
    (he : h.unseen = h'.unseen) : (p.ends h).map Place.unseen = (p.ends h').map Place.unseen := by
  induction p generalizing h h' with
  | empty => simpa [ends] using he
  | one s =>
    have := congrArg (fun l => (l.drop 1).take 1) (Place.map_unseen_sweep_congr s he)
    simpa [ends, Place.step, List.map_take] using this
  | run s least most greedy =>
    have hall := Place.map_unseen_sweep_congr s he
    have horder : ∀ l : List Place, (Place.inOrder greedy l).map Place.unseen =
        Place.inOrder greedy (l.map Place.unseen) := by
      intro l
      cases greedy <;> simp [Place.inOrder]
    simp only [ends, Place.runs]
    cases most with
    | none => rw [horder, horder, List.map_drop, List.map_drop, hall]
    | some m =>
      rw [horder, horder, List.map_drop, List.map_drop, List.map_take, List.map_take, hall]
  | look t => simp [blind] at hp
  | loop p least most greedy ih => simp [blind] at hp
  | seq p q ihp ihq =>
    simp only [blind, Bool.and_eq_true] at hp
    simp only [ends, Place.distinct]
    rw [Place.map_unseen_distinctFrom, Place.map_unseen_distinctFrom,
      map_unseen_flatMap (ihq hp.2) (ihp hp.1 he)]
  | alt p q ihp ihq =>
    simp only [blind, Bool.and_eq_true] at hp
    simp only [ends, Place.distinct]
    rw [Place.map_unseen_distinctFrom, Place.map_unseen_distinctFrom, List.map_append,
      List.map_append, ihp hp.1 he, ihq hp.2 he]
  | lead p ih =>
    have hpos : h.pos = h'.pos := by
      show h.unseen.pos = h'.unseen.pos
      rw [he]
    have := congrArg (fun l => l.map fun d : Place => { d with lead := some (h.pos, d.pos) })
      (ih hp he)
    simp only [List.map_map] at this
    simp only [ends, List.map_map, ← hpos]
    exact this

end Pattern
end CallScribe
