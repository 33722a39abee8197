import CallScribe.Proofs.Pattern.Extent

/-!
# CallScribe.Proofs.Pattern.Shape

Patterns made of a lead and a token, with at most one test in front of everything.

* `Pattern.mayRead`, `Pattern.opening`, `Pattern.nullable`: what a pattern can read at all and
  what it can begin with, computed.
* `Pattern.Shaped`: the shape. A match is a word of the lead and then one of the token, of which
  only the second is masked.
* `Pattern.Shaped.steady`: such a pattern is steady.
* `Pattern.EndsIn`: a pattern that ends in as many members of a set as there are. Its preferred
  match is never followed by a member.
-/

namespace CallScribe

namespace CharSet

theorem exists_range_of_inRanges {rs : List (Nat × Nat)} {n : Nat} (h : inRanges rs n = true) :
    ∃ r ∈ rs, r.1 ≤ n ∧ n ≤ r.2 := by
  induction rs with
  | nil => simp [inRanges] at h
  | cons r rest ih =>
    simp only [inRanges] at h
    split at h
    · cases h
    · rename_i hlo
      rw [Bool.or_eq_true, decide_eq_true_eq] at h
      rcases h with h | h
      · exact ⟨r, List.mem_cons_self, by omega, h⟩
      · obtain ⟨r', hr', hb⟩ := ih h
        exact ⟨r', List.mem_cons_of_mem _ hr', hb⟩

/-- Whether no range of the one set meets a range of the other. -/
def apart (s t : CharSet) : Bool :=
  s.ranges.all fun a => t.ranges.all fun b => decide (a.2 < b.1) || decide (b.2 < a.1)

theorem not_contains_of_apart {s t : CharSet} (h : s.apart t = true) {c : Char}
    (hc : s.contains c = true) : t.contains c = false := by
  cases ht : t.contains c with
  | false => rfl
  | true =>
    obtain ⟨a, ha, ha₁, ha₂⟩ := exists_range_of_inRanges hc
    obtain ⟨b, hb, hb₁, hb₂⟩ := exists_range_of_inRanges ht
    have := List.all_eq_true.mp (List.all_eq_true.mp h a ha) b hb
    simp only [Bool.or_eq_true, decide_eq_true_eq] at this
    omega

theorem contains_single {c x : Char} : (CharSet.single x).contains c = true ↔ c = x := by
  rw [← Char.toNat_inj]
  simp only [CharSet.single, CharSet.contains, CharSet.inRanges]
  split
  · simp; omega
  · simp; omega

end CharSet

namespace Pattern

/-- Whether a match may contain the character. -/
def mayRead (c : Char) : Pattern → Bool
  | .empty | .look _ => false
  | .one s | .run s _ _ _ => s.contains c
  | .seq p q | .alt p q => p.mayRead c || q.mayRead c
  | .loop p _ _ _ | .lead p => p.mayRead c

/-- Whether a match may read nothing. -/
def nullable : Pattern → Bool
  | .empty | .look _ | .loop .. => true
  | .one _ => false
  | .run _ least _ _ => least == 0
  | .seq p q => p.nullable && q.nullable
  | .alt p q => p.nullable || q.nullable
  | .lead p => p.nullable

/-- The sets of which a match may begin with a member. -/
def opening : Pattern → List CharSet
  | .empty | .look _ => []
  | .one s | .run s _ _ _ => [s]
  | .seq p q => if p.nullable then p.opening ++ q.opening else p.opening
  | .alt p q => p.opening ++ q.opening
  | .loop p _ _ _ | .lead p => p.opening

theorem Reads.mayRead {p : Pattern} {w : List Char} (h : p.Reads w) {c : Char} (hc : c ∈ w) :
    p.mayRead c = true := by
  induction p generalizing w with
  | empty => simp [Reads] at h; simp [h] at hc
  | look t => simp [Reads] at h; simp [h] at hc
  | one s =>
    obtain ⟨x, rfl, hx⟩ := h
    rw [List.mem_singleton] at hc
    simpa [Pattern.mayRead, hc] using hx
  | run s least most greedy => exact h.1 c hc
  | seq p q ihp ihq =>
    obtain ⟨u, v, rfl, hu, hv⟩ := h
    rw [Pattern.mayRead, Bool.or_eq_true]
    rcases List.mem_append.mp hc with hc | hc
    · exact Or.inl (ihp hu hc)
    · exact Or.inr (ihq hv hc)
  | alt p q ihp ihq =>
    rw [Pattern.mayRead, Bool.or_eq_true]
    rcases h with h | h
    · exact Or.inl (ihp h hc)
    · exact Or.inr (ihq h hc)
  | loop p least most greedy ih =>
    obtain ⟨ws, rfl, hws⟩ := h
    obtain ⟨u, hu, hc⟩ := List.mem_flatten.mp hc
    exact ih (hws u hu) hc
  | lead p ih => exact ih h hc

/-- Whether all sets of the pattern are apart from the given one. -/
def apart (t : CharSet) : Pattern → Bool
  | .empty | .look _ => true
  | .one s | .run s _ _ _ => s.apart t
  | .seq p q | .alt p q => p.apart t && q.apart t
  | .loop p _ _ _ | .lead p => p.apart t

theorem not_contains_of_mayRead {p : Pattern} {t : CharSet} (h : p.apart t = true) {c : Char}
    (hc : p.mayRead c = true) : t.contains c = false := by
  induction p with
  | empty => simp [Pattern.mayRead] at hc
  | look l => simp [Pattern.mayRead] at hc
  | one s => exact CharSet.not_contains_of_apart h hc
  | run s least most greedy => exact CharSet.not_contains_of_apart h hc
  | seq p q ihp ihq =>
    rw [apart, Bool.and_eq_true] at h
    rw [Pattern.mayRead, Bool.or_eq_true] at hc
    exact hc.elim (ihp h.1) (ihq h.2)
  | alt p q ihp ihq =>
    rw [apart, Bool.and_eq_true] at h
    rw [Pattern.mayRead, Bool.or_eq_true] at hc
    exact hc.elim (ihp h.1) (ihq h.2)
  | loop p least most greedy ih => exact ih h hc
  | lead p ih => exact ih h hc

theorem Reads.not_contains {p : Pattern} {w : List Char} (h : p.Reads w) {t : CharSet}
    (ht : p.apart t = true) {c : Char} (hc : c ∈ w) : t.contains c = false :=
  not_contains_of_mayRead ht (h.mayRead hc)

theorem Reads.nullable {p : Pattern} (h : p.Reads []) : p.nullable = true := by
  induction p with
  | empty => rfl
  | look t => rfl
  | one s => simp [Reads] at h
  | run s least most greedy => simpa [Pattern.nullable, Reads] using h
  | seq p q ihp ihq =>
    obtain ⟨u, v, he, hu, hv⟩ := h
    obtain ⟨rfl, rfl⟩ := List.append_eq_nil_iff.mp he.symm
    rw [Pattern.nullable, ihp hu, ihq hv]
    rfl
  | alt p q ihp ihq =>
    rw [Pattern.nullable, Bool.or_eq_true]
    exact h.imp ihp ihq
  | loop p least most greedy ih => rfl
  | lead p ih => exact ih h

theorem Reads.opening {p : Pattern} {c : Char} {w : List Char} (h : p.Reads (c :: w)) :
    ∃ s ∈ p.opening, s.contains c = true := by
  induction p generalizing w with
  | empty => simp [Reads] at h
  | look t => simp [Reads] at h
  | one s =>
    obtain ⟨x, he, hx⟩ := h
    rw [List.cons.injEq] at he
    exact ⟨s, List.mem_singleton.mpr rfl, by rw [he.1]; exact hx⟩
  | run s least most greedy =>
    exact ⟨s, List.mem_singleton.mpr rfl, h.1 c List.mem_cons_self⟩
  | seq p q ihp ihq =>
    obtain ⟨u, v, he, hu, hv⟩ := h
    cases u with
    | nil =>
      rw [List.nil_append] at he
      subst he
      obtain ⟨s, hs, hc⟩ := ihq hv
      rw [Pattern.opening, if_pos hu.nullable]
      exact ⟨s, List.mem_append_right _ hs, hc⟩
    | cons x u =>
      rw [List.cons_append, List.cons.injEq] at he
      obtain ⟨rfl, _⟩ := he
      obtain ⟨s, hs, hc⟩ := ihp hu
      rw [Pattern.opening]
      split
      · exact ⟨s, List.mem_append_left _ hs, hc⟩
      · exact ⟨s, hs, hc⟩
  | alt p q ihp ihq =>
    rw [Pattern.opening]
    rcases h with h | h
    · obtain ⟨s, hs, hc⟩ := ihp h
      exact ⟨s, List.mem_append_left _ hs, hc⟩
    · obtain ⟨s, hs, hc⟩ := ihq h
      exact ⟨s, List.mem_append_right _ hs, hc⟩
  | loop p least most greedy ih =>
    obtain ⟨ws, he, hws⟩ := h
    induction ws with
    | nil => simp at he
    | cons u ws ihw =>
      cases u with
      | nil => exact ihw (by simpa using he) fun u hu => hws u (List.mem_cons_of_mem _ hu)
      | cons x u =>
        rw [List.flatten_cons, List.cons_append, List.cons.injEq] at he
        obtain ⟨rfl, _⟩ := he
        exact ih (hws _ List.mem_cons_self)
  | lead p ih => exact ih h

/-! ## The lead -/

/-- The test that a shaped pattern begins with, if it has one. -/
def guard (edged : Bool) (behind ahead : Option Char) : Bool :=
  !edged || (Look.word .either CharSet.word).holds behind ahead

/-- A pattern that tests for the edge of a word at most, in front of everything, and then reads a
lead and a token. `body` is what is left of it without the test. -/
structure Shaped (p : Pattern) (edged : Bool) (body lead token : Pattern) : Prop where
  blind : body.blind = true
  not_nullable : token.nullable = false
  first_eq : ∀ behind cs,
    p.first? behind cs = if guard edged behind cs.head? then body.first? behind cs else none
  reads_only : ∀ c, (lead.mayRead c || token.mayRead c) = true → p.mayRead c = true
  divides : ∀ {h d : Place}, h.lead = none → d ∈ body.ends h →
    ∃ u v, Place.Reached h (u ++ v) d ∧ lead.Reads u ∧ token.Reads v ∧
      (d.lead = none ∧ u = [] ∨ d.lead = some (h.pos, h.pos + u.length))

/-- A pattern without a lead, behind the edge of a word. -/
theorem Shaped.ofEdge {q : Pattern} (hq : q.blind = true) (hl : q.hasLead = false)
    (hn : q.nullable = false) : Shaped (.seq wordEdge q) true q .empty q where
  blind := hq
  not_nullable := hn
  first_eq behind cs := by
    simp only [first?, ends, wordEdge, guard, Bool.not_true, Bool.false_or]
    rw [show (Place.start behind cs).behind = behind from rfl,
      show (Place.start behind cs).ahead = cs from rfl, Place.head?_distinct]
    split <;> simp
  reads_only c h := by simpa [mayRead, wordEdge] using h
  divides hh hd := by
    obtain ⟨w, hw, hr⟩ := ends_reached hq hd
    exact ⟨[], w, hw, rfl, hr, Or.inl ⟨by rw [lead_of_mem_ends hl hd, hh], rfl⟩⟩

theorem divides_seq_lead {r q : Pattern} (hr : r.blind = true) (hq : q.blind = true)
    (hl : q.hasLead = false) {h d : Place} (hd : d ∈ (Pattern.seq (.lead r) q).ends h) :
    ∃ u v, Place.Reached h (u ++ v) d ∧ r.Reads u ∧ q.Reads v ∧
      d.lead = some (h.pos, h.pos + u.length) := by
  obtain ⟨e, he, hd⟩ := List.mem_flatMap.mp (Place.mem_of_mem_distinct hd)
  obtain ⟨e', he', rfl⟩ := List.mem_map.mp he
  obtain ⟨u, hu, hru⟩ := ends_reached hr he'
  obtain ⟨v, hv, hqv⟩ := ends_reached hq hd
  have hle := lead_of_mem_ends hl hd
  rw [hu.pos] at hle
  exact ⟨u, v, hu.trans ⟨hv.ahead, hv.pos, hv.behind⟩, hru, hqv, hle⟩

/-- A lead and a token, anywhere. -/
theorem Shaped.ofLead {r q : Pattern} (hr : r.blind = true) (hq : q.blind = true)
    (hl : q.hasLead = false) (hn : q.nullable = false) :
    Shaped (.seq (.lead r) q) false (.seq (.lead r) q) r q where
  blind := by rw [Pattern.blind, Pattern.blind, hr, hq]; rfl
  not_nullable := hn
  first_eq behind cs := by simp [guard]
  reads_only c h := h
  divides _ hd := by
    obtain ⟨u, v, hw, hu, hv, hl⟩ := divides_seq_lead hr hq hl hd
    exact ⟨u, v, hw, hu, hv, Or.inr hl⟩

/-- A lead and a token, the lead behind the edge of a word. -/
theorem Shaped.ofEdgeLead {a b q : Pattern} (ha : a.blind = true) (hb : b.blind = true)
    (hq : q.blind = true) (hl : q.hasLead = false) (hn : q.nullable = false) :
    Shaped (.seq (.lead (.seq wordEdge (.seq a b))) q) true
      (.seq (.lead (.seq a b)) q) (.seq a b) q where
  blind := by simp [Pattern.blind, ha, hb, hq]
  not_nullable := hn
  first_eq behind cs := by
    simp only [first?, ends, wordEdge, guard, Bool.not_true, Bool.false_or]
    rw [show (Place.start behind cs).behind = behind from rfl,
      show (Place.start behind cs).ahead = cs from rfl]
    split
    · rw [List.flatMap_singleton, Place.distinct_distinct]
    · simp [Place.distinct, Place.distinctFrom]
  reads_only c h := by simpa [mayRead, wordEdge] using h
  divides _ hd := by
    obtain ⟨u, v, hw, hu, hv, hl⟩ :=
      divides_seq_lead (by rw [Pattern.blind, ha, hb]; rfl) hq hl hd
    exact ⟨u, v, hw, hu, hv, Or.inr hl⟩

namespace Shaped

variable {p body lead token : Pattern} {edged : Bool}

/-- A match reads a word of the lead, which it keeps, and one of the token. -/
theorem parts_of_match (hp : p.Shaped edged body lead token) {behind : Option Char}
    {cs : List Char} {d : Place} (h : p.first? behind cs = some d) :
    ∃ u v, Place.Reached (Place.start behind cs) (u ++ v) d ∧ lead.Reads u ∧ token.Reads v ∧
      v ≠ [] ∧ d.kept = u.length ∧ (d.lead = none ∧ u = [] ∨ d.lead = some (0, u.length)) := by
  rw [hp.first_eq] at h
  split at h
  · obtain ⟨u, v, hr, hu, hv, hl⟩ := hp.divides rfl (List.mem_of_head? h)
    have hne : v ≠ [] := by
      rintro rfl
      have := hv.nullable
      rw [hp.not_nullable] at this
      cases this
    have hl' : d.lead = none ∧ u = [] ∨ d.lead = some (0, u.length) := by
      simpa [Place.start] using hl
    refine ⟨u, v, hr, hu, hv, hne, ?_, hl'⟩
    rcases hl' with ⟨hl', rfl⟩ | hl' <;> simp [Place.kept, hl']
  · cases h

theorem head?_guard_append {behind : Option Char} {cs x : List Char} (hc : cs ≠ []) :
    guard edged behind (cs ++ x).head? = guard edged behind cs.head? := by
  cases cs with
  | nil => exact absurd rfl hc
  | cons c rest => rfl

theorem ne_nil_of_body (hp : p.Shaped edged body lead token) {behind : Option Char}
    {cs : List Char} {d : Place} (h : body.first? behind cs = some d) : cs ≠ [] := by
  rintro rfl
  obtain ⟨u, v, hr, _, hv, _⟩ := hp.divides rfl (List.mem_of_head? h)
  have ha : [] = (u ++ v) ++ d.ahead := hr.ahead
  rw [(List.append_eq_nil_iff.mp (List.append_eq_nil_iff.mp ha.symm).1).2] at hv
  have := hv.nullable
  rw [hp.not_nullable] at this
  cases this

theorem start_extend (behind : Option Char) (cs x : List Char) :
    Place.start behind (cs ++ x) = (Place.start behind cs).extend x := rfl

theorem steady (hp : p.Shaped edged body lead token) : p.Steady where
  reads h := by
    obtain ⟨u, v, hr, _, _, hv, _⟩ := hp.parts_of_match h
    exact ⟨u ++ v, by simp [hv], hr⟩
  keeps h := by
    obtain ⟨u, v, hr, _, _, hv, _, hl⟩ := hp.parts_of_match h
    have hpos := hr.pos
    have := List.length_pos_iff.mpr hv
    simp only [Place.start, List.length_append] at hpos
    rcases hl with ⟨hl, _⟩ | hl
    · exact Or.inl hl
    · exact Or.inr ⟨u.length, by omega, hl⟩
  extends_match {behind cs d} h x := by
    rw [hp.first_eq] at h
    split at h
    · rename_i hg
      rw [hp.first_eq, head?_guard_append (hp.ne_nil_of_body h), if_pos hg]
      have hmem : d ∈ (body.ends (Place.start behind (cs ++ x))).filterMap (Place.shorten x) := by
        rw [start_extend, ends_shorten hp.blind]
        exact List.mem_of_head? h
      obtain ⟨e, he, _⟩ := List.mem_filterMap.mp hmem
      rw [first?]
      cases hl : body.ends (Place.start behind (cs ++ x)) with
      | nil => rw [hl] at he; cases he
      | cons a l => rfl
    · cases h
  shortens {behind cs x d} h hd := by
    rw [hp.first_eq] at h
    split at h
    · rename_i hg
      obtain ⟨u, v, hr, _⟩ := hp.divides rfl (List.mem_of_head? h)
      have hlen : x.length ≤ d.ahead.length := by
        have := hr.sum
        simp only [Place.start, List.length_append] at this
        omega
      have hs : d.shorten x =
          some { d with ahead := d.ahead.take (d.ahead.length - x.length) } := by
        rw [Place.shorten, if_pos hlen]
      have hb : body.first? behind cs =
          some { d with ahead := d.ahead.take (d.ahead.length - x.length) } := by
        rw [first?, ← ends_shorten hp.blind (Place.start behind cs) x, ← start_extend]
        rw [first?] at h
        cases hl : body.ends (Place.start behind (cs ++ x)) with
        | nil => rw [hl] at h; cases h
        | cons a l =>
          rw [hl, List.head?_cons, Option.some.injEq] at h
          subst h
          rw [List.filterMap_cons_some hs, List.head?_cons]
      refine ⟨{ d with ahead := d.ahead.take (d.ahead.length - x.length) }, ?_, rfl, rfl⟩
      rw [hp.first_eq, ← head?_guard_append (x := x) (hp.ne_nil_of_body hb), if_pos hg]
      exact hb
    · cases h

/-- Two matches that read the same are the same, whatever stands in front of them. -/
theorem eq_of_unseen {behind behind' : Option Char} {cs w w' : List Char} {d d' : Place}
    (hr : Place.Reached (Place.start behind cs) w d)
    (hr' : Place.Reached (Place.start behind' cs) w' d') (hw : w ≠ [])
    (he : d.unseen = d'.unseen) : d = d' := by
  have ha : cs = w ++ d.ahead := hr.ahead
  have ha' : cs = w' ++ d'.ahead := hr'.ahead
  have hb := hr.behind
  have hb' := hr'.behind
  obtain ⟨b, ahead, pos, lead⟩ := d
  obtain ⟨b', ahead', pos', lead'⟩ := d'
  simp only [Place.unseen, Place.mk.injEq, true_and] at he
  obtain ⟨rfl, rfl, rfl⟩ := he
  obtain rfl : w = w' := List.append_cancel_right (ha.symm.trans ha')
  cases hl : w.getLast? with
  | none => exact absurd (List.getLast?_eq_none_iff.mp hl) hw
  | some c =>
    simp only [hl, Option.some_or] at hb hb'
    rw [hb, hb']

/-- What stands in front matters only for the edge. -/
theorem first?_behind (hp : p.Shaped edged body lead token) {behind behind' : Option Char}
    {cs : List Char} (hg : guard edged behind cs.head? = guard edged behind' cs.head?) :
    p.first? behind cs = p.first? behind' cs := by
  have hu : (Place.start behind cs).unseen = (Place.start behind' cs).unseen := rfl
  have he := congrArg List.head? (ends_unseen hp.blind hu)
  rw [List.head?_map, List.head?_map] at he
  cases h : p.first? behind cs with
  | none =>
    rw [hp.first_eq] at h ⊢
    rw [← hg]
    split at h
    · rw [first?] at h ⊢
      rw [h, Option.map_none] at he
      rw [Option.map_eq_none_iff.mp he.symm]
      split <;> rfl
    · rename_i hf
      rw [if_neg hf]
  | some d =>
    obtain ⟨u, v, hr, _, _, hv, _⟩ := hp.parts_of_match h
    rw [hp.first_eq] at h ⊢
    rw [← hg]
    split at h
    · rename_i ht
      rw [first?] at h
      rw [if_pos ht, first?]
      rw [h, Option.map_some] at he
      obtain ⟨d', hd', hdd⟩ := Option.map_eq_some_iff.mp he.symm
      obtain ⟨w', hr', _⟩ := ends_reached hp.blind (List.mem_of_head? hd')
      rw [hd', eq_of_unseen hr hr' (by simp [hv]) hdd.symm]
    · cases h

theorem body_of_match (hp : p.Shaped edged body lead token) {behind : Option Char}
    {cs : List Char} {d : Place} (h : p.first? behind cs = some d) :
    body.first? behind cs = some d := by
  rw [hp.first_eq] at h
  split at h
  · exact h
  · cases h

/-- What a match reads, the pattern can read without its test. -/
theorem reads_of_match (hp : p.Shaped edged body lead token) {behind : Option Char}
    {cs w : List Char} {d : Place} (h : p.first? behind cs = some d)
    (hr : Place.Reached (Place.start behind cs) w d) : body.Reads w := by
  obtain ⟨w', hr', hw⟩ := ends_reached hp.blind (List.mem_of_head? (hp.body_of_match h))
  rw [hr.unique hr']
  exact hw

theorem mayRead_of_match (hp : p.Shaped edged body lead token) {behind : Option Char}
    {cs w : List Char} {d : Place} (h : p.first? behind cs = some d)
    (hr : Place.Reached (Place.start behind cs) w d) {c : Char} (hc : c ∈ w) :
    p.mayRead c = true := by
  obtain ⟨u, v, hr', hu, hv, _⟩ := hp.parts_of_match h
  rw [hr.unique hr'] at hc
  refine hp.reads_only c ?_
  rw [Bool.or_eq_true]
  rcases List.mem_append.mp hc with hc | hc
  · exact Or.inl (hu.mayRead hc)
  · exact Or.inr (hv.mayRead hc)

/-- A character that the pattern cannot read belongs to no match. -/
theorem mayRead_of_mem_matched (hp : p.Shaped edged body lead token) {α : Type}
    {char : α → Char} {behind : Option Char} {xs : List α} {x : α}
    (hx : x ∈ p.matchedFrom char behind xs) : p.mayRead (char x) = true := by
  induction behind, xs using hp.steady.search_induct char with
  | nil behind =>
    rw [hp.steady.matchedFrom_nil] at hx
    cases hx
  | pass behind y rest h ih =>
    rw [Steady.matchedFrom_pass h] at hx
    exact ih hx
  | hit behind w rest d h hr hw ih =>
    rw [hp.steady.matchedFrom_hit h hr hw] at hx
    rcases List.mem_append.mp hx with hx | hx
    · exact hp.mayRead_of_match h hr (List.mem_map_of_mem hx)
    · exact ih hx

/-- A text with no part that the pattern reads has no match. -/
theorem occursAfter_of_infix (hp : p.Shaped edged body lead token) {cs : List Char}
    (h : ∀ v, v <:+: cs → ¬ body.Reads v) (behind : Option Char) :
    p.occursAfter behind cs = false := by
  induction cs generalizing behind with
  | nil => exact hp.steady.occursAfter_nil behind
  | cons c rest ih =>
    rw [occursAfter_cons_eq_false]
    refine ⟨?_, ih (fun v hv => h v (hv.trans (List.suffix_cons c rest).isInfix)) _⟩
    cases hd : p.first? behind (c :: rest) with
    | none => rfl
    | some d =>
      obtain ⟨w, _, hr⟩ := hp.steady.reads hd
      refine absurd (hp.reads_of_match hd hr) (h w ?_)
      exact List.IsPrefix.isInfix ⟨d.ahead, hr.ahead.symm⟩

/-- A pattern has no match in front of a character that it cannot begin with. -/
theorem first?_none_of_opening (hp : p.Shaped edged body lead token) {behind : Option Char}
    {c : Char} {rest : List Char} (h : ∀ s ∈ body.opening, s.contains c = false) :
    p.first? behind (c :: rest) = none := by
  cases hd : p.first? behind (c :: rest) with
  | none => rfl
  | some d =>
    obtain ⟨w, hw, hr⟩ := hp.steady.reads hd
    have hb := hp.reads_of_match hd hr
    obtain ⟨x, w, rfl⟩ := List.exists_cons_of_ne_nil hw
    have ha : c :: rest = x :: w ++ d.ahead := hr.ahead
    rw [List.cons_append, List.cons.injEq] at ha
    obtain ⟨s, hs, hc⟩ := hb.opening
    rw [← ha.1, h s hs] at hc
    cases hc

end Shaped

/-! ## Where a match stops -/

/-- A pattern that ends in as many members of a set as there are. -/
inductive EndsIn (s : CharSet) : Pattern → Prop
  | many (least : Nat) : EndsIn s (.many s least)
  | seq (p : Pattern) {q : Pattern} (h : EndsIn s q) : EndsIn s (.seq p q)

theorem head?_flatMap {α β : Type} {f : α → List β} {l : List α} {b : β}
    (h : (l.flatMap f).head? = some b) : ∃ a ∈ l, (f a).head? = some b := by
  induction l with
  | nil => cases h
  | cons a l ih =>
    rw [List.flatMap_cons, List.head?_append] at h
    cases ha : (f a).head? with
    | none =>
      rw [ha, Option.none_or] at h
      obtain ⟨x, hx, he⟩ := ih h
      exact ⟨x, List.mem_cons_of_mem _ hx, he⟩
    | some c =>
      rw [ha, Option.some_or] at h
      exact ⟨a, List.mem_cons_self, by rw [ha, h]⟩

theorem not_member_after_sweep {s : CharSet} {h d : Place}
    (hd : (h :: Place.sweep s h.pos h.lead h.ahead).getLast? = some d) {c : Char}
    (hc : d.ahead.head? = some c) : s.contains c = false := by
  obtain ⟨behind, ahead, pos, lead⟩ := h
  simp only at hd
  induction ahead generalizing behind pos with
  | nil =>
    simp [Place.sweep] at hd
    subst hd
    cases hc
  | cons x rest ih =>
    simp only [Place.sweep] at hd
    split at hd
    · rw [List.getLast?_cons_cons] at hd
      exact ih _ _ hd
    · rename_i hx
      simp at hd
      subst hd
      simp only [List.head?_cons, Option.some.injEq] at hc
      rw [← hc]
      simpa using hx

/-- No member of the set follows the preferred match. -/
theorem EndsIn.not_member {s : CharSet} {p : Pattern} (hp : EndsIn s p) {h d : Place}
    (hd : (p.ends h).head? = some d) {c : Char} (hc : d.ahead.head? = some c) :
    s.contains c = false := by
  induction hp generalizing h d with
  | many least =>
    simp only [Pattern.many, ends, Place.runs, Place.inOrder, if_true, List.head?_reverse] at hd
    refine not_member_after_sweep (h := h) ?_ hc
    rw [List.getLast?_drop] at hd
    split at hd
    · cases hd
    · exact hd
  | seq p hq ih =>
    simp only [ends, Place.head?_distinct] at hd
    obtain ⟨e, _, he⟩ := head?_flatMap hd
    exact ih he hc

/-- A run and its padding are both greedy: no member of the run's set follows the preferred match
unless the match ends in padding. -/
theorem not_member_or_padded {r : Pattern} {s : CharSet} {pad : Char} {least : Nat} {h d : Place}
    (hd : ((Pattern.seq r (.seq (.many s least) (.many (.single pad) 0))).ends h).head? = some d) :
    d.behind = some pad ∨ ∀ c, d.ahead.head? = some c → s.contains c = false := by
  simp only [ends, Place.head?_distinct] at hd
  obtain ⟨e, _, he⟩ := head?_flatMap hd
  rw [Place.head?_distinct] at he
  cases hl : (Pattern.many s least).ends e with
  | nil => rw [hl] at he; cases he
  | cons f l =>
    have hf : ((Pattern.many s least).ends e).head? = some f := by rw [hl]; rfl
    have hmem : d ∈ (Pattern.many (.single pad) 0).ends f := by
      rw [hl, List.flatMap_cons, List.head?_append] at he
      cases hn : ((Pattern.many (.single pad) 0).ends f).head? with
      | none =>
        simp [Pattern.many, ends, Place.runs, Place.inOrder] at hn
      | some x =>
        rw [hn, Option.some_or] at he
        exact List.mem_of_head? (hn.trans he)
    obtain ⟨w, hr, hall, _⟩ := Place.runs_reached hmem
    cases hw : w.getLast? with
    | some x =>
      left
      rw [hr.behind, hw, Option.some_or]
      rw [CharSet.contains_single.mp (hall x (List.mem_of_getLast? hw))]
    | none =>
      right
      intro c hc
      refine (EndsIn.many least).not_member hf ?_
      rw [hr.ahead, List.getLast?_eq_none_iff.mp hw]
      exact hc

end Pattern
end CallScribe
