import CallScribe.Proofs.Pattern.Search

/-!
# CallScribe.Proofs.Pattern.Gaps

The gaps that a search leaves, as texts for later searches.

* `Pattern.Parts`: after a match of one pattern, the search for another goes on as if a text began
  there.
* `Pattern.Steady.gapsFrom_quiet_self`, `Pattern.Steady.gapsFrom_quiet_other`: nothing matches in
  a gap, neither the pattern that was searched for nor one that had no match before.
* `Pattern.IsCut`: a stretch between masked elements.
* `Pattern.Steady.maskedFrom_of_isCut`: a search that finds no match around the ends of a stretch
  masks in it what it would mask if the stretch were a text of its own.
-/

namespace CallScribe
namespace Pattern

/-- After a match of `p`, the search for `q` goes on as if a text began there. -/
def Parts (p q : Pattern) : Prop :=
  ∀ {behind w rest d}, p.first? behind (w ++ rest) = some d →
    Place.Reached (Place.start behind (w ++ rest)) w d →
      ∀ x, x <+: rest → q.first? w.getLast? x = q.first? none x

namespace Steady

variable {p q : Pattern} {α : Type} {char : α → Char}

/-- Nothing matches in the gaps that a search leaves, given a property of the places that the
search comes by: it rules out a match of `q` where a character is passed and within leads. -/
theorem gapsFrom_quiet (hp : p.Steady) (hq : q.Steady) (hpq : p.Parts q) (char : α → Char)
    {R : Option Char → List α → Prop}
    (pass : ∀ {behind x rest}, R behind (x :: rest) →
      p.first? behind ((x :: rest).map char) = none →
      q.first? behind ((x :: rest).map char) = none ∧ R (some (char x)) rest)
    (lead : ∀ {behind w rest d}, R behind (w ++ rest) →
      p.first? behind ((w ++ rest).map char) = some d →
      Place.Reached (Place.start behind ((w ++ rest).map char)) (w.map char) d →
      q.occursAfter behind ((w.take d.kept).map char) = false ∧ R (w.map char).getLast? rest)
    (behind : Option Char) (xs : List α) (h : R behind xs) :
    ∃ g gs, p.gapsFrom char behind xs = g :: gs ∧ g <+: xs ∧
      q.occursAfter behind (g.map char) = false ∧
      ∀ g' ∈ gs, q.occursAfter none (g'.map char) = false := by
  induction behind, xs using hp.search_induct char with
  | nil behind =>
    exact ⟨[], [], hp.gapsFrom_nil behind, List.prefix_rfl, hq.occursAfter_nil behind, by simp⟩
  | pass behind x rest hn ih =>
    obtain ⟨hqn, hr⟩ := pass h hn
    obtain ⟨g, gs, he, hpre, hg, hgs⟩ := ih hr
    refine ⟨x :: g, gs, by rw [gapsFrom_pass hn, he]; rfl, List.cons_prefix_cons.mpr ⟨rfl, hpre⟩,
      ?_, hgs⟩
    obtain ⟨t, rfl⟩ := hpre
    rw [List.map_cons, occursAfter_cons_eq_false]
    refine ⟨hq.first?_none_of_append (x := t.map char) ?_, hg⟩
    rw [← List.map_cons, ← List.map_append, List.cons_append]
    exact hqn
  | hit behind w rest d hd hr hw ih =>
    obtain ⟨hl, hrest⟩ := lead h hd hr
    obtain ⟨g, gs, he, hpre, hg, hgs⟩ := ih hrest
    refine ⟨w.take d.kept, g :: gs, by rw [hp.gapsFrom_hit hd hr hw, he],
      (List.take_prefix _ _).trans (List.prefix_append _ _), hl, ?_⟩
    intro g' hg'
    rcases List.mem_cons.mp hg' with rfl | hg'
    · rw [List.map_append] at hd hr
      rw [← occursAfter_congr (hpq hd hr _ (hpre.map char))]
      exact hg
    · exact hgs g' hg'

/-- The gaps that a search leaves have no match of their own, if the leads that it keeps have
none. -/
theorem gapsFrom_quiet_self (hp : p.Steady) (hpp : p.Parts p)
    (lead : ∀ {behind w rest d}, p.first? behind (w ++ rest) = some d →
      Place.Reached (Place.start behind (w ++ rest)) w d →
      p.occursAfter behind (w.take d.kept) = false)
    {xs g : List α} (hg : g ∈ p.gapsFrom char none xs) : p.occursIn (g.map char) = false := by
  obtain ⟨g₀, gs, he, _, h₀, hgs⟩ := hp.gapsFrom_quiet hp hpp char (R := fun _ _ => True)
    (fun _ h => ⟨h, trivial⟩)
    (fun _ h hr => by
      rw [List.map_append] at h hr
      rw [List.map_take]
      exact ⟨lead h hr, trivial⟩)
    none xs trivial
  rw [he] at hg
  rcases List.mem_cons.mp hg with rfl | hg
  · exact h₀
  · exact hgs g hg

/-- A search for one pattern gives no other pattern a match that it did not have. -/
theorem gapsFrom_quiet_other (hp : p.Steady) (hq : q.Steady) (hpq : p.Parts q) {xs g : List α}
    (h : q.occursIn (xs.map char) = false) (hg : g ∈ p.gapsFrom char none xs) :
    q.occursIn (g.map char) = false := by
  obtain ⟨g₀, gs, he, _, h₀, hgs⟩ := hp.gapsFrom_quiet hq hpq char
    (R := fun behind xs => q.occursAfter behind (xs.map char) = false)
    (fun h _ => occursAfter_cons_eq_false.mp h)
    (fun {behind w rest d} h hd hr => by
      rw [List.map_append] at h
      constructor
      · rw [← List.take_append_drop d.kept w, List.map_append, List.append_assoc] at h
        exact hq.occursAfter_append_left h
      · have hw := (hp.pos_pos hd)
        have hl := hr.pos
        have := occursAfter_append_right h
        cases hg : (w.map char).getLast? with
        | none =>
          rw [List.getLast?_eq_none_iff.mp hg] at hl
          simp [Place.start] at hl
          omega
        | some c => rwa [hg, Option.some_or] at this)
    none xs h
  rw [he] at hg
  rcases List.mem_cons.mp hg with rfl | hg
  · exact h₀
  · exact hgs g hg

end Steady

/-- The stretch `s` of `u ++ s ++ v` lies between elements of `m`, and the search for `q` takes its
beginning for the beginning of a text. -/
structure IsCut (q : Pattern) {α : Type} (char : α → Char) (m u s v : List α) : Prop where
  left : ∀ y, u.getLast? = some y →
    y ∈ m ∧ ∀ x, x <+: s.map char → q.first? (some (char y)) x = q.first? none x
  right : ∀ z, v.head? = some z → z ∈ m

/-- A cut of a cut. -/
theorem IsCut.trans {q : Pattern} {α : Type} {char : α → Char} {m m' u v a g b : List α}
    (h : q.IsCut char m u (a ++ g ++ b) v) (h' : q.IsCut char m' a g b) :
    q.IsCut char (m ++ m') (u ++ a) g (b ++ v) where
  left y hy := by
    rw [List.getLast?_append] at hy
    cases ha : a.getLast? with
    | some x =>
      rw [ha, Option.some_or, Option.some.injEq] at hy
      subst hy
      obtain ⟨hm, hx⟩ := h'.left _ ha
      exact ⟨List.mem_append_right _ hm, hx⟩
    | none =>
      rw [ha, Option.none_or] at hy
      obtain ⟨hm, hx⟩ := h.left y hy
      refine ⟨List.mem_append_left _ hm, fun x hxg => hx x (hxg.trans ?_)⟩
      rw [List.getLast?_eq_none_iff.mp ha, List.nil_append]
      exact (List.prefix_append g b).map char
  right z hz := by
    cases hb : b with
    | nil =>
      rw [hb, List.nil_append] at hz
      exact List.mem_append_left _ (h.right z hz)
    | cons x b =>
      rw [hb, List.cons_append, List.head?_cons, Option.some.injEq] at hz
      subst hz
      exact List.mem_append_right _ (h'.right _ (by rw [hb]; rfl))

namespace Steady

variable {p q : Pattern} {α : Type} {char : α → Char}

/-- Every gap but the first lies behind something masked, and every gap but the last in front of
it. -/
theorem gapsFrom_cut (hp : p.Steady) (hpq : p.Parts q) (behind : Option Char) (xs : List α) :
    ∃ g gs, p.gapsFrom char behind xs = g :: gs ∧
      (∃ v, xs = g ++ v ∧ ∀ z, v.head? = some z → z ∈ p.maskedFrom char behind xs) ∧
      ∀ g' ∈ gs, ∃ u v, xs = u ++ g' ++ v ∧ u ≠ [] ∧
        q.IsCut char (p.maskedFrom char behind xs) u g' v := by
  induction behind, xs using hp.search_induct char with
  | nil behind => exact ⟨[], [], hp.gapsFrom_nil behind, ⟨[], rfl, by simp⟩, by simp⟩
  | pass behind x rest h ih =>
    obtain ⟨g, gs, he, ⟨v, hv, hz⟩, hgs⟩ := ih
    rw [gapsFrom_pass h, maskedFrom_pass h, he]
    refine ⟨x :: g, gs, rfl, ⟨v, by rw [hv, List.cons_append], hz⟩, fun g' hg' => ?_⟩
    obtain ⟨u, v, hx, hu, hc⟩ := hgs g' hg'
    refine ⟨x :: u, v, by rw [hx]; rfl, by simp, ⟨fun y hy => hc.left y ?_, hc.right⟩⟩
    obtain ⟨a, u, rfl⟩ := List.exists_cons_of_ne_nil hu
    rwa [List.getLast?_cons_cons] at hy
  | hit behind w rest d h hr hw ih =>
    obtain ⟨g, gs, he, ⟨v, hv, hz⟩, hgs⟩ := ih
    rw [hp.gapsFrom_hit h hr hw, hp.maskedFrom_hit h hr hw, he]
    have hpos := hr.pos_of_start
    have hk := hp.kept_lt h
    have hdrop : w.drop d.kept ≠ [] := by
      intro hnil
      have := congrArg List.length hnil
      simp only [List.length_drop, List.length_nil] at this
      omega
    have hlast : w.getLast? = (w.drop d.kept).getLast? := by
      rw [List.getLast?_drop, if_neg (by omega)]
    refine ⟨w.take d.kept, g :: gs, rfl, ⟨w.drop d.kept ++ rest, ?_, fun z hz => ?_⟩,
      fun g' hg' => ?_⟩
    · rw [← List.append_assoc, List.take_append_drop]
    · obtain ⟨a, t, hat⟩ := List.exists_cons_of_ne_nil hdrop
      rw [hat, List.cons_append, List.head?_cons, Option.some.injEq] at hz
      rw [hat, ← hz]
      simp
    · rcases List.mem_cons.mp hg' with rfl | hg'
      · refine ⟨w, v, by rw [List.append_assoc, ← hv], hw,
          ⟨fun y hy => ⟨?_, fun x hx => ?_⟩, fun z hv => List.mem_append_right _ (hz z hv)⟩⟩
        · rw [hlast] at hy
          exact List.mem_append_left _ (List.mem_of_getLast? hy)
        · rw [List.map_append] at h hr
          have hpre : x <+: rest.map char := by
            rw [hv, List.map_append]
            exact hx.trans (List.prefix_append _ _)
          rw [← hpq h hr x hpre, List.getLast?_map, hy]
          rfl
      · obtain ⟨u, v, hx, hu, hc⟩ := hgs g' hg'
        refine ⟨w ++ u, v, by rw [hx]; simp only [List.append_assoc], by simp [hu],
          ⟨fun y hy => ?_, fun z hz => List.mem_append_right _ (hc.right z hz)⟩⟩
        have hy' : u.getLast? = some y := by
          rw [List.getLast?_append] at hy
          cases hul : u.getLast? with
          | none => exact absurd (List.getLast?_eq_none_iff.mp hul) hu
          | some a => rwa [hul, Option.some_or] at hy
        obtain ⟨hm, hx⟩ := hc.left y hy'
        exact ⟨List.mem_append_right _ hm, hx⟩

theorem maskedFrom_of_left (hq : q.Steady) {u s : List α}
    (h : ∀ y, u.getLast? = some y → y ∉ q.matchedFrom char none (u ++ s) ∧
      q.first? (some (char y)) (s.map char) = q.first? none (s.map char)) :
    ∃ a, q.maskedFrom char none (u ++ s) = a ++ q.maskedFrom char none s ∧ a ⊆ u := by
  rcases List.eq_nil_or_concat u with rfl | ⟨u, y, rfl⟩
  · exact ⟨[], rfl, List.Subset.refl _⟩
  · obtain ⟨hy, hs⟩ := h y (by simp)
    rw [List.concat_eq_append, List.append_assoc, List.singleton_append] at hy ⊢
    refine ⟨q.maskedFrom char none u, ?_, fun x hx => ?_⟩
    · rw [hq.maskedFrom_split hy, maskedFrom, maskedFrom, maskedFrom, scan_congr hs]
    · exact List.mem_append_left _ (hq.maskedFrom_subset none u hx)

/-- A stretch between elements outside all matches is searched as if it were a text. -/
theorem maskedFrom_of_isCut (hq : q.Steady) {m u s v : List α} (hc : q.IsCut char m u s v)
    (hm : ∀ y ∈ m, y ∉ q.matchedFrom char none (u ++ s ++ v)) :
    ∃ a b, q.maskedFrom char none (u ++ s ++ v) = a ++ q.maskedFrom char none s ++ b ∧
      a ⊆ u ∧ b ⊆ v := by
  have hleft : ∀ y, u.getLast? = some y →
      q.first? (some (char y)) (s.map char) = q.first? none (s.map char) :=
    fun y hy => (hc.left y hy).2 _ List.prefix_rfl
  cases v with
  | nil =>
    rw [List.append_nil] at hm ⊢
    obtain ⟨a, ha, hau⟩ := hq.maskedFrom_of_left fun y hy =>
      ⟨hm y (hc.left y hy).1, hleft y hy⟩
    exact ⟨a, [], by rw [ha, List.append_nil], hau, List.Subset.refl _⟩
  | cons z v =>
    have hz := hm z (hc.right z rfl)
    rw [hq.matchedFrom_split hz] at hm
    obtain ⟨a, ha, hau⟩ := hq.maskedFrom_of_left fun y hy =>
      ⟨fun hmem => hm y (hc.left y hy).1 (List.mem_append_left _ hmem), hleft y hy⟩
    refine ⟨a, q.maskedFrom char (some (char z)) v, by rw [hq.maskedFrom_split hz, ha], hau, ?_⟩
    exact fun x hx => List.mem_cons_of_mem z (hq.maskedFrom_subset _ v hx)

end Steady

end Pattern
end CallScribe
