import CallScribe.Proofs.Pattern.Reading

/-!
# CallScribe.Proofs.Pattern.Search

The search for all matches of a text, and what it leaves.

* `Edit.gaps`, `Edit.masked`, `Edit.matched`: what a list of edits keeps between its masks, what it
  masks, and what belongs to a match, be it kept as the lead or masked.
* `Edit.run_eq_intercalate`: running edits puts one marker between neighbouring gaps.
* `Pattern.Steady`: a pattern whose matches read something, keep at most a beginning, and do not
  depend on the text behind them.
* `Pattern.Steady.search_induct`: induction along the search, one case for a character that is
  passed and one for a match.
* `Pattern.Steady.scan_split`: at an element outside all matches the search falls into two
  searches that know nothing of each other.

The lists that edits are run on may carry more than characters; `char` gives the character of an
element.
-/

namespace CallScribe

namespace Edit

variable {α : Type}

/-- The stretches between the masks. -/
def gaps : List Edit → List α → List (List α)
  | [], xs => [xs]
  | .keep n :: es, xs => (gaps es (xs.drop n)).modifyHead (xs.take n ++ ·)
  | .drop n :: es, xs => gaps es (xs.drop n)
  | .mask n :: es, xs => [] :: gaps es (xs.drop n)

/-- The elements that are masked. -/
def masked : List Edit → List α → List α
  | [], _ => []
  | .keep n :: es, xs | .drop n :: es, xs => masked es (xs.drop n)
  | .mask n :: es, xs => xs.take n ++ masked es (xs.drop n)

/-- The elements of matches. A match that keeps a lead is told by the edit in front of it. -/
def matched : List Edit → List α → List α
  | [], _ => []
  | .drop a :: .keep k :: .mask n :: es, xs =>
    xs.take (a + k + n) ++ matched es (xs.drop (a + k + n))
  | .mask n :: es, xs => xs.take n ++ matched es (xs.drop n)
  | .keep n :: es, xs | .drop n :: es, xs => matched es (xs.drop n)

theorem gaps_ne_nil (es : List Edit) (xs : List α) : gaps es xs ≠ [] := by
  induction es generalizing xs with
  | nil => simp [gaps]
  | cons e es ih =>
    cases e with
    | keep n =>
      simp only [gaps]
      cases h : gaps es (xs.drop n) with
      | nil => exact absurd h (ih _)
      | cons g gs => simp
    | drop n => exact ih _
    | mask n => simp [gaps]

/-- The number of elements that an edit is about. -/
def width : Edit → Nat
  | .keep n | .drop n | .mask n => n

def widths : List Edit → Nat
  | [] => 0
  | e :: es => e.width + widths es

theorem widths_append (es fs : List Edit) : widths (es ++ fs) = widths es + widths fs := by
  induction es with
  | nil => rw [List.nil_append, widths, Nat.zero_add]
  | cons e es ih => rw [List.cons_append, widths, widths, ih, Nat.add_assoc]

theorem run_append {mark : List α} {es fs : List Edit} {xs ys : List α}
    (h : widths es = xs.length) :
    run mark (es ++ fs) (xs ++ ys) = run mark es xs ++ run mark fs ys := by
  induction es generalizing xs with
  | nil =>
    have : xs = [] := List.length_eq_zero_iff.mp h.symm
    subst this
    rfl
  | cons e es ih =>
    rw [widths] at h
    have hl : e.width ≤ xs.length := by omega
    have hd : widths es = (xs.drop e.width).length := by
      rw [List.length_drop]; omega
    have hrun := ih hd
    rw [← List.drop_append_of_le_length hl] at hrun
    cases e with
    | keep n =>
      simp only [width] at hl hrun
      rw [List.cons_append, run, run, hrun, List.take_append_of_le_length hl, List.append_assoc]
    | drop n =>
      simp only [width] at hrun
      rw [List.cons_append, run, run, hrun]
    | mask n =>
      simp only [width] at hrun
      rw [List.cons_append, run, run, hrun, List.append_assoc]

theorem run_replicate_keep (mark : List α) (n : Nat) (xs : List α) :
    run mark (List.replicate n (.keep 1)) xs = xs := by
  induction n generalizing xs with
  | zero => rfl
  | succ n ih => rw [List.replicate_succ, run, ih, List.take_append_drop]

theorem run_eq_intercalate (mark : List α) (es : List Edit) (xs : List α) :
    run mark es xs = mark.intercalate (gaps es xs) := by
  induction es generalizing xs with
  | nil => simp [run, gaps]
  | cons e es ih =>
    cases e with
    | keep n =>
      rw [run, gaps, ih]
      cases h : gaps es (xs.drop n) with
      | nil => exact absurd h (gaps_ne_nil _ _)
      | cons g gs => cases gs <;> simp
    | drop n => rw [run, gaps, ih]
    | mask n =>
      rw [run, gaps, ih, List.intercalate_cons_of_ne_nil (gaps_ne_nil _ _)]
      simp

theorem map_run {β : Type} (f : α → β) (mark : List α) (es : List Edit) (xs : List α) :
    (run mark es xs).map f = run (mark.map f) es (xs.map f) := by
  induction es generalizing xs with
  | nil => rfl
  | cons e es ih =>
    cases e <;> simp [run, ih, List.map_take, List.map_drop]

end Edit

namespace Place

/-- How many characters of a match are kept. -/
def kept (d : Place) : Nat :=
  match d.lead with
  | none => 0
  | some (_, b) => b

end Place

namespace Pattern

/-- A pattern whose matches read something, keep at most a beginning of what they read, and do not
depend on the text behind them. -/
structure Steady (p : Pattern) : Prop where
  reads : ∀ {behind cs d}, p.first? behind cs = some d →
    ∃ w, w ≠ [] ∧ Place.Reached (Place.start behind cs) w d
  keeps : ∀ {behind cs d}, p.first? behind cs = some d →
    d.lead = none ∨ ∃ n, n < d.pos ∧ d.lead = some (0, n)
  extends_match : ∀ {behind cs d}, p.first? behind cs = some d → ∀ x,
    (p.first? behind (cs ++ x)).isSome = true
  shortens : ∀ {behind cs x d}, p.first? behind (cs ++ x) = some d → d.pos ≤ cs.length →
    ∃ e, p.first? behind cs = some e ∧ e.pos = d.pos ∧ e.lead = d.lead

namespace Steady

variable {p : Pattern} {α : Type}

theorem first?_nil (hp : p.Steady) (behind : Option Char) : p.first? behind [] = none := by
  cases h : p.first? behind [] with
  | none => rfl
  | some d =>
    obtain ⟨w, hw, hr⟩ := hp.reads h
    have := hr.ahead
    simp [Place.start] at this
    exact absurd this.1 hw

theorem pos_pos (hp : p.Steady) {behind : Option Char} {cs : List Char} {d : Place}
    (h : p.first? behind cs = some d) : 0 < d.pos := by
  obtain ⟨w, hw, hr⟩ := hp.reads h
  have := hr.pos
  have := List.length_pos_iff.mpr hw
  simp only [Place.start] at *
  omega

/-- Less text can only lose a match. -/
theorem first?_none_of_append (hp : p.Steady) {behind : Option Char} {cs x : List Char}
    (h : p.first? behind (cs ++ x) = none) : p.first? behind cs = none := by
  cases hd : p.first? behind cs with
  | none => rfl
  | some d =>
    have := hp.extends_match hd x
    rw [h] at this
    cases this

end Steady

/-- Passing over characters that belong to a match. -/
theorem scan_skip (p : Pattern) (behind : Option Char) (fresh : Bool) (w rest : List Char) :
    p.scan behind w.length fresh (w ++ rest) = p.scan (w.getLast?.or behind) 0 fresh rest := by
  induction w generalizing behind with
  | nil => simp
  | cons c w ih =>
    rw [List.cons_append, List.length_cons, scan, ih, List.getLast?_cons]
    cases w.getLast? <;> simp

namespace Steady

variable {p : Pattern} {α : Type}

theorem scan_nil (hp : p.Steady) (behind : Option Char) (skip : Nat) (fresh : Bool) :
    p.scan behind skip fresh [] = [] := by
  simp [scan, hp.first?_nil]

theorem scan_pass {behind : Option Char} {c : Char} {rest : List Char}
    (h : p.first? behind (c :: rest) = none) (fresh : Bool) :
    p.scan behind 0 fresh (c :: rest) = .keep 1 :: p.scan (some c) 0 true rest := by
  simp [scan, h]

/-- A match always reads something, so it does not matter where the one before it ended. -/
theorem scan_fresh (hp : p.Steady) (behind : Option Char) (fresh : Bool) (cs : List Char) :
    p.scan behind 0 fresh cs = p.scan behind 0 true cs := by
  cases cs with
  | nil => rw [hp.scan_nil, hp.scan_nil]
  | cons c rest =>
    cases h : p.first? behind (c :: rest) with
    | none => rw [scan_pass h, scan_pass h]
    | some d =>
      have := hp.pos_pos h
      simp [scan, h, show d.pos ≠ 0 from by omega]

theorem scan_hit (hp : p.Steady) {behind : Option Char} {w rest : List Char} {d : Place}
    (h : p.first? behind (w ++ rest) = some d)
    (hr : Place.Reached (Place.start behind (w ++ rest)) w d) (hw : w ≠ []) :
    p.scan behind 0 true (w ++ rest) = d.edits ++ p.scan w.getLast? 0 true rest := by
  cases w with
  | nil => exact absurd rfl hw
  | cons c w =>
    have hpos : d.pos = w.length + 1 := by simpa [Place.start] using hr.pos
    rw [List.cons_append] at h ⊢
    rw [scan, h]
    simp only [hpos, Nat.add_eq_zero_iff, Nat.one_ne_zero, and_false, if_false,
      Nat.add_sub_cancel]
    rw [scan_skip, hp.scan_fresh, List.getLast?_cons]
    cases w.getLast? <;> simp

/-- The edits of a match keep its lead and mask the rest. -/
theorem edits_eq (hp : p.Steady) {behind : Option Char} {cs : List Char} {d : Place}
    (h : p.first? behind cs = some d) :
    d.edits = [.mask d.pos] ∧ d.kept = 0 ∨
      d.edits = [.drop 0, .keep d.kept, .mask (d.pos - d.kept)] ∧ d.kept < d.pos := by
  rcases hp.keeps h with hl | ⟨n, hn, hl⟩
  · exact Or.inl ⟨by simp [Place.edits, hl], by simp [Place.kept, hl]⟩
  · exact Or.inr ⟨by simp [Place.edits, Place.kept, hl], by simpa [Place.kept, hl] using hn⟩

theorem kept_lt (hp : p.Steady) {behind : Option Char} {cs : List Char} {d : Place}
    (h : p.first? behind cs = some d) : d.kept < d.pos := by
  rcases hp.edits_eq h with ⟨_, hk⟩ | ⟨_, hk⟩
  · rw [hk]; exact hp.pos_pos h
  · exact hk

end Steady

/-- What the search leaves of a text between its masks. -/
def gapsFrom (p : Pattern) {α : Type} (char : α → Char) (behind : Option Char) (xs : List α) :
    List (List α) := Edit.gaps (p.scan behind 0 true (xs.map char)) xs

theorem gapsFrom_ne_nil (p : Pattern) {α : Type} (char : α → Char) (behind : Option Char)
    (xs : List α) : p.gapsFrom char behind xs ≠ [] := Edit.gaps_ne_nil _ _

/-- What the search masks. -/
def maskedFrom (p : Pattern) {α : Type} (char : α → Char) (behind : Option Char) (xs : List α) :
    List α := Edit.masked (p.scan behind 0 true (xs.map char)) xs

/-- What the search finds to be part of a match. -/
def matchedFrom (p : Pattern) {α : Type} (char : α → Char) (behind : Option Char) (xs : List α) :
    List α := Edit.matched (p.scan behind 0 true (xs.map char)) xs

namespace Steady

variable {p : Pattern} {α : Type} {char : α → Char}

/-- Induction along the search: a character at which no match begins is passed, and after a match
the search goes on behind it. -/
theorem search_induct (hp : p.Steady) (char : α → Char) {motive : Option Char → List α → Prop}
    (nil : ∀ behind, motive behind [])
    (pass : ∀ behind x rest, p.first? behind ((x :: rest).map char) = none →
      motive (some (char x)) rest → motive behind (x :: rest))
    (hit : ∀ behind w rest d, p.first? behind ((w ++ rest).map char) = some d →
      Place.Reached (Place.start behind ((w ++ rest).map char)) (w.map char) d → w ≠ [] →
      motive (w.map char).getLast? rest → motive behind (w ++ rest))
    (behind : Option Char) (xs : List α) : motive behind xs := by
  generalize hn : xs.length = n
  induction n using Nat.strongRecOn generalizing behind xs with
  | _ n ih =>
    cases xs with
    | nil => exact nil behind
    | cons x rest =>
      cases h : p.first? behind ((x :: rest).map char) with
      | none =>
        exact pass behind x rest h (ih rest.length (by simp at hn; omega) _ _ rfl)
      | some d =>
        obtain ⟨w, hw, hr⟩ := hp.reads h
        have ha : (x :: rest).map char = w ++ d.ahead := hr.ahead
        obtain ⟨ws, rs, hx, rfl, _⟩ := List.map_eq_append_iff.mp ha
        have hws : ws ≠ [] := fun hnil => hw (by simp [hnil])
        have := List.length_pos_iff.mpr hws
        rw [hx] at h hr hn ⊢
        refine hit behind ws rs d h hr hws (ih rs.length ?_ _ _ rfl)
        rw [List.length_append] at hn
        omega

theorem gapsFrom_nil (hp : p.Steady) (behind : Option Char) :
    p.gapsFrom char behind ([] : List α) = [[]] := by
  simp [gapsFrom, hp.scan_nil, Edit.gaps]

theorem gapsFrom_pass {behind : Option Char} {x : α} {rest : List α}
    (h : p.first? behind ((x :: rest).map char) = none) :
    p.gapsFrom char behind (x :: rest) =
      (p.gapsFrom char (some (char x)) rest).modifyHead (x :: ·) := by
  rw [gapsFrom, List.map_cons, scan_pass h]
  rfl

theorem gapsFrom_hit (hp : p.Steady) {behind : Option Char} {w rest : List α} {d : Place}
    (h : p.first? behind ((w ++ rest).map char) = some d)
    (hr : Place.Reached (Place.start behind ((w ++ rest).map char)) (w.map char) d)
    (hw : w ≠ []) :
    p.gapsFrom char behind (w ++ rest) =
      w.take d.kept :: p.gapsFrom char (w.map char).getLast? rest := by
  have hpos := hr.pos_of_start
  have hk := hp.kept_lt h
  rw [List.map_append] at h hr
  rw [gapsFrom, List.map_append, hp.scan_hit h hr (by simpa using hw)]
  rcases hp.edits_eq h with ⟨he, hk0⟩ | ⟨he, _⟩
  · rw [he, hk0, hpos]
    simp [Edit.gaps, gapsFrom]
  · rw [he, hpos]
    simp only [List.cons_append, List.nil_append, Edit.gaps, List.drop_zero, List.drop_drop,
      List.modifyHead_cons]
    rw [List.take_append_of_le_length (by omega), List.append_nil,
      show d.kept + (w.length - d.kept) = w.length from by omega, List.drop_left]
    rfl

theorem maskedFrom_nil (hp : p.Steady) (behind : Option Char) :
    p.maskedFrom char behind ([] : List α) = [] := by
  simp [maskedFrom, hp.scan_nil, Edit.masked]

theorem maskedFrom_pass {behind : Option Char} {x : α} {rest : List α}
    (h : p.first? behind ((x :: rest).map char) = none) :
    p.maskedFrom char behind (x :: rest) = p.maskedFrom char (some (char x)) rest := by
  rw [maskedFrom, List.map_cons, scan_pass h]
  rfl

theorem maskedFrom_hit (hp : p.Steady) {behind : Option Char} {w rest : List α} {d : Place}
    (h : p.first? behind ((w ++ rest).map char) = some d)
    (hr : Place.Reached (Place.start behind ((w ++ rest).map char)) (w.map char) d)
    (hw : w ≠ []) :
    p.maskedFrom char behind (w ++ rest) =
      w.drop d.kept ++ p.maskedFrom char (w.map char).getLast? rest := by
  have hpos := hr.pos_of_start
  have hk := hp.kept_lt h
  rw [List.map_append] at h hr
  rw [maskedFrom, List.map_append, hp.scan_hit h hr (by simpa using hw)]
  rcases hp.edits_eq h with ⟨he, hk0⟩ | ⟨he, _⟩
  · rw [he, hk0, hpos]
    simp [Edit.masked, maskedFrom]
  · rw [he, hpos]
    simp only [List.cons_append, List.nil_append, Edit.masked, List.drop_zero, List.drop_drop]
    rw [List.drop_append_of_le_length (by omega),
      List.take_append_of_le_length (by simp),
      show d.kept + (w.length - d.kept) = w.length from by omega, List.drop_left]
    congr 1
    rw [List.take_of_length_le (by simp)]

theorem matchedFrom_nil (hp : p.Steady) (behind : Option Char) :
    p.matchedFrom char behind ([] : List α) = [] := by
  simp [matchedFrom, hp.scan_nil, Edit.matched]

theorem matchedFrom_pass {behind : Option Char} {x : α} {rest : List α}
    (h : p.first? behind ((x :: rest).map char) = none) :
    p.matchedFrom char behind (x :: rest) = p.matchedFrom char (some (char x)) rest := by
  rw [matchedFrom, List.map_cons, scan_pass h]
  rfl

theorem matchedFrom_hit (hp : p.Steady) {behind : Option Char} {w rest : List α} {d : Place}
    (h : p.first? behind ((w ++ rest).map char) = some d)
    (hr : Place.Reached (Place.start behind ((w ++ rest).map char)) (w.map char) d)
    (hw : w ≠ []) :
    p.matchedFrom char behind (w ++ rest) =
      w ++ p.matchedFrom char (w.map char).getLast? rest := by
  have hpos := hr.pos_of_start
  have hk := hp.kept_lt h
  rw [List.map_append] at h hr
  rw [matchedFrom, List.map_append, hp.scan_hit h hr (by simpa using hw)]
  rcases hp.edits_eq h with ⟨he, hk0⟩ | ⟨he, _⟩
  · rw [he, hpos]
    simp [Edit.matched, matchedFrom]
  · rw [he, hpos]
    simp only [List.cons_append, List.nil_append, Edit.matched]
    rw [show 0 + d.kept + (w.length - d.kept) = w.length from by omega, List.take_left,
      List.drop_left]
    rfl

/-- Induction along the part of a text in front of an element outside all matches. Whatever the
search meets there, it meets as well in that part alone. -/
theorem split_induct (hp : p.Steady) (char : α → Char) {y : α} {v : List α}
    {motive : Option Char → List α → Prop}
    (stop : ∀ behind, p.first? behind ((y :: v).map char) = none → motive behind [])
    (pass : ∀ behind x u, p.first? behind ((x :: (u ++ y :: v)).map char) = none →
      p.first? behind ((x :: u).map char) = none → motive (some (char x)) u →
      motive behind (x :: u))
    (hit : ∀ behind w u d e, p.first? behind ((w ++ (u ++ y :: v)).map char) = some d →
      Place.Reached (Place.start behind ((w ++ (u ++ y :: v)).map char)) (w.map char) d →
      p.first? behind ((w ++ u).map char) = some e →
      Place.Reached (Place.start behind ((w ++ u).map char)) (w.map char) e →
      e.pos = d.pos → e.lead = d.lead → w ≠ [] → motive (w.map char).getLast? u →
      motive behind (w ++ u))
    {behind : Option Char} {u : List α}
    (hy : y ∉ p.matchedFrom char behind (u ++ y :: v)) : motive behind u := by
  generalize hx : u ++ y :: v = xs at hy
  induction behind, xs using hp.search_induct char generalizing u with
  | nil behind => simp at hx
  | pass behind x rest h ih =>
    rw [matchedFrom_pass h] at hy
    cases u with
    | nil =>
      simp only [List.nil_append, List.cons.injEq] at hx
      obtain ⟨rfl, rfl⟩ := hx
      exact stop behind h
    | cons a u =>
      simp only [List.cons_append, List.cons.injEq] at hx
      obtain ⟨rfl, rfl⟩ := hx
      have hn : p.first? behind ((a :: u).map char) = none := by
        refine hp.first?_none_of_append (x := (y :: v).map char) ?_
        rw [← List.map_append, List.cons_append]
        exact h
      exact pass behind a u h hn (ih rfl hy)
  | hit behind w rest d h hr hw ih =>
    rw [hp.matchedFrom_hit h hr hw, List.mem_append, not_or] at hy
    have hu : ∃ u', u = w ++ u' ∧ rest = u' ++ y :: v := by
      rcases List.append_eq_append_iff.mp hx with ⟨z, hw', hz⟩ | ⟨z, hu, hz⟩
      · cases z with
        | nil => exact ⟨[], by simpa using hw'.symm, by simpa using hz.symm⟩
        | cons b z =>
          simp only [List.cons_append, List.cons.injEq] at hz
          exact absurd (by rw [hw', hz.1]; simp) hy.1
      · exact ⟨z, hu, hz⟩
    obtain ⟨u', rfl, rfl⟩ := hu
    have hpos := hr.pos_of_start
    have hd : ∃ e, p.first? behind ((w ++ u').map char) = some e ∧ e.pos = d.pos ∧
        e.lead = d.lead := by
      refine hp.shortens (x := (y :: v).map char) ?_ (by simp [hpos])
      rw [← List.map_append, List.append_assoc]
      exact h
    obtain ⟨e, he, hep, hel⟩ := hd
    have hre : Place.Reached (Place.start behind ((w ++ u').map char)) (w.map char) e := by
      obtain ⟨w', hw', hr'⟩ := hp.reads he
      have hwl : w'.length = (w.map char).length := by
        have := hr'.pos
        simp only [Place.start] at this
        simp; omega
      have ha : (w ++ u').map char = w' ++ e.ahead := hr'.ahead
      rw [List.map_append] at ha
      rw [(List.append_inj ha hwl.symm).1]
      exact hr'
    exact hit behind w u' d e h hr he hre hep hel hw (ih rfl hy.2)

/-- At an element outside all matches the search falls into two. -/
theorem scan_split (hp : p.Steady) {behind : Option Char} {u v : List α} {y : α}
    (hy : y ∉ p.matchedFrom char behind (u ++ y :: v)) :
    p.scan behind 0 true ((u ++ y :: v).map char) =
      p.scan behind 0 true (u.map char) ++
        .keep 1 :: p.scan (some (char y)) 0 true (v.map char) := by
  refine hp.split_induct char (motive := fun behind u =>
    p.scan behind 0 true ((u ++ y :: v).map char) = p.scan behind 0 true (u.map char) ++
      .keep 1 :: p.scan (some (char y)) 0 true (v.map char)) ?_ ?_ ?_ hy
  · intro behind h
    rw [List.nil_append, List.map_cons, scan_pass h, List.map_nil, hp.scan_nil, List.nil_append]
  · intro behind x u h hn ih
    rw [List.cons_append, List.map_cons, scan_pass h, ih, List.map_cons, scan_pass hn,
      List.cons_append]
  · intro behind w u d e h hr he hre hep hel hw ih
    have hed : e.edits = d.edits := by simp only [Place.edits, hep, hel]
    rw [List.map_append] at h hr he hre
    rw [List.append_assoc, List.map_append, hp.scan_hit h hr (by simpa using hw), ih,
      List.map_append, hp.scan_hit he hre (by simpa using hw), hed, List.append_assoc]

theorem matchedFrom_split (hp : p.Steady) {behind : Option Char} {u v : List α} {y : α}
    (hy : y ∉ p.matchedFrom char behind (u ++ y :: v)) :
    p.matchedFrom char behind (u ++ y :: v) =
      p.matchedFrom char behind u ++ p.matchedFrom char (some (char y)) v := by
  refine hp.split_induct char (motive := fun behind u =>
    p.matchedFrom char behind (u ++ y :: v) =
      p.matchedFrom char behind u ++ p.matchedFrom char (some (char y)) v) ?_ ?_ ?_ hy
  · intro behind h
    rw [List.nil_append, matchedFrom_pass h, hp.matchedFrom_nil, List.nil_append]
  · intro behind x u h hn ih
    rw [List.cons_append, matchedFrom_pass h, ih, matchedFrom_pass hn]
  · intro behind w u d e h hr he hre _ _ hw ih
    rw [List.append_assoc, hp.matchedFrom_hit h hr hw, ih, hp.matchedFrom_hit he hre hw,
      List.append_assoc]

theorem maskedFrom_split (hp : p.Steady) {behind : Option Char} {u v : List α} {y : α}
    (hy : y ∉ p.matchedFrom char behind (u ++ y :: v)) :
    p.maskedFrom char behind (u ++ y :: v) =
      p.maskedFrom char behind u ++ p.maskedFrom char (some (char y)) v := by
  refine hp.split_induct char (motive := fun behind u =>
    p.maskedFrom char behind (u ++ y :: v) =
      p.maskedFrom char behind u ++ p.maskedFrom char (some (char y)) v) ?_ ?_ ?_ hy
  · intro behind h
    rw [List.nil_append, maskedFrom_pass h, hp.maskedFrom_nil, List.nil_append]
  · intro behind x u h hn ih
    rw [List.cons_append, maskedFrom_pass h, ih, maskedFrom_pass hn]
  · intro behind w u d e h hr he hre _ hel hw ih
    have hk : e.kept = d.kept := by simp only [Place.kept, hel]
    rw [List.append_assoc, hp.maskedFrom_hit h hr hw, ih, hp.maskedFrom_hit he hre hw, hk,
      List.append_assoc]

/-- Every element is either masked or left. -/
theorem masked_append_gaps_perm (hp : p.Steady) (behind : Option Char) (xs : List α) :
    (p.maskedFrom char behind xs ++ (p.gapsFrom char behind xs).flatten).Perm xs := by
  induction behind, xs using hp.search_induct char with
  | nil behind => simp [hp.maskedFrom_nil, hp.gapsFrom_nil]
  | pass behind x rest h ih =>
    rw [maskedFrom_pass h, gapsFrom_pass h]
    cases hg : p.gapsFrom char (some (char x)) rest with
    | nil => exact absurd hg (p.gapsFrom_ne_nil char _ _)
    | cons g gs =>
      rw [hg] at ih
      rw [List.modifyHead_cons, List.flatten_cons, List.cons_append]
      exact List.perm_middle.trans (ih.cons x)
  | hit behind w rest d h hr hw ih =>
    rw [hp.maskedFrom_hit h hr hw, hp.gapsFrom_hit h hr hw, List.flatten_cons]
    have hmove := List.perm_append_comm_assoc
      (w.drop d.kept ++ p.maskedFrom char (w.map char).getLast? rest) (w.take d.kept)
      (p.gapsFrom char (w.map char).getLast? rest).flatten
    have hjoin : w.take d.kept ++ (w.drop d.kept ++ p.maskedFrom char (w.map char).getLast? rest ++
          (p.gapsFrom char (w.map char).getLast? rest).flatten) =
        w ++ (p.maskedFrom char (w.map char).getLast? rest ++
          (p.gapsFrom char (w.map char).getLast? rest).flatten) := by
      rw [List.append_assoc, ← List.append_assoc, List.take_append_drop]
    exact hmove.trans (hjoin ▸ ih.append_left w)

theorem maskedFrom_subset (hp : p.Steady) (behind : Option Char) (xs : List α) :
    p.maskedFrom char behind xs ⊆ xs := fun _ hx =>
  (hp.masked_append_gaps_perm behind xs).subset (List.mem_append_left _ hx)

end Steady

/-! ## Texts without a match -/

theorem occursAfter_cons_eq_false {p : Pattern} {behind : Option Char} {c : Char}
    {rest : List Char} : p.occursAfter behind (c :: rest) = false ↔
      p.first? behind (c :: rest) = none ∧ p.occursAfter (some c) rest = false := by
  rw [occursAfter, Bool.or_eq_false_iff, Option.isSome_eq_false_iff, Option.isNone_iff_eq_none]

theorem occursAfter_append_right {p : Pattern} {behind : Option Char} {u v : List Char}
    (h : p.occursAfter behind (u ++ v) = false) :
    p.occursAfter (u.getLast?.or behind) v = false := by
  induction u generalizing behind with
  | nil => simpa using h
  | cons c u ih =>
    rw [List.cons_append, occursAfter_cons_eq_false] at h
    have := ih h.2
    rw [List.getLast?_cons]
    cases hu : u.getLast? <;> simpa [hu] using this

/-- Two neighbours that make no difference to a match at the beginning make none to the search. -/
theorem occursAfter_congr {p : Pattern} {behind behind' : Option Char} {cs : List Char}
    (h : p.first? behind cs = p.first? behind' cs) :
    p.occursAfter behind cs = p.occursAfter behind' cs := by
  cases cs with
  | nil => simp only [occursAfter, h]
  | cons c rest => simp only [occursAfter, h]

theorem scan_congr {p : Pattern} {behind behind' : Option Char} {cs : List Char}
    (h : p.first? behind cs = p.first? behind' cs) :
    p.scan behind 0 true cs = p.scan behind' 0 true cs := by
  cases cs with
  | nil => simp only [scan, h]
  | cons c rest => simp only [scan, h]

namespace Steady

variable {p q : Pattern} {α : Type} {char : α → Char}

theorem occursAfter_nil (hp : p.Steady) (behind : Option Char) :
    p.occursAfter behind [] = false := by
  rw [occursAfter, hp.first?_nil]
  rfl

theorem occursAfter_append_left (hp : p.Steady) {behind : Option Char} {u v : List Char}
    (h : p.occursAfter behind (u ++ v) = false) : p.occursAfter behind u = false := by
  induction u generalizing behind with
  | nil => exact hp.occursAfter_nil behind
  | cons c u ih =>
    rw [List.cons_append, occursAfter_cons_eq_false] at h
    rw [occursAfter_cons_eq_false]
    refine ⟨hp.first?_none_of_append (x := v) ?_, ih h.2⟩
    rw [List.cons_append]
    exact h.1

/-- A text has no match if and only if its search keeps every character. -/
theorem occursAfter_eq_false_iff (hp : p.Steady) {behind : Option Char} {cs : List Char} :
    p.occursAfter behind cs = false ↔
      p.scan behind 0 true cs = List.replicate cs.length (.keep 1) := by
  induction cs generalizing behind with
  | nil => simp [hp.occursAfter_nil, hp.scan_nil]
  | cons c rest ih =>
    rw [occursAfter_cons_eq_false]
    cases h : p.first? behind (c :: rest) with
    | none =>
      rw [scan_pass h, List.length_cons, List.replicate_succ, List.cons.injEq, ih]
      simp
    | some d =>
      obtain ⟨w, hw, hr⟩ := hp.reads h
      have ha : c :: rest = w ++ d.ahead := hr.ahead
      rw [ha] at h hr ⊢
      rw [hp.scan_hit h hr hw]
      simp only [reduceCtorEq, false_and, false_iff]
      intro he
      have hm : Edit.mask (d.pos - d.kept) ∈ d.edits := by
        rcases hp.edits_eq h with ⟨he, hk⟩ | ⟨he, _⟩
        · simp [he, hk]
        · simp [he]
      have := he ▸ List.mem_append_left (p.scan w.getLast? 0 true d.ahead) hm
      rw [List.mem_replicate] at this
      cases this.2

end Steady

end Pattern
end CallScribe
