import CallScribe.Proofs.Pattern.Search

/-!
# CallScribe.Proofs.Pattern.Extent

How far the matches of a pattern extend, for every pattern, tests and loops of patterns included.

* `Place.Onward h d`: `d` is reached from `h` by reading, and a lead found on the way lies in what
  was read.
* `Place.loops_closed`: what every round of a loop keeps holds at every place that the loop reaches.
* `Pattern.ends_onward`: every end of a match is onward from its start.
* `Pattern.widths_edits`: so a search tells of every character of the text what happens to it, and
  tells it once.
* `Pattern.leadsFirst`: a lead can stand at the beginning of a match only, so that a search drops
  nothing without a marker (`Pattern.dropless_edits`).
-/

namespace CallScribe
namespace Place

/-- The place `d` lies ahead of `h`, and so does its lead unless it is the one of `h`. -/
structure Onward (h d : Place) : Prop where
  reached : ∃ w, Reached h w d
  lead : d.lead = h.lead ∨ ∃ a b, d.lead = some (a, b) ∧ h.pos ≤ a ∧ a ≤ b ∧ b ≤ d.pos

namespace Onward

theorem refl (h : Place) : Onward h h := ⟨⟨[], Reached.refl h⟩, .inl rfl⟩

theorem pos_le {h d : Place} (hd : Onward h d) : h.pos ≤ d.pos := by
  obtain ⟨w, hw⟩ := hd.reached
  rw [hw.pos]
  exact Nat.le_add_right _ _

theorem trans {h d e : Place} (hd : Onward h d) (he : Onward d e) : Onward h e where
  reached := by
    obtain ⟨u, hu⟩ := hd.reached
    obtain ⟨v, hv⟩ := he.reached
    exact ⟨u ++ v, hu.trans hv⟩
  lead := by
    have hpos := hd.pos_le
    have hpos' := he.pos_le
    rcases he.lead with hlead | ⟨a, b, hlead, ha, hab, hb⟩
    · rcases hd.lead with hlead' | ⟨a, b, hlead', ha, hab, hb⟩
      · exact .inl (hlead.trans hlead')
      · exact .inr ⟨a, b, hlead.trans hlead', ha, hab, Nat.le_trans hb hpos'⟩
    · exact .inr ⟨a, b, hlead, Nat.le_trans hpos ha, hab, hb⟩

/-- A match takes as many characters as its edits are about. -/
theorem widths_edits {behind : Option Char} {cs : List Char} {d : Place}
    (hd : Onward (start behind cs) d) : Edit.widths d.edits = d.pos := by
  rcases hd.lead with hlead | ⟨a, b, hlead, -, hab, hb⟩
  · have hnone : d.lead = none := hlead
    simp [edits, hnone, Edit.widths, Edit.width]
  · simp only [edits, hlead, Edit.widths, Edit.width]
    omega

end Onward

/-! ## Loops -/

section Closed

variable {P : Place → Prop} {round : Place → List Place}
  (keep : ∀ {h d}, P h → d ∈ round h → P d)

include keep

theorem copies_closed (n : Nat) {hs : List Place} (hhs : ∀ h ∈ hs, P h) :
    ∀ d ∈ copies round n hs, P d := by
  induction n generalizing hs with
  | zero => exact hhs
  | succ n ih =>
    refine ih fun d hd => ?_
    obtain ⟨h, hh, hd⟩ := List.mem_flatMap.mp (mem_of_mem_distinct hd)
    exact keep (hhs h hh) hd

theorem spread_closed (seen : List Nat) {hs : List Place} (hhs : ∀ h ∈ hs, P h) :
    ∀ g ∈ spread round seen hs, ∀ d ∈ g, P d := by
  induction hs generalizing seen with
  | nil => exact fun _ hg => by cases hg
  | cons h rest ih =>
    obtain ⟨hh, hrest⟩ := List.forall_mem_cons.mp hhs
    rw [spread]
    exact List.forall_mem_cons.mpr ⟨fun d hd => keep hh (mem_distinctFrom hd), ih _ hrest⟩

omit keep in
theorem joinGroups_closed (groups : List (List Place)) {found : List (List Place)}
    (hfound : ∀ ds ∈ found, ∀ d ∈ ds, P d) :
    ∀ ds ∈ joinGroups groups found, ∀ d ∈ ds, P d := by
  induction groups generalizing found with
  | nil => exact fun _ hds => by cases hds
  | cons g groups ih =>
    rw [joinGroups]
    refine List.forall_mem_cons.mpr ⟨fun d hd => ?_, ih fun ds hds => ?_⟩
    · obtain ⟨ds, hds, hd⟩ := List.mem_flatten.mp hd
      exact hfound ds (List.mem_of_mem_take hds) d hd
    · exact hfound ds (List.mem_of_mem_drop hds)

theorem upTo_closed (greedy : Bool) (n : Nat) {hs : List Place} (hhs : ∀ h ∈ hs, P h) :
    ∀ ds ∈ upTo round greedy n hs, ∀ d ∈ ds, P d := by
  induction n generalizing hs with
  | zero =>
    intro ds hds d hd
    obtain ⟨h, hh, rfl⟩ := List.mem_map.mp hds
    rw [List.mem_singleton.mp hd]
    exact hhs h hh
  | succ n ih =>
    have hgroups := spread_closed keep [] hhs
    have hfound := ih fun d hd => by
      obtain ⟨g, hg, hd⟩ := List.mem_flatten.mp hd
      exact hgroups g hg d hd
    have hfurther := joinGroups_closed (spread round [] hs) hfound
    intro ds hds d hd
    rw [upTo, ← List.map_uncurry_zip_eq_zipWith, List.mem_map] at hds
    obtain ⟨⟨h, es⟩, hmem, rfl⟩ := hds
    obtain ⟨hh, hes⟩ := List.of_mem_zip hmem
    have hd' : d = h ∨ d ∈ es := by
      cases greedy <;> simpa [or_comm] using hd
    rcases hd' with rfl | hd'
    · exact hhs _ hh
    · exact hfurther es hes d hd'

theorem rounds_closed (greedy : Bool) (fuel : Nat) {h : Place} (hh : P h) (seen : List Nat) :
    ∀ d ∈ (rounds round greedy fuel h seen).1, P d := by
  induction fuel generalizing h seen with
  | zero => exact fun _ hd => by cases hd
  | succ fuel ih =>
    rw [rounds]
    refine List.foldlRecOn (round h) _
      (motive := fun out : List Place × List Nat => ∀ d ∈ out.1, P d)
      (fun _ hd => by cases hd) fun (out, seen) hout e he => ?_
    have hP := keep hh he
    dsimp only at hout ⊢
    split
    · exact hout
    · split
      · exact List.forall_mem_append.mpr ⟨hout, List.forall_mem_singleton.mpr hP⟩
      · have hdeeper := ih hP (e.pos :: seen)
        split
        · exact List.forall_mem_append.mpr ⟨List.forall_mem_append.mpr ⟨hout, hdeeper⟩,
            List.forall_mem_singleton.mpr hP⟩
        · exact List.forall_mem_append.mpr ⟨hout, List.forall_mem_cons.mpr ⟨hP, hdeeper⟩⟩

theorem plus_closed (greedy : Bool) {h : Place} (hh : P h) : ∀ d ∈ plus round greedy h, P d :=
  fun d hd => rounds_closed keep greedy _ hh [] d (mem_of_mem_distinct hd)

/-- What every round keeps holds wherever the loop can end. -/
theorem loops_closed (least : Nat) (most : Option Nat) (greedy : Bool) {h : Place} (hh : P h) :
    ∀ d ∈ loops round least most greedy h, P d := by
  have hstart : ∀ e ∈ [h], P e := List.forall_mem_singleton.mpr hh
  have hplus := plus_closed keep greedy hh
  intro d hd
  unfold loops at hd
  split at hd
  · obtain ⟨ds, hds, hd⟩ := List.mem_flatten.mp (mem_of_mem_distinct hd)
    exact upTo_closed keep greedy _ (copies_closed keep least hstart) ds hds d hd
  · split at hd
    · have hd' : d = h ∨ d ∈ plus round greedy h := by
        cases greedy <;> simpa [or_comm] using mem_of_mem_distinct hd
      rcases hd' with rfl | hd'
      · exact hh
      · exact hplus d hd'
    · obtain ⟨e, he, hd⟩ := List.mem_flatMap.mp (mem_of_mem_distinct hd)
      exact plus_closed keep greedy (copies_closed keep _ hstart e he) d hd

end Closed

end Place

namespace Pattern

/-- Every end of a match lies ahead of its start, and its lead within the match. -/
theorem ends_onward {p : Pattern} {h d : Place} (hd : d ∈ p.ends h) : Place.Onward h d := by
  induction p generalizing h d with
  | empty =>
    rw [List.mem_singleton.mp hd]
    exact .refl h
  | one s =>
    obtain ⟨c, hr, -, hlead⟩ := Place.step_reached hd
    exact ⟨⟨_, hr⟩, .inl hlead⟩
  | run s least most greedy =>
    obtain ⟨w, hr, -, -, hlead⟩ := Place.runs_reached hd
    exact ⟨⟨w, hr⟩, .inl hlead⟩
  | look t =>
    rw [ends] at hd
    split at hd
    · rw [List.mem_singleton.mp hd]
      exact .refl h
    · cases hd
  | seq p q ihp ihq =>
    obtain ⟨e, he, hd⟩ := List.mem_flatMap.mp (Place.mem_of_mem_distinct hd)
    exact (ihp he).trans (ihq hd)
  | alt p q ihp ihq =>
    rcases List.mem_append.mp (Place.mem_of_mem_distinct hd) with hd | hd
    · exact ihp hd
    · exact ihq hd
  | loop p least most greedy ih =>
    exact Place.loops_closed (fun he hd => he.trans (ih hd)) least most greedy (.refl h) d hd
  | lead p ih =>
    obtain ⟨e, he, rfl⟩ := List.mem_map.mp hd
    have honward := ih he
    obtain ⟨w, hw⟩ := honward.reached
    exact ⟨⟨w, hw.ahead, hw.pos, hw.behind⟩,
      .inr ⟨h.pos, e.pos, rfl, Nat.le_refl _, honward.pos_le, Nat.le_refl _⟩⟩

theorem first?_onward {p : Pattern} {behind : Option Char} {cs : List Char} {d : Place}
    (h : p.first? behind cs = some d) : Place.Onward (Place.start behind cs) d :=
  ends_onward (List.mem_of_mem_head? h)

theorem pos_le_of_match {p : Pattern} {behind : Option Char} {cs : List Char} {d : Place}
    (h : p.first? behind cs = some d) : d.pos ≤ cs.length := by
  obtain ⟨w, hw⟩ := (first?_onward h).reached
  have hsum : d.pos + d.ahead.length = 0 + cs.length := hw.sum
  omega

theorem widths_edits_of_match {p : Pattern} {behind : Option Char} {cs : List Char} {d : Place}
    (h : p.first? behind cs = some d) : Edit.widths d.edits = d.pos :=
  (first?_onward h).widths_edits

/-- The edits of a search are about the characters that the match before them leaves. -/
theorem widths_scan (p : Pattern) (behind : Option Char) {skip : Nat} (fresh : Bool)
    {cs : List Char} (hskip : skip ≤ cs.length) :
    Edit.widths (p.scan behind skip fresh cs) + skip = cs.length := by
  fun_induction scan p behind skip fresh cs with
  | case1 | case3 => simpa [Edit.widths] using hskip
  | case2 behind skip d h =>
    have hpos : d.pos = 0 := Nat.le_zero.mp (pos_le_of_match h)
    rw [widths_edits_of_match h, hpos, Nat.zero_add]
    exact Nat.le_zero.mp hskip
  | case4 behind skip fresh c rest ih =>
    have hrest := ih (Nat.le_of_succ_le_succ hskip)
    rw [List.length_cons]
    omega
  | case5 behind fresh c rest h ih =>
    have hrest := ih (Nat.zero_le _)
    rw [Edit.widths, Edit.width, List.length_cons]
    omega
  | case6 behind fresh c rest d h hpos ih =>
    have hrest := ih (Nat.zero_le _)
    have hnothing : Edit.widths (if fresh then d.edits else []) = 0 := by
      split
      · rw [widths_edits_of_match h, hpos]
      · rfl
    rw [Edit.widths_append, hnothing, Edit.widths, Edit.width, List.length_cons]
    omega
  | case7 behind fresh c rest d h hpos ih =>
    have hle := pos_le_of_match h
    rw [List.length_cons] at hle ⊢
    have hrest := ih (by omega)
    rw [Edit.widths_append, widths_edits_of_match h]
    omega

/-- The edits of a search are about every character of the text. -/
theorem widths_edits (p : Pattern) (text : List Char) :
    Edit.widths (p.edits text) = text.length := p.widths_scan none true (Nat.zero_le _)

/-! ## Leads at the front -/

theorem lead_of_mem_ends {p : Pattern} (hl : p.hasLead = false) {h d : Place}
    (hd : d ∈ p.ends h) : d.lead = h.lead := by
  induction p generalizing h d with
  | empty => rw [List.mem_singleton.mp hd]
  | one s =>
    obtain ⟨c, -, -, hlead⟩ := Place.step_reached hd
    exact hlead
  | run s least most greedy =>
    obtain ⟨w, -, -, -, hlead⟩ := Place.runs_reached hd
    exact hlead
  | look t =>
    rw [ends] at hd
    split at hd
    · rw [List.mem_singleton.mp hd]
    · cases hd
  | seq p q ihp ihq =>
    rw [hasLead, Bool.or_eq_false_iff] at hl
    obtain ⟨e, he, hd⟩ := List.mem_flatMap.mp (Place.mem_of_mem_distinct hd)
    rw [ihq hl.2 hd, ihp hl.1 he]
  | alt p q ihp ihq =>
    rw [hasLead, Bool.or_eq_false_iff] at hl
    rcases List.mem_append.mp (Place.mem_of_mem_distinct hd) with hd | hd
    · exact ihp hl.1 hd
    · exact ihq hl.2 hd
  | loop p least most greedy ih =>
    exact Place.loops_closed (P := fun d => d.lead = h.lead) (fun he hd => (ih hl hd).trans he)
      least most greedy rfl d hd
  | lead p ih => cases hl

/-- Whether the pattern only tests what stands around a place. -/
def readsNothing : Pattern → Bool
  | .empty | .look _ => true
  | .seq p q => p.readsNothing && q.readsNothing
  | .one _ | .run .. | .alt .. | .loop .. | .lead _ => false

/-- Whether a lead can stand at the beginning of a match only. -/
def leadsFirst : Pattern → Bool
  | .empty | .one _ | .run .. | .look _ | .lead _ => true
  | .seq p q => p.leadsFirst && !q.hasLead || p.readsNothing && q.leadsFirst
  | .alt p q => p.leadsFirst && q.leadsFirst
  | .loop p _ _ _ => !p.hasLead

theorem eq_of_readsNothing {p : Pattern} (hp : p.readsNothing = true) {h d : Place}
    (hd : d ∈ p.ends h) : d = h := by
  induction p generalizing h d with
  | empty => exact List.mem_singleton.mp hd
  | look t =>
    rw [ends] at hd
    split at hd
    · exact List.mem_singleton.mp hd
    · cases hd
  | seq p q ihp ihq =>
    rw [readsNothing, Bool.and_eq_true] at hp
    obtain ⟨e, he, hd⟩ := List.mem_flatMap.mp (Place.mem_of_mem_distinct hd)
    rw [ihq hp.2 hd, ihp hp.1 he]
  | one s => cases hp
  | run s least most greedy => cases hp
  | alt p q ihp ihq => cases hp
  | loop p least most greedy ih => cases hp
  | lead p ih => cases hp

end Pattern

/-- The lead begins where the match does, if there is one. -/
def Place.Fronted (d : Place) : Prop := ∀ a b, d.lead = some (a, b) → a = 0

namespace Pattern

theorem fronted_of_hasLead {p : Pattern} (hl : p.hasLead = false) {h d : Place} (hh : h.Fronted)
    (hd : d ∈ p.ends h) : d.Fronted := by
  intro a b hab
  rw [lead_of_mem_ends hl hd] at hab
  exact hh a b hab

theorem fronted_of_mem_ends {p : Pattern} (hp : p.leadsFirst = true) {h d : Place}
    (hpos : h.pos = 0) (hh : h.Fronted) (hd : d ∈ p.ends h) : d.Fronted := by
  induction p generalizing h d with
  | empty => exact fronted_of_hasLead rfl hh hd
  | one s => exact fronted_of_hasLead rfl hh hd
  | run s least most greedy => exact fronted_of_hasLead rfl hh hd
  | look t => exact fronted_of_hasLead rfl hh hd
  | seq p q ihp ihq =>
    simp only [leadsFirst, Bool.or_eq_true, Bool.and_eq_true, Bool.not_eq_true'] at hp
    obtain ⟨e, he, hd⟩ := List.mem_flatMap.mp (Place.mem_of_mem_distinct hd)
    rcases hp with ⟨hp, hq⟩ | ⟨hp, hq⟩
    · exact fronted_of_hasLead hq (ihp hp hpos hh he) hd
    · rw [eq_of_readsNothing hp he] at hd
      exact ihq hq hpos hh hd
  | alt p q ihp ihq =>
    rw [leadsFirst, Bool.and_eq_true] at hp
    rcases List.mem_append.mp (Place.mem_of_mem_distinct hd) with hd | hd
    · exact ihp hp.1 hpos hh hd
    · exact ihq hp.2 hpos hh hd
  | loop p least most greedy ih =>
    rw [leadsFirst, Bool.not_eq_true'] at hp
    exact fronted_of_hasLead (p := .loop p least most greedy) hp hh hd
  | lead p ih =>
    obtain ⟨e, -, rfl⟩ := List.mem_map.mp hd
    intro a b hab
    obtain ⟨rfl, -⟩ := Prod.mk.inj (Option.some.inj hab)
    exact hpos

theorem first?_fronted {p : Pattern} (hp : p.leadsFirst = true) {behind : Option Char}
    {cs : List Char} {d : Place} (h : p.first? behind cs = some d) : d.Fronted :=
  fronted_of_mem_ends hp (h := Place.start behind cs) rfl (fun _ _ hl => by cases hl)
    (List.mem_of_mem_head? h)

end Pattern

/-- Nothing is taken away without a marker in its place. -/
def Edit.Dropless (es : List Edit) : Prop := ∀ n, .drop n ∈ es → n = 0

theorem Edit.dropless_append {es fs : List Edit} (hes : Dropless es) (hfs : Dropless fs) :
    Dropless (es ++ fs) := fun n hn => (List.mem_append.mp hn).elim (hes n) (hfs n)

theorem Edit.dropless_keep {es : List Edit} (hes : Dropless es) (n : Nat) :
    Dropless (.keep n :: es) :=
  fun m hm => (List.mem_cons.mp hm).elim (fun h => by cases h) (hes m)

theorem Place.Fronted.dropless {d : Place} (hd : d.Fronted) : Edit.Dropless d.edits := by
  intro n hn
  unfold edits at hn
  split at hn
  · simp at hn
  · rename_i a b hlead
    simp only [List.mem_cons, Edit.drop.injEq, reduceCtorEq, List.not_mem_nil, or_false] at hn
    rw [hn]
    exact hd a b hlead

namespace Pattern

theorem dropless_scan {p : Pattern} (hp : p.leadsFirst = true) (behind : Option Char) (skip : Nat)
    (fresh : Bool) (cs : List Char) : Edit.Dropless (p.scan behind skip fresh cs) := by
  have hnone : Edit.Dropless [] := fun _ hn => by cases hn
  have hmatch : ∀ {behind cs d} (fresh : Bool), p.first? behind cs = some d →
      Edit.Dropless (if fresh then d.edits else []) := by
    intro behind cs d fresh h
    split
    · exact (first?_fronted hp h).dropless
    · exact hnone
  fun_induction scan p behind skip fresh cs with
  | case1 => exact hnone
  | case2 behind skip d h => exact (first?_fronted hp h).dropless
  | case3 => exact hnone
  | case4 behind skip fresh c rest ih => exact ih
  | case5 behind fresh c rest h ih => exact Edit.dropless_keep ih 1
  | case6 behind fresh c rest d h hpos ih =>
    exact Edit.dropless_append (hmatch fresh h) (Edit.dropless_keep ih 1)
  | case7 behind fresh c rest d h hpos ih =>
    exact Edit.dropless_append (first?_fronted hp h).dropless ih

/-- A search drops nothing without a marker if leads stand at the front. -/
theorem dropless_edits {p : Pattern} (hp : p.leadsFirst = true) (text : List Char) :
    Edit.Dropless (p.edits text) := p.dropless_scan hp none 0 true text

end Pattern
end CallScribe
