import CallScribe.Proofs.Redaction.Stretches

/-!
# CallScribe.Proofs.Redaction.Coverage

Which secrets of a text are gone when all passes are through.

* `Redactor.trace`: redaction of a text whose characters know their positions.
* `Family.tokens`, `Family.matches`: the positions of the secrets that a family's search finds in
  a text, without and with the leads that are kept.
* `Redactor.copied`, `Redactor.replaced`: the positions that reach the result, and those in spans
  that some pass replaced.
* `Family.masks_append_stretches_perm`: every element is either masked by some pass or left in a
  stretch.
* `Redactor.builtin_hides_tokens_iff`: when the secrets of a family are hidden. An earlier pass
  that cuts into a match can leave the rest of it unrecognised.
-/

namespace CallScribe

namespace Family

open Pattern

variable {α : Type} {char : α → Char} {mark : List α}

/-- What a pass masks. -/
def taken (f : Family) (char : α → Char) (xs : List α) : List α :=
  f.pattern.maskedFrom char none xs

/-- What a pass finds to be part of a match. -/
def touched (f : Family) (char : α → Char) (xs : List α) : List α :=
  f.pattern.matchedFrom char none xs

/-- What several passes mask, each in what those before it have left. -/
def masks (char : α → Char) (mark : List α) : List Family → List α → List α
  | [], _ => []
  | f :: fs, xs => f.taken char xs ++ masks char mark fs (f.rewrite char mark xs)

theorem taken_barrier {f : Family} (hf : f ∈ builtin) {y : α}
    (hy : isBarrier (char y) = true) (u v : List α) :
    f.taken char (u ++ y :: v) = f.taken char u ++ f.taken char v := by
  have hout : y ∉ f.pattern.matchedFrom char none (u ++ y :: v) := by
    intro hmem
    have := mayRead_of_mem_matched hf hmem
    rw [mayRead_shut (shuts_of_isBarrier hf hy)] at this
    cases this
  rw [taken, taken, taken, (steady hf).maskedFrom_split hout]
  congr 1
  rw [maskedFrom, maskedFrom, scan_congr (first?_shut hf (shuts_of_isBarrier hf hy) _)]

theorem taken_mark {f : Family} (hf : f ∈ builtin) (hm : mark.map char = marker)
    (u v : List α) : f.taken char (u ++ mark ++ v) = f.taken char u ++ f.taken char v := by
  obtain ⟨y, n, z, rfl, hy, hn, hz⟩ := parts_of_mark hm
  have hname : f.taken char n = [] := by
    rw [taken, maskedFrom, hn, scan_markerName hf]
    rfl
  have hparts : u ++ (y :: (n ++ [z])) ++ v = u ++ y :: (n ++ z :: v) := by simp
  rw [hparts, taken_barrier hf hy, taken_barrier hf hz, hname, List.nil_append]

theorem taken_intercalate {f : Family} (hf : f ∈ builtin) (hm : mark.map char = marker)
    (gs : List (List α)) : f.taken char (mark.intercalate gs) = gs.flatMap (f.taken char) := by
  induction gs with
  | nil => exact (steady hf).maskedFrom_nil none
  | cons g gs ih =>
    by_cases hn : gs = []
    · rw [hn, List.intercalate_singleton, List.flatMap_singleton]
    · rw [List.intercalate_cons_of_ne_nil hn, taken_mark hf hm, ih, List.flatMap_cons]

theorem taken_append_uncut_perm {f : Family} (hf : f ∈ builtin) (gs : List (List α)) :
    (gs.flatMap (f.taken char) ++ (gs.flatMap (f.uncut char)).flatten).Perm gs.flatten := by
  induction gs with
  | nil => exact List.Perm.refl _
  | cons g gs ih =>
    simp only [List.flatMap_cons, List.flatten_append, List.flatten_cons, List.append_assoc]
    have hg : (f.taken char g ++ (f.uncut char g).flatten).Perm g :=
      (steady hf).masked_append_gaps_perm none g
    have hmove := (List.perm_append_comm_assoc (gs.flatMap (f.taken char))
      (f.uncut char g).flatten (gs.flatMap (f.uncut char)).flatten).append_left (f.taken char g)
    refine hmove.trans ?_
    rw [← List.append_assoc]
    exact hg.append ih

/-- Every element of a stretch is masked by some pass or left in a stretch. -/
theorem masks_append_stretches_perm {fs : List Family} (hfs : fs ⊆ builtin)
    (hm : mark.map char = marker) (gs : List (List α)) :
    (masks char mark fs (mark.intercalate gs) ++ (stretches fs char gs).flatten).Perm
      gs.flatten := by
  induction fs generalizing gs with
  | nil => exact List.Perm.refl _
  | cons f fs ih =>
    obtain ⟨hf, hfs⟩ := List.cons_subset.mp hfs
    rw [masks, taken_intercalate hf hm, rewrite_intercalate hf hm, stretches_cons,
      List.append_assoc]
    exact ((ih hfs _).append_left _).trans (taken_append_uncut_perm hf gs)

theorem masks_append_stretches_perm_self {fs : List Family} (hfs : fs ⊆ builtin)
    (hm : mark.map char = marker) (xs : List α) :
    (masks char mark fs xs ++ (stretches fs char [xs]).flatten).Perm xs := by
  have hperm := masks_append_stretches_perm hfs hm [xs]
  rwa [List.intercalate_singleton, List.flatten_singleton] at hperm

theorem stretches_eq_flatMap (fs : List Family) (gs : List (List α)) :
    stretches fs char gs = gs.flatMap fun g => stretches fs char [g] := by
  induction fs generalizing gs with
  | nil => simp [stretches]
  | cons f fs ih =>
    rw [stretches_cons, ih, List.flatMap_assoc]
    congr 1
    funext g
    rw [stretches_cons, List.flatMap_singleton, ih (f.uncut char g)]

theorem stretches_append (fs fs' : List Family) (gs : List (List α)) :
    stretches (fs ++ fs') char gs = stretches fs' char (stretches fs char gs) := by
  rw [stretches, List.foldl_append]
  rfl

theorem mem_masks_intercalate {fs : List Family} (hfs : fs ⊆ builtin)
    (hm : mark.map char = marker) {gs : List (List α)} {x : α} :
    x ∈ masks char mark fs (mark.intercalate gs) ↔ ∃ g ∈ gs, x ∈ masks char mark fs g := by
  induction fs generalizing gs with
  | nil => simp [masks]
  | cons f fs ih =>
    obtain ⟨hf, hfs⟩ := List.cons_subset.mp hfs
    simp only [masks, List.mem_append, taken_intercalate hf hm, rewrite_intercalate hf hm,
      rewrite_eq_intercalate, ih hfs, List.mem_flatMap]
    constructor
    · rintro (⟨g, hg, hx⟩ | ⟨g', ⟨g, hg, hg'⟩, hx⟩)
      · exact ⟨g, hg, Or.inl hx⟩
      · exact ⟨g, hg, Or.inr ⟨g', hg', hx⟩⟩
    · rintro ⟨g, hg, hx | ⟨g', hg', hx⟩⟩
      · exact Or.inl ⟨g, hg, hx⟩
      · exact Or.inr ⟨g', ⟨g, hg, hg'⟩, hx⟩

theorem uncut_isCut {f f' : Family} (hf : f ∈ builtin) (hf' : f' ∈ builtin) {xs g : List α}
    (hg : g ∈ f'.uncut char xs) :
    ∃ u v, xs = u ++ g ++ v ∧ f.pattern.IsCut char (f'.taken char xs) u g v := by
  obtain ⟨g₀, gs, he, ⟨v, hv, hz⟩, hgs⟩ := (steady hf').gapsFrom_cut (parts hf' hf) none xs
  rw [uncut, he] at hg
  rcases List.mem_cons.mp hg with rfl | hg
  · exact ⟨[], v, hv, ⟨fun y hy => by simp at hy, hz⟩⟩
  · obtain ⟨u, v, hx, _, hc⟩ := hgs g hg
    exact ⟨u, v, hx, hc⟩

/-- A stretch that several passes leave lies between elements that they mask. -/
theorem stretches_isCut {f : Family} (hf : f ∈ builtin) {fs : List Family} (hfs : fs ⊆ builtin)
    (hm : mark.map char = marker) {xs s : List α} (hs : s ∈ stretches fs char [xs]) :
    ∃ u v, xs = u ++ s ++ v ∧ f.pattern.IsCut char (masks char mark fs xs) u s v := by
  induction fs generalizing xs with
  | nil =>
    rw [List.mem_singleton.mp hs]
    exact ⟨[], [], by simp, ⟨fun y hy => by simp at hy, fun z hz => by simp at hz⟩⟩
  | cons f' fs ih =>
    obtain ⟨hf', hfs'⟩ := List.cons_subset.mp hfs
    rw [stretches_cons, List.flatMap_singleton, stretches_eq_flatMap] at hs
    obtain ⟨g, hg, hsg⟩ := List.mem_flatMap.mp hs
    obtain ⟨a, b, rfl, hcut'⟩ := ih hfs' hsg
    obtain ⟨u, v, rfl, hcut⟩ := uncut_isCut hf hf' hg
    have hc := hcut.trans hcut'
    have hsub : f'.taken char (u ++ (a ++ s ++ b) ++ v) ++ masks char mark fs (a ++ s ++ b) ⊆
        masks char mark (f' :: fs) (u ++ (a ++ s ++ b) ++ v) := by
      rw [masks, rewrite_eq_intercalate]
      refine List.append_subset.mpr ⟨List.subset_append_left _ _, fun x hx => ?_⟩
      exact List.mem_append_right _ ((mem_masks_intercalate hfs' hm).mpr ⟨_, hg, hx⟩)
    refine ⟨u ++ a, b ++ v, by simp only [List.append_assoc], fun y hy => ?_, fun z hz => ?_⟩
    · obtain ⟨hy, hx⟩ := hc.left y hy
      exact ⟨hsub hy, hx⟩
    · exact hsub (hc.right z hz)

/-- Where the earlier passes do not touch a match of the family, its own pass still finds what it
would have found at first. -/
theorem taken_of_untouched {f : Family} (hf : f ∈ builtin) {fs : List Family}
    (hfs : fs ⊆ builtin) (hm : mark.map char = marker) {xs s : List α} (hnd : xs.Nodup)
    (hout : ∀ y ∈ masks char mark fs xs, y ∉ f.touched char xs)
    (hs : s ∈ stretches fs char [xs]) {x : α} (hxs : x ∈ s) (hx : x ∈ f.taken char xs) :
    x ∈ f.taken char s := by
  obtain ⟨u, v, rfl, hcut⟩ := stretches_isCut hf hfs hm hs
  obtain ⟨a, b, hab, ha, hb⟩ := (steady hf).maskedFrom_of_isCut hcut hout
  rw [taken, hab] at hx
  rw [List.nodup_append, List.nodup_append] at hnd
  obtain ⟨⟨_, _, hus⟩, _, hsv⟩ := hnd
  rcases List.mem_append.mp hx with hx | hx
  · rcases List.mem_append.mp hx with hx | hx
    · exact absurd rfl (hus x (ha hx) x hxs)
    · exact hx
  · exact absurd rfl (hsv x (List.mem_append_right _ hxs) x (hb hx))

end Family

/-! ## Positions -/

/-- The characters of a text with their positions. -/
def numbered (text : List Char) : List (Char × Option Nat) :=
  text.zipIdx.map fun x => (x.1, some x.2)

/-- The characters of the marker, which have no position. -/
def unnumbered : List (Char × Option Nat) := marker.map fun c => (c, none)

def positions (xs : List (Char × Option Nat)) : List Nat := xs.filterMap Prod.snd

theorem unnumbered_chars : unnumbered.map Prod.fst = marker := by decide

theorem numbered_chars (text : List Char) : (numbered text).map Prod.fst = text := by
  rw [numbered, List.map_map]
  exact List.zipIdx_map_fst 0 text

theorem mem_positions {xs : List (Char × Option Nat)} {i : Nat} :
    i ∈ positions xs ↔ ∃ c, (c, some i) ∈ xs := by
  simp [positions]

theorem positions_numbered (text : List Char) :
    positions (numbered text) = text.zipIdx.map Prod.snd := by
  rw [positions, numbered, List.filterMap_map]
  exact congrFun List.filterMap_eq_map _

theorem nodup_positions_numbered (text : List Char) : (positions (numbered text)).Nodup := by
  rw [positions_numbered, List.zipIdx_map_snd]
  exact List.nodup_range'

theorem numbered_pairwise (text : List Char) :
    (numbered text).Pairwise fun x y => x.2 ≠ y.2 := by
  have h := nodup_positions_numbered text
  rw [positions_numbered] at h
  refine List.pairwise_map.mpr ((List.pairwise_map.mp h).imp ?_)
  intro x y hne he
  exact hne (Option.some.inj he)

theorem nodup_numbered (text : List Char) : (numbered text).Nodup :=
  (numbered_pairwise text).imp fun hne he => hne (congrArg Prod.snd he)

/-- In a text, a position belongs to one character. -/
theorem eq_of_position {text : List Char} {c c' : Char} {i : Nat}
    (h : (c, some i) ∈ numbered text) (h' : (c', some i) ∈ numbered text) : c = c' := by
  simp only [numbered, List.mem_map, Prod.exists, Prod.mk.injEq, Option.some.injEq] at h h'
  obtain ⟨_, _, h, rfl, rfl⟩ := h
  obtain ⟨_, _, h', rfl, rfl⟩ := h'
  rw [List.mk_mem_zipIdx_iff_getElem?] at h h'
  exact Option.some.inj (h.symm.trans h')

theorem positions_intercalate (gs : List (List (Char × Option Nat))) :
    positions (unnumbered.intercalate gs) = positions gs.flatten := by
  induction gs with
  | nil => rfl
  | cons g gs ih =>
    by_cases hn : gs = []
    · simp [hn]
    · have hmark : unnumbered.filterMap Prod.snd = [] := by decide
      rw [List.intercalate_cons_of_ne_nil hn, List.flatten_cons]
      simp only [positions, List.filterMap_append, hmark, List.append_nil] at ih ⊢
      rw [ih]

/-- The positions of the secrets that the family's search finds in a text, leads apart. -/
def Family.tokens (f : Family) (text : List Char) : List Nat :=
  positions (f.taken Prod.fst (numbered text))

/-- The positions of everything that the family's search finds in a text. -/
def Family.matches (f : Family) (text : List Char) : List Nat :=
  positions (f.touched Prod.fst (numbered text))

namespace Redactor

/-- Redaction of a text whose characters know their positions. -/
def trace (r : Redactor) (xs : List (Char × Option Nat)) : List (Char × Option Nat) :=
  Family.rewriteAll r.families Prod.fst unnumbered xs

/-- The positions of characters that reach the result. -/
def copied (r : Redactor) (text : List Char) : List Nat := positions (r.trace (numbered text))

/-- The positions in spans that some pass replaced by the marker. -/
def replaced (r : Redactor) (text : List Char) : List Nat :=
  positions (Family.masks Prod.fst unnumbered r.families (numbered text))

theorem trace_chars (r : Redactor) (text : List Char) :
    (r.trace (numbered text)).map Prod.fst = r.redactChars text := by
  have hfold : ∀ (fs : List Family) (xs : List (Char × Option Nat)),
      (Family.rewriteAll fs Prod.fst unnumbered xs).map Prod.fst =
        fs.foldl (fun t f => f.maskAll t) (xs.map Prod.fst) := by
    intro fs
    induction fs with
    | nil => intro xs; rfl
    | cons f fs ih =>
      intro xs
      have hstep : (f.rewrite Prod.fst unnumbered xs).map Prod.fst =
          f.maskAll (xs.map Prod.fst) := by
        rw [Family.rewrite, Edit.map_run, unnumbered_chars]
        rfl
      rw [List.foldl_cons, ← hstep, ← ih]
      rfl
  rw [trace, hfold, numbered_chars, redactChars]

theorem positions_trace {r : Redactor} (hr : r.families ⊆ Family.builtin)
    (xs : List (Char × Option Nat)) :
    positions (r.trace xs) = positions (Family.stretches r.families Prod.fst [xs]).flatten := by
  have h := Family.rewriteAll_intercalate hr unnumbered_chars [xs]
  rw [List.intercalate_singleton] at h
  rw [trace, h, positions_intercalate]

/-- A position of a text is copied unless some pass replaces it. -/
theorem copied_iff_not_replaced {r : Redactor} (hr : r.families ⊆ Family.builtin)
    {text : List Char} {i : Nat} (hi : i ∈ positions (numbered text)) :
    i ∉ r.copied text ↔ i ∈ r.replaced text := by
  have hperm := Family.masks_append_stretches_perm_self hr unnumbered_chars (numbered text)
  have hpos : (r.replaced text ++ r.copied text).Perm (positions (numbered text)) := by
    rw [replaced, copied, positions_trace hr, positions, positions, ← List.filterMap_append]
    exact hperm.filterMap _
  have hnd := hpos.nodup_iff.mpr (nodup_positions_numbered text)
  rw [List.nodup_append] at hnd
  constructor
  · intro hc
    exact (List.mem_append.mp (hpos.symm.subset hi)).resolve_right hc
  · intro hrep hc
    exact hnd.2.2 i hrep i hc rfl

/-- What reaches the result are the stretches that some passes leave, each redacted by the rest. -/
theorem mem_copied_append {before after : List Family} (hb : before ++ after ⊆ Family.builtin)
    {text : List Char} {i : Nat} : i ∈ (Redactor.mk (before ++ after)).copied text ↔
      ∃ s ∈ Family.stretches before Prod.fst [numbered text],
        i ∈ positions ((Redactor.mk after).trace s) := by
  have ha : after ⊆ Family.builtin := fun f hf => hb (List.mem_append_right _ hf)
  rw [copied, positions_trace hb, Family.stretches_append, Family.stretches_eq_flatMap]
  simp only [positions_trace (r := ⟨after⟩) ha, mem_positions, List.mem_flatten,
    List.mem_flatMap]
  constructor
  · rintro ⟨c, g, ⟨s, hs, hg⟩, hc⟩
    exact ⟨s, hs, c, g, hg, hc⟩
  · rintro ⟨s, hs, c, g, hg, hc⟩
    exact ⟨c, g, ⟨s, hs, hg⟩, hc⟩

/-- A family of which the earlier passes touch no match has its secrets hidden by its own pass, in
each of the stretches that reach it. -/
theorem tokens_hidden_of_untouched {before after : List Family} {f : Family}
    (h : before ++ f :: after ⊆ Family.builtin) {text : List Char}
    (hout : ∀ i ∈ (Redactor.mk before).replaced text, i ∉ f.matches text)
    {s : List (Char × Option Nat)}
    (hs : s ∈ Family.stretches before Prod.fst [numbered text]) {i : Nat}
    (hi : i ∈ positions ((Redactor.mk (f :: after)).trace s)) : i ∉ f.tokens text := by
  obtain ⟨hbefore, hrest⟩ := List.append_subset.mp h
  have hf := hrest List.mem_cons_self
  intro htok
  rw [positions_trace hrest] at hi
  obtain ⟨c, hleft⟩ := mem_positions.mp hi
  obtain ⟨c', htaken⟩ := mem_positions.mp htok
  have hout' : ∀ y ∈ Family.masks Prod.fst unnumbered before (numbered text),
      y ∉ f.touched Prod.fst (numbered text) := by
    rintro ⟨a, o⟩ hy hmem
    have hperm :=
      Family.masks_append_stretches_perm_self hbefore unnumbered_chars (numbered text)
    have hnum := hperm.subset (List.mem_append_left _ hy)
    obtain ⟨x, _, hx⟩ := List.mem_map.mp hnum
    rw [Prod.mk.injEq] at hx
    obtain ⟨rfl, rfl⟩ := hx
    exact hout x.2 (mem_positions.mpr ⟨_, hy⟩) (mem_positions.mpr ⟨_, hmem⟩)
  obtain ⟨u, v, hcut, _⟩ := Family.stretches_isCut hf hbefore unnumbered_chars hs
  have hsub : s ⊆ numbered text := by
    intro x hx
    rw [hcut]
    simp [hx]
  -- what the family's own pass masks in the stretch is not in what it leaves of it
  have hpart := Family.masks_append_stretches_perm_self hrest unnumbered_chars s
  have hnd : s.Nodup := by
    have hnum := nodup_numbered text
    rw [hcut, List.nodup_append, List.nodup_append] at hnum
    exact hnum.1.2.1
  have hcs : (c, some i) ∈ s := hpart.subset (List.mem_append_right _ hleft)
  have hc : c = c' := eq_of_position (hsub hcs) ((Family.steady hf).maskedFrom_subset none _ htaken)
  subst hc
  have hown := Family.taken_of_untouched hf hbefore unnumbered_chars (nodup_numbered text) hout'
    hs hcs htaken
  have hdisj := (List.nodup_append.mp (hpart.nodup_iff.mpr hnd)).2.2
  exact hdisj _ (List.mem_append_left _ hown) _ hleft rfl

/-- The secrets that a family's search finds in a text are all replaced, and none of their
characters is copied, if and only if the passes before its own touch none of its matches, or the
stretches that they leave hide what is left of the secrets when each is redacted by itself. Where
only some matches are touched, the others need not be hidden: in `Bearer sk-abcdefgh.Bearer Bearer
def` what is left of the first match takes the beginning of the second. -/
theorem builtin_hides_tokens_iff {before after : List Family} {f : Family}
    (h : Family.builtin = before ++ f :: after) (text : List Char) :
    (∀ i ∈ f.tokens text, i ∉ builtin.copied text ∧ i ∈ builtin.replaced text) ↔
      (∀ i ∈ (Redactor.mk before).replaced text, i ∉ f.matches text) ∨
      ∀ s ∈ Family.stretches before Prod.fst [numbered text],
        ∀ i ∈ positions ((Redactor.mk (f :: after)).trace s), i ∉ f.tokens text := by
  have hsub : before ++ f :: after ⊆ Family.builtin := h ▸ List.Subset.refl _
  have hcopied : builtin.copied text = (Redactor.mk (before ++ f :: after)).copied text := by
    rw [builtin, h]
  have hnum : ∀ i ∈ f.tokens text, i ∈ positions (numbered text) := by
    intro i hi
    obtain ⟨c, hc⟩ := mem_positions.mp hi
    have hf := (List.append_subset.mp hsub).2 List.mem_cons_self
    exact mem_positions.mpr ⟨c, (Family.steady hf).maskedFrom_subset none _ hc⟩
  constructor
  · intro hhidden
    right
    intro s hs i hi htok
    refine (hhidden i htok).1 ?_
    rw [hcopied, mem_copied_append hsub]
    exact ⟨s, hs, hi⟩
  · intro hcond
    have hstretch : ∀ s ∈ Family.stretches before Prod.fst [numbered text],
        ∀ i ∈ positions ((Redactor.mk (f :: after)).trace s), i ∉ f.tokens text := by
      rcases hcond with hout | hstretch
      · exact fun s hs i hi => tokens_hidden_of_untouched hsub hout hs hi
      · exact hstretch
    intro i htok
    have hnot : i ∉ builtin.copied text := by
      rw [hcopied, mem_copied_append hsub]
      rintro ⟨s, hs, hi⟩
      exact hstretch s hs i hi htok
    exact ⟨hnot, (copied_iff_not_replaced (List.Subset.refl _) (hnum i htok)).mp hnot⟩

/-- A key after the word bearer is hidden, although the family of keys takes it first. -/
theorem builtin_hides_bearer_key :
    Family.bearer.tokens "Bearer sk-abcd0123".toList ≠ [] ∧
      ∀ i ∈ Family.bearer.tokens "Bearer sk-abcd0123".toList,
        i ∉ builtin.copied "Bearer sk-abcd0123".toList ∧
          i ∈ builtin.replaced "Bearer sk-abcd0123".toList := by
  refine ⟨by decide, (builtin_hides_tokens_iff
    (show Family.builtin = [Family.anthropic, Family.langfuse, Family.openai] ++
      Family.bearer :: [Family.assignment] from rfl) _).mpr ?_⟩
  exact Or.inr (by decide)

/-- The name of a credential after the word bearer counts as a token, and with the name gone the
assigned value is no longer recognised. -/
theorem builtin_copies_assigned_value :
    ∃ i ∈ Family.assignment.tokens "Bearer password=0123456789abcdef".toList,
      i ∈ builtin.copied "Bearer password=0123456789abcdef".toList ∧
        i ∉ builtin.replaced "Bearer password=0123456789abcdef".toList := by
  decide

end Redactor
end CallScribe
