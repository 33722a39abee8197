import CallScribe.Proofs.Pattern.Shape
import CallScribe.Text.Folding
import Mathlib.Data.List.Forall2

/-!
# CallScribe.Proofs.Pattern.Greedy

The preferred end of a match, where it can be told from the text.

* `Place.after`: the place after the next characters.
* `Pattern.head?_ends_seq`: the preferred end of a sequence is that of the second part after that
  of the first.
* `Pattern.head?_ends_many`: a greedy run takes all members of its set that come next.
* `Pattern.head?_ends_wordAnyCase`: a word in any case takes its letters.
-/

namespace CallScribe

theorem holds_of_ascii {P : Char → Prop} (h : ∀ n < 128, P (Char.ofNat n)) {c : Char}
    (hc : c.toNat < 128) : P c := by
  have hP := h c.toNat hc
  rwa [Char.ofNat_toNat] at hP

theorem toNat_toLower (c : Char) :
    c.toLower.toNat = if 65 ≤ c.toNat ∧ c.toNat ≤ 90 then c.toNat + 32 else c.toNat := by
  have hA : 'A'.val.toNat = 65 := rfl
  have hZ : 'Z'.val.toNat = 90 := rfl
  have hshift : ('a'.val - 'A'.val).toNat = 32 := rfl
  unfold Char.toLower
  simp only [ge_iff_le, UInt32.le_iff_toNat_le, hA, hZ, Char.toNat]
  split
  · rename_i h
    have hle : c.val.toNat ≤ 90 := h.2
    simp only [UInt32.toNat_add, hshift]
    omega
  · rfl

theorem toNat_of_isLower {c : Char} (h : c.isLower = true) : 97 ≤ c.toNat ∧ c.toNat ≤ 122 := by
  obtain ⟨hlow, hhigh⟩ := Bool.and_eq_true_iff.mp h
  exact ⟨UInt32.le_iff_toNat_le.mp (of_decide_eq_true hlow),
    UInt32.le_iff_toNat_le.mp (of_decide_eq_true hhigh)⟩

theorem toNat_of_isAlphanum {c : Char} (h : c.isAlphanum = true) : c.toNat < 128 := by
  rcases Bool.or_eq_true_iff.mp h with hletter | hdigit
  · rcases Bool.or_eq_true_iff.mp hletter with hupper | hlower
    · have hle := UInt32.le_iff_toNat_le.mp (of_decide_eq_true hupper).2
      exact Nat.lt_of_le_of_lt hle (by decide)
    · exact Nat.lt_of_le_of_lt (toNat_of_isLower hlower).2 (by decide)
  · have hle := UInt32.le_iff_toNat_le.mp (of_decide_eq_true (Bool.and_eq_true_iff.mp hdigit).2)
    exact Nat.lt_of_le_of_lt hle (by decide)

theorem CharSet.contains_anyCase {l c : Char} (hlower : l.isLower = true) (hc : c.toLower = l) :
    (anyCase l).contains c = true := by
  obtain ⟨hlow, hhigh⟩ := toNat_of_isLower hlower
  have hl : l.toLower = l := by
    rw [← Char.toNat_inj, toNat_toLower, if_neg (by omega)]
  have hcases : c.toNat = l.toNat - 32 ∨ c.toNat = l.toNat := by
    have h := toNat_toLower c
    rw [hc] at h
    split at h <;> omega
  have hletter : ('a' ≤ l && l ≤ 'z') = true := by
    have ha : 'a'.val.toNat = 97 := rfl
    have hz : 'z'.val.toNat = 122 := rfl
    simp only [Bool.and_eq_true, decide_eq_true_eq, Char.le_def, UInt32.le_iff_toNat_le, ha, hz]
    exact ⟨hlow, hhigh⟩
  have hpair : ∀ more, inRanges
      ([(l.toNat - 32, l.toNat - 32), (l.toNat, l.toNat)] ++ more) c.toNat = true := by
    intro more
    rcases hcases with h | h
    · simp [inRanges, h]
    · simp [inRanges, h]
  unfold anyCase contains
  simp only [hl, hletter, if_true]
  split
  · exact hpair _
  · split
    · exact hpair _
    · have hnone := hpair []
      rwa [List.append_nil] at hnone

namespace Place

/-- The place after the next characters. -/
def after (h : Place) (w : List Char) : Place :=
  { h with
    behind := w.getLast?.or h.behind, ahead := h.ahead.drop w.length, pos := h.pos + w.length }

theorem after_nil (h : Place) : h.after [] = h := rfl

theorem after_append (h : Place) (u v : List Char) : (h.after u).after v = h.after (u ++ v) := by
  simp [after, List.getLast?_append, Option.or_assoc, Nat.add_assoc]

theorem ahead_after {h : Place} {w rest : List Char} (ha : h.ahead = w ++ rest) :
    (h.after w).ahead = rest := by
  simp [after, ha]

theorem reached_after {h : Place} {w rest : List Char} (ha : h.ahead = w ++ rest) :
    Reached h w (h.after w) :=
  ⟨by rw [ahead_after ha, ha], rfl, rfl⟩

/-- The last place of a sweep is in front of the first character that is no member. -/
theorem getLast?_sweep {set : CharSet} {w rest : List Char} (hw : ∀ c ∈ w, set.contains c = true)
    (hrest : ∀ c, rest.head? = some c → set.contains c = false) {h : Place}
    (ha : h.ahead = w ++ rest) :
    (h :: sweep set h.pos h.lead h.ahead).getLast? = some (h.after w) ∧
      (sweep set h.pos h.lead h.ahead).length = w.length := by
  induction w generalizing h with
  | nil =>
    rw [List.nil_append] at ha
    have hnone : sweep set h.pos h.lead h.ahead = [] := by
      rw [ha]
      cases rest with
      | nil => rfl
      | cons c rest => simp [sweep, hrest c rfl]
    rw [hnone]
    exact ⟨rfl, rfl⟩
  | cons c w ih =>
    obtain ⟨hc, hw⟩ := List.forall_mem_cons.mp hw
    have hahead : (h.after [c]).ahead = w ++ rest := by rw [after, ha]; rfl
    have hsweep : sweep set h.pos h.lead h.ahead =
        h.after [c] :: sweep set (h.after [c]).pos (h.after [c]).lead (h.after [c]).ahead := by
      rw [hahead, ha, List.cons_append, sweep, if_pos hc]
      simp [after, ha]
    obtain ⟨hlast, hlen⟩ := ih hw hahead
    refine ⟨?_, ?_⟩
    · rw [hsweep, List.getLast?_cons_cons, hlast, after_append]
      rfl
    · rw [hsweep, List.length_cons, hlen, List.length_cons]

end Place

namespace Pattern

variable {p q : Pattern} {h d e : Place}

theorem head?_ends_seq (hp : (p.ends h).head? = some d) (hq : (q.ends d).head? = some e) :
    ((Pattern.seq p q).ends h).head? = some e := by
  rw [ends, Place.head?_distinct]
  cases hl : p.ends h with
  | nil =>
    rw [hl] at hp
    cases hp
  | cons d' ds =>
    rw [hl, List.head?_cons, Option.some.injEq] at hp
    rw [List.flatMap_cons, List.head?_append, hp, hq]
    rfl

theorem head?_ends_lead (hp : (p.ends h).head? = some d) :
    ((Pattern.lead p).ends h).head? = some { d with lead := some (h.pos, d.pos) } := by
  rw [ends, List.head?_map, hp]
  rfl

theorem head?_ends_many {set : CharSet} {least : Nat} {w rest : List Char}
    (hw : ∀ c ∈ w, set.contains c = true) (hlen : least ≤ w.length)
    (hrest : ∀ c, rest.head? = some c → set.contains c = false) (ha : h.ahead = w ++ rest) :
    ((many set least).ends h).head? = some (h.after w) := by
  obtain ⟨hlast, hcount⟩ := Place.getLast?_sweep hw hrest ha
  have hdrop : least < (h :: Place.sweep set h.pos h.lead h.ahead).length := by
    rw [List.length_cons, hcount]
    omega
  simp only [many, ends, Place.runs, Place.inOrder, if_true]
  rw [List.head?_reverse, List.getLast?_drop, if_neg (by omega), hlast]

theorem head?_ends_one {set : CharSet} {c : Char} {rest : List Char}
    (hc : set.contains c = true) (ha : h.ahead = c :: rest) :
    ((Pattern.one set).ends h).head? = some (h.after [c]) := by
  simp [ends, Place.step, Place.sweep, Place.after, ha, hc]

theorem head?_ends_letters {ss : List CharSet} {w rest : List Char}
    (hw : List.Forall₂ (fun s c => CharSet.contains s c = true) ss w) (ha : h.ahead = w ++ rest) :
    ((seqAll (ss.map Pattern.one)).ends h).head? = some (h.after w) := by
  induction hw generalizing h with
  | nil => rfl
  | @cons s c ss w hc hw ih =>
    have hone := head?_ends_one hc (h := h) ha
    cases hw with
    | nil => exact hone
    | cons hc' hw' =>
      have hrest := ih (h := h.after [c]) (by rw [Place.after, ha]; rfl)
      rw [Place.after_append] at hrest
      exact head?_ends_seq hone hrest

theorem head?_ends_wordAnyCase {s : String} (hs : s.toList.all Char.isLower = true)
    {w rest : List Char} (hw : w.map Char.toLower = s.toList) (ha : h.ahead = w ++ rest) :
    ((wordAnyCase s).ends h).head? = some (h.after w) := by
  have hsets : List.Forall₂ (fun t c => CharSet.contains t c = true)
      (s.toList.map CharSet.anyCase) w := by
    rw [← hw] at hs ⊢
    rw [List.map_map, List.forall₂_map_left_iff, List.forall₂_same]
    intro c hc
    exact CharSet.contains_anyCase (List.all_eq_true.mp hs _ (List.mem_map_of_mem hc)) rfl
  have hletters := head?_ends_letters hsets ha
  rwa [List.map_map] at hletters

end Pattern
end CallScribe
