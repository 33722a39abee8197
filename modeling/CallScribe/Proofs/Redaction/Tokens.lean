import CallScribe.Proofs.Pattern.Greedy
import CallScribe.Proofs.Redaction.Clean
import CallScribe.Redaction.Policy

/-!
# CallScribe.Proofs.Redaction.Tokens

A masked token behind the word bearer.

* `Pattern.shortest`, `Family.occursIn_short`: no secret is found in a text that is too short.
* `maskSecret_stars`: a masked token has stars in it, and at most four characters at either side.
* `Family.maskAll_key`: the families of keys leave such a token alone.
* `Family.maskAll_bearer`: the family of bearer tokens takes all of it.
* `Family.rewriteAll_token`: what the first four families leave of it, which is the marker.
-/

namespace CallScribe

namespace Pattern

/-- The number of characters that a match reads at least. -/
def shortest : Pattern → Nat
  | .empty | .look _ | .loop .. => 0
  | .one _ => 1
  | .run _ least _ _ => least
  | .seq p q => p.shortest + q.shortest
  | .alt p q => min p.shortest q.shortest
  | .lead p => p.shortest

theorem Reads.shortest_le {p : Pattern} {w : List Char} (h : p.Reads w) :
    p.shortest ≤ w.length := by
  induction p generalizing w with
  | empty => exact Nat.zero_le _
  | look t => exact Nat.zero_le _
  | loop p least most greedy ih => exact Nat.zero_le _
  | one s =>
    obtain ⟨c, rfl, _⟩ := h
    exact Nat.le_refl 1
  | run s least most greedy => exact h.2
  | seq p q ihp ihq =>
    obtain ⟨u, v, rfl, hu, hv⟩ := h
    have := ihp hu
    have := ihq hv
    simp only [shortest, List.length_append]
    omega
  | alt p q ihp ihq =>
    simp only [shortest]
    rcases h with h | h
    · have := ihp h
      omega
    · have := ihq h
      omega
  | lead p ih => exact ih h

end Pattern

namespace Family

open Pattern

def keys : List Family := [anthropic, langfuse, openai]

theorem keys_subset : keys ⊆ builtin := List.take_subset 3 builtin

theorem Anatomy.occursIn_short {f : Family} (A : Anatomy f) {text : List Char}
    (h : text.length < A.body.shortest) : f.occursIn text = false := by
  refine A.shaped.occursAfter_of_infix (fun v hv hreads => ?_) none
  have hlong := hreads.shortest_le
  have hlen := hv.length_le
  omega

theorem occursIn_short {f : Family} (hf : f ∈ keys) {text : List Char} (h : text.length < 7) :
    f.occursIn text = false := by
  simp only [keys, List.mem_cons, List.not_mem_nil, or_false] at hf
  rcases hf with rfl | rfl | rfl
  · exact anthropicAnatomy.occursIn_short (Nat.lt_of_lt_of_le h (by decide))
  · exact langfuseAnatomy.occursIn_short (Nat.lt_of_lt_of_le h (by decide))
  · exact openaiAnatomy.occursIn_short (Nat.lt_of_lt_of_le h (by decide))

theorem maskAll_short {f : Family} (hf : f ∈ keys) {text : List Char} (h : text.length < 7) :
    f.maskAll text = text :=
  Redactor.maskAll_of_quiet (keys_subset hf) (occursIn_short hf h)

/-- No key has a star or a blank in it. -/
theorem keys_shut {f : Family} (hf : f ∈ keys) : f.shuts '*' = true ∧ f.shuts ' ' = true := by
  revert f
  decide

theorem maskAll_shut {f : Family} (hf : f ∈ builtin) {c : Char} (hc : f.shuts c = true)
    (u v : List Char) : f.maskAll (u ++ c :: v) = f.maskAll u ++ c :: f.maskAll v := by
  have hc' : f.shuts (id c) = true := hc
  rw [← rewrite_id, ← rewrite_id, ← rewrite_id]
  exact rewrite_shut hf hc' u v

theorem maskAll_stars {f : Family} (hf : f ∈ keys) {u v : List Char} (hu : u.length < 7)
    (hv : v.length < 7) (n : Nat) :
    f.maskAll (u ++ '*' :: (List.replicate n '*' ++ v)) =
      u ++ '*' :: (List.replicate n '*' ++ v) := by
  induction n generalizing u with
  | zero =>
    rw [maskAll_shut (keys_subset hf) (keys_shut hf).1, maskAll_short hf hu]
    exact congrArg (u ++ '*' :: ·) (maskAll_short hf hv)
  | succ n ih =>
    rw [maskAll_shut (keys_subset hf) (keys_shut hf).1, maskAll_short hf hu, List.replicate_succ]
    exact congrArg (u ++ '*' :: ·) (ih (u := []) (by decide))

end Family

/-- A masked secret: stars between at most four characters at either end. -/
theorem maskSecret_stars (s : String) :
    ∃ u n v, (maskSecret s).toList = u ++ '*' :: (List.replicate n '*' ++ v) ∧ u.length ≤ 4 ∧
      v.length ≤ 4 ∧ ∀ c ∈ u ++ v, c ∈ s.toList := by
  unfold maskSecret
  dsimp only
  split
  · obtain ⟨n, hn⟩ : ∃ n, max s.toList.length 4 = n + 1 := ⟨max s.toList.length 4 - 1, by omega⟩
    refine ⟨[], n, [], ?_, by decide, by decide, fun c hc => by cases hc⟩
    rw [String.toList_ofList, hn, List.replicate_succ]
    simp
  · rename_i hlong
    refine ⟨s.toList.take 4, 3, s.toList.drop (s.toList.length - 4), ?_, ?_, ?_, ?_⟩
    · rw [String.toList_ofList]
      simp [List.replicate]
    · rw [List.length_take]
      omega
    · rw [List.length_drop]
      omega
    · intro c hc
      rcases List.mem_append.mp hc with hc | hc
      · exact List.mem_of_mem_take hc
      · exact List.mem_of_mem_drop hc

theorem maskSecret_forall {P : Char → Prop} (hstar : P '*') {s : String}
    (hs : ∀ c ∈ s.toList, P c) : ∀ c ∈ (maskSecret s).toList, P c := by
  obtain ⟨u, n, v, hshape, -, -, hmem⟩ := maskSecret_stars s
  rw [hshape]
  intro c hc
  simp only [List.mem_append, List.mem_cons, List.mem_replicate] at hc hmem
  rcases hc with hc | rfl | ⟨-, rfl⟩ | hc
  · exact hs c (hmem c (.inl hc))
  · exact hstar
  · exact hstar
  · exact hs c (hmem c (.inr hc))

theorem maskSecret_ne_nil (s : String) : (maskSecret s).toList ≠ [] := by
  obtain ⟨u, n, v, hshape, -⟩ := maskSecret_stars s
  simp [hshape]

namespace Family

open Pattern

variable {scheme m : List Char}

theorem wordEdge_bearer (hscheme : scheme.map Char.toLower = "bearer".toList) (rest : List Char) :
    (wordEdge.ends (Place.start none (scheme ++ rest))).head? =
      some (Place.start none (scheme ++ rest)) := by
  have hletters : "bearer".toList = 'b' :: "earer".toList := by decide
  obtain ⟨c, cs, rfl, hc, -⟩ := List.map_eq_cons_iff.mp (hscheme.trans hletters)
  have hcase : c = 'b' ∨ c = 'B' := by
    have hlow := toNat_toLower c
    have hb : 'b'.toNat = 98 := rfl
    have hB : 'B'.toNat = 66 := rfl
    rw [hc, hb] at hlow
    rw [← Char.toNat_inj, ← Char.toNat_inj, hb, hB]
    split at hlow <;> omega
  have hword : CharSet.word.contains c = true := by
    rcases hcase with rfl | rfl <;> decide
  simp [wordEdge, ends, Look.holds, WordEdge.holds, Place.start, memberAt, hword]

/-- The word bearer, a blank, and all that follows. -/
theorem first?_bearer (hscheme : scheme.map Char.toLower = "bearer".toList) (hm : m ≠ [])
    (hchars : ∀ c ∈ m, bearerChars.contains c = true) :
    bearer.pattern.first? none (scheme ++ ' ' :: m) =
      some { (Place.start none (scheme ++ ' ' :: m)).after (scheme ++ ' ' :: m) with
        lead := some (0, scheme.length + 1) } := by
  -- part by part: the edge, the word and the blank, where the kept front ends, then the token
  have hedge := wordEdge_bearer hscheme (' ' :: m)
  generalize hh : Place.start none (scheme ++ ' ' :: m) = h at hedge ⊢
  have hahead : h.ahead = scheme ++ ([' '] ++ m) := by rw [← hh]; rfl
  have hword := head?_ends_wordAnyCase (by decide) hscheme hahead
  have hblank : ((many CharSet.blank 1).ends (h.after scheme)).head? =
      some (h.after (scheme ++ [' '])) := by
    rw [← Place.after_append]
    refine head?_ends_many (List.forall_mem_singleton.mpr (by decide)) (Nat.le_refl 1)
      (fun c hc => ?_) (Place.ahead_after hahead)
    exact CharSet.not_contains_of_apart (by decide) (hchars c (List.mem_of_head? hc))
  have hlead := head?_ends_lead (head?_ends_seq hedge (head?_ends_seq hword hblank))
  generalize he : { h.after (scheme ++ [' ']) with
    lead := some (h.pos, (h.after (scheme ++ [' '])).pos) } = e at hlead
  have hrest : e.ahead = m ++ [] := by
    have hsplit : h.ahead = (scheme ++ [' ']) ++ m := by rw [hahead, List.append_assoc]
    rw [← he, List.append_nil]
    exact Place.ahead_after hsplit
  have htoken := head?_ends_many hchars (List.length_pos_iff.mpr hm) (fun c hc => by cases hc) hrest
  have hpad : ((many (CharSet.single '=') 0).ends (e.after m)).head? = some (e.after m) := by
    refine head?_ends_many (w := []) (fun c hc => by cases hc) (Nat.le_refl 0)
      (fun c hc => ?_) (Place.ahead_after hrest)
    cases hc
  have hall := head?_ends_seq hlead (head?_ends_seq htoken hpad)
  rw [first?, hh]
  refine hall.trans ?_
  rw [← he, ← hh]
  simp [Place.after, Place.start, List.getLast?_cons]
  omega

/-- A text that is one match as a whole. -/
theorem maskAll_whole {f : Family} (hf : f ∈ builtin) {text : List Char} {d : Place}
    (hd : f.pattern.first? none text = some d) (hne : text ≠ [])
    (hr : Place.Reached (Place.start none text) text d) :
    f.maskAll text = text.take d.kept ++ marker := by
  have hd' : f.pattern.first? none ((text ++ []).map id) = some d := by
    rwa [List.append_nil, List.map_id]
  have hr' : Place.Reached (Place.start none ((text ++ []).map id)) (text.map id) d := by
    rwa [List.append_nil, List.map_id]
  have hgaps := (steady hf).gapsFrom_hit hd' hr' hne
  rw [(steady hf).gapsFrom_nil, List.append_nil] at hgaps
  rw [← rewrite_id, rewrite_eq_intercalate, uncut, hgaps, List.intercalate_cons_of_ne_nil (by simp),
    List.intercalate_singleton, List.append_nil]

/-- The family of bearer tokens takes all of a token that is made of its characters. -/
theorem maskAll_bearer (hscheme : scheme.map Char.toLower = "bearer".toList) (hm : m ≠ [])
    (hchars : ∀ c ∈ m, bearerChars.contains c = true) :
    bearer.maskAll (scheme ++ ' ' :: m) = scheme ++ ' ' :: marker := by
  have hmem : bearer ∈ builtin := by simp [builtin]
  have hreached := Place.reached_after (h := Place.start none (scheme ++ ' ' :: m))
    (List.append_nil (scheme ++ ' ' :: m)).symm
  rw [maskAll_whole hmem (first?_bearer hscheme hm hchars) (by simp)
    ⟨hreached.ahead, hreached.pos, hreached.behind⟩]
  have hkept : (scheme ++ ' ' :: m).take (scheme.length + 1) = scheme ++ [' '] := by
    rw [List.take_length_add_append]
    rfl
  simp only [Place.kept, hkept, List.append_assoc, List.singleton_append]

theorem maskAll_key (hscheme : scheme.length = 6) {f : Family} (hf : f ∈ keys) (secret : String) :
    f.maskAll (scheme ++ ' ' :: (maskSecret secret).toList) =
      scheme ++ ' ' :: (maskSecret secret).toList := by
  obtain ⟨u, n, v, hshape, hu, hv, -⟩ := maskSecret_stars secret
  rw [maskAll_shut (keys_subset hf) (keys_shut hf).2, maskAll_short hf (by omega), hshape,
    maskAll_stars hf (by omega) (by omega)]

def beforeAssignment : List Family := [anthropic, langfuse, openai, bearer]

theorem beforeAssignment_subset : beforeAssignment ⊆ builtin := List.take_subset 4 builtin

/-- Whatever the token, the marker is all that is left of it. -/
theorem rewriteAll_token (hscheme : scheme.map Char.toLower = "bearer".toList) {token : String}
    (htoken : ∀ c ∈ token.toList, bearerChars.contains c = true) :
    rewriteAll beforeAssignment id marker (scheme ++ ' ' :: (maskSecret token).toList) =
      scheme ++ ' ' :: marker := by
  have hlen : scheme.length = 6 := by
    rw [← List.length_map (f := Char.toLower), hscheme]
    rfl
  have hkey : ∀ f ∈ keys, f.maskAll (scheme ++ ' ' :: (maskSecret token).toList) =
      scheme ++ ' ' :: (maskSecret token).toList := fun f hf => maskAll_key hlen hf token
  have hchars := maskSecret_forall (P := fun c => bearerChars.contains c = true) (by decide) htoken
  simp only [rewriteAll, beforeAssignment, List.foldl_cons, List.foldl_nil, rewrite_id]
  rw [hkey anthropic (by simp [keys]), hkey langfuse (by simp [keys]),
    hkey openai (by simp [keys]), maskAll_bearer hscheme (maskSecret_ne_nil token) hchars]

end Family
end CallScribe
