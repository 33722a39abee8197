import CallScribe.Proofs.Except
import CallScribe.Proofs.Url.Path

/-!
# CallScribe.Proofs.Url.Base

Addresses that relative paths can be followed from.

* `Url.isBase`, `Url.resolve_of_isBase`, `Url.resolve_of_not_isBase`: they are those with a path of
  segments.
* `Url.Hosted`, `Url.parse_hosted`: an address with a special scheme has a host and a path.
* `Url.namesBase`: the texts of such addresses.
* `Url.parse_isBase`: the parser agrees.
-/

namespace CallScribe
namespace Url

def isBase (u : Url) : Bool :=
  match u.path with
  | .segments _ => true
  | .opaqueText _ => false

theorem resolve_of_isBase {u : Url} (h : u.isBase = true) (relative : List String) :
    ∃ v, u.resolve relative = .ok v := by
  unfold isBase at h
  unfold resolve
  cases hpath : u.path with
  | segments ss => exact ⟨_, rfl⟩
  | opaqueText s =>
    rw [hpath] at h
    cases h

theorem resolve_of_not_isBase {u : Url} (h : u.isBase = false) (relative : List String) :
    u.resolve relative = .error .relativeToOpaque := by
  unfold isBase at h
  unfold resolve
  cases hpath : u.path with
  | segments ss =>
    rw [hpath] at h
    cases h
  | opaqueText s => rfl

/-- A host, and a path of segments behind it, at least one if the scheme is special. -/
structure Hosted (scheme : String) (u : Url) : Prop where
  scheme : u.scheme = scheme
  authority : u.authority.isSome = true
  path : ∃ ss, u.path = .segments ss ∧ Plain ss ∧ (isSpecial u.scheme = true → ss ≠ [])

theorem Hosted.isBase {scheme : String} {u : Url} (h : Hosted scheme u) : u.isBase = true := by
  obtain ⟨ss, hpath, -⟩ := h.path
  rw [Url.isBase, hpath]

theorem finish_hosted {scheme : String} {a : UrlAuthority} {ss : List String} {rest : List Char}
    (hplain : Plain ss) (hne : isSpecial scheme = true → ss ≠ []) :
    ResultsAre (Hosted scheme) (.ok (finish scheme (some a) (.segments ss) rest) :
      Except UrlError Url) := .ok ⟨rfl, rfl, ss, rfl, hplain, hne⟩

section Reading

variable [DomainNames]

theorem readAuthority_hosted (scheme : String) (cs : List Char) :
    ResultsAre (Hosted scheme) (readAuthority scheme cs) := by
  have hfinish (a : UrlAuthority) (rest : List Char) :
      ResultsAre (Hosted scheme) (.ok (finish scheme (some a)
        (.segments (readPathAfterHost scheme rest).1) (readPathAfterHost scheme rest).2) :
        Except UrlError Url) :=
    finish_hosted (readPathAfterHost_plain _ _) fun h => readPathAfterHost_ne_nil h _
  unfold readAuthority
  dsimp only
  split
  · exact .error
  · split
    · exact .error
    · -- a host of either kind is followed by port and path in the same way
      split
      all_goals
        refine .bind fun shown => ?_
        split
        · exact .error
        · split <;> exact .bind fun _ => hfinish _ _

theorem readFileHost_hosted (cs : List Char) :
    ResultsAre (Hosted "file") (readFileHost cs) := by
  unfold readFileHost
  dsimp only
  split
  · exact finish_hosted (readPath_plain _ _) fun _ => readPath_ne_nil _ _
  · exact .bind fun _ => finish_hosted (readPathAfterHost_plain _ _)
      fun h => readPathAfterHost_ne_nil h _

theorem readFile_hosted (cs : List Char) : ResultsAre (Hosted "file") (readFile cs) := by
  have hfinish (rest : List Char) : ResultsAre (Hosted "file") (.ok (finish "file"
      (some ⟨none, "", none⟩) (.segments (readPath "file" rest).1) (readPath "file" rest).2) :
      Except UrlError Url) :=
    finish_hosted (readPath_plain _ _) fun _ => readPath_ne_nil _ _
  unfold readFile
  dsimp only
  split
  · split
    · exact readFileHost_hosted _
    · exact hfinish _
  · exact hfinish _

/-- After a special scheme there is always a host, if only an empty one. -/
theorem readAfterScheme_hosted {scheme : String} (h : isSpecial scheme = true) (cs : List Char) :
    ResultsAre (Hosted scheme) (readAfterScheme scheme cs) := by
  unfold readAfterScheme
  by_cases hfile : scheme = "file"
  · subst hfile
    exact readFile_hosted cs
  · rw [if_neg hfile, if_pos h]
    exact readAuthority_hosted scheme _

theorem readAfterScheme_scheme (scheme : String) (cs : List Char) :
    ResultsAre (fun u => u.scheme = scheme) (readAfterScheme scheme cs) := by
  intro u hu
  by_cases hspecial : isSpecial scheme = true
  · exact (readAfterScheme_hosted hspecial cs u hu).scheme
  · have hfile : scheme ≠ "file" := by
      rintro rfl
      exact hspecial rfl
    unfold readAfterScheme at hu
    rw [if_neg hfile, if_neg hspecial] at hu
    split at hu
    · exact (readAuthority_hosted scheme _ u hu).scheme
    all_goals
      cases hu
      rfl

/-- An address with a special scheme has a host and a path. -/
theorem parse_hosted {s : String} {u : Url} (h : parse s = .ok u)
    (hspecial : isSpecial u.scheme = true) : Hosted u.scheme u := by
  unfold parse at h
  split at h
  · cases h
  · next scheme rest _ =>
    have hscheme := readAfterScheme_scheme scheme rest u h
    rw [hscheme] at hspecial ⊢
    exact readAfterScheme_hosted hspecial rest u h

end Reading

/-- Whether the scheme, or else a slash behind it, makes what follows a path of segments. -/
def startsPath (scheme : String) (rest : List Char) : Bool :=
  isSpecial scheme || rest.head? = some '/'

theorem readAfterScheme_isBase [DomainNames] {scheme : String} {cs : List Char} {u : Url}
    (h : readAfterScheme scheme cs = .ok u) : u.isBase = startsPath scheme cs := by
  unfold readAfterScheme at h
  by_cases hfile : scheme = "file"
  · subst hfile
    exact (readFile_hosted cs u h).isBase
  · rw [if_neg hfile] at h
    cases hspecial : isSpecial scheme with
    | true =>
      rw [hspecial, if_pos rfl] at h
      rw [(readAuthority_hosted scheme _ u h).isBase, startsPath, hspecial, Bool.true_or]
    | false =>
      rw [hspecial, if_neg Bool.false_ne_true] at h
      rw [startsPath, hspecial, Bool.false_or]
      split at h
      · exact (readAuthority_hosted scheme _ u h).isBase
      · cases h
        rfl
      · next _ hslash =>
        cases h
        have hhead : cs.head? ≠ some '/' := by
          intro hhead
          obtain ⟨rest, hcs⟩ := List.head?_eq_some_iff.mp hhead
          exact hslash rest hcs
        simp [hhead, isBase, finish]

/-- Whether a text, if it is an address at all, is one that can be followed: by its scheme and the
character behind the colon. -/
def namesBase (s : String) : Bool :=
  match readScheme (clean s.toList) with
  | none => false
  | some (scheme, rest) => startsPath scheme rest

theorem parse_isBase [DomainNames] {s : String} {u : Url} (h : parse s = .ok u) :
    u.isBase = namesBase s := by
  unfold parse at h
  unfold namesBase
  cases hscheme : readScheme (clean s.toList) with
  | none =>
    rw [hscheme] at h
    cases h
  | some found =>
    rw [hscheme] at h
    exact readAfterScheme_isBase h

end Url
end CallScribe
