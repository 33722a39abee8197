import CallScribe.Langfuse.Exchange
import CallScribe.Proofs.Url.Base
import CallScribe.Url.Domain

/-!
# CallScribe.Proofs.Langfuse.Endpoint

Where the records for a host are posted.

* `Url.resolve_hosted`: a relative path takes the place of what follows the last slash.
* `withoutSlash_eq_iff`: whether anything does.
* `Ingestion.connect_endpoint`: the endpoint of a host lies below the host's path if the path ends
  in a slash.
-/

namespace CallScribe
namespace Url

theorem shorten_of_ne_file {scheme : String} (h : scheme ≠ "file") (ss : List String) :
    shorten scheme ss = ss.dropLast := by
  unfold shorten
  split
  · rw [if_neg (by simp [h])]
    rfl
  · rfl

theorem pathText_of_authority {u : Url} {ss : List String} (h : u.authority.isSome = true)
    (hpath : u.path = .segments ss) : u.pathText = segmentsText ss := by
  unfold pathText
  rw [hpath]
  cases hauthority : u.authority with
  | none =>
    rw [hauthority] at h
    cases h
  | some a => rfl

/-- What follows the last slash is lost. -/
theorem resolve_hosted {u : Url} (h : Hosted u.scheme u) (hspecial : isSpecial u.scheme = true)
    (hfile : u.scheme ≠ "file") (relative : List String) :
    ∃ v before last, u.resolve relative = .ok v ∧ v.scheme = u.scheme ∧
      v.authority = u.authority ∧ v.query = none ∧ v.fragment = none ∧
      u.pathText = before ++ "/" ++ last ∧ '/' ∉ last.toList ∧
      v.pathText = before ++ segmentsText relative := by
  obtain ⟨ss, hpath, hplain, hne⟩ := h.path
  obtain ⟨before, last, rfl⟩ : ∃ before last, ss = before ++ [last] :=
    ⟨_, _, (List.dropLast_concat_getLast (hne hspecial)).symm⟩
  have hresolve : u.resolve relative = .ok
      { u with path := .segments (before ++ relative), query := none, fragment := none } := by
    rw [resolve, hpath]
    dsimp only
    rw [shorten_of_ne_file hfile, List.dropLast_concat]
  refine ⟨_, segmentsText before, last, hresolve, rfl, rfl, rfl, rfl, ?_, ?_, ?_⟩
  · rw [pathText_of_authority h.authority hpath, segmentsText_concat]
  · exact hplain last (List.mem_append_right _ List.mem_cons_self)
  · rw [← segmentsText_append]
    exact pathText_of_authority h.authority rfl

end Url

/-- Whether a text ends in a slash. -/
def EndsInSlash (s : String) : Prop := s.toList.getLast? = some '/'

instance (s : String) : Decidable (EndsInSlash s) :=
  inferInstanceAs (Decidable (s.toList.getLast? = some '/'))

/-- A text without the slash at its end, if there is one. -/
def withoutSlash (s : String) : String :=
  if EndsInSlash s then String.ofList s.toList.dropLast else s

section LastSlash

variable {before last : String}

theorem endsInSlash_iff (h : '/' ∉ last.toList) :
    EndsInSlash (before ++ "/" ++ last) ↔ last = "" := by
  unfold EndsInSlash
  rw [String.toList_append, List.getLast?_append]
  constructor
  · intro hslash
    refine Decidable.byContradiction fun hne => h (List.mem_of_getLast? ?_)
    have hsome : last.toList.getLast?.isSome = true := by simpa using hne
    rwa [Option.or_of_isSome hsome] at hslash
  · rintro rfl
    simp

theorem withoutSlash_eq_iff (h : '/' ∉ last.toList) :
    withoutSlash (before ++ "/" ++ last) = before ↔ EndsInSlash (before ++ "/" ++ last) := by
  constructor
  · intro heq
    refine Decidable.byContradiction fun hends => ?_
    rw [withoutSlash, if_neg hends] at heq
    have hlength := congrArg String.length heq
    simp only [String.length_append] at hlength
    have hslash : "/".length = 1 := rfl
    omega
  · intro hends
    rw [withoutSlash, if_pos hends, (endsInSlash_iff h).mp hends]
    simp

end LastSlash

namespace Ingestion

/-- The endpoint of a host has its scheme, user, name and port. Its path is that of the host up to
the last slash, and then that of the ingestion: it lies below the path of the host exactly if that
ends in a slash. -/
theorem connect_endpoint [DomainNames] {text : String} {c : Credentials}
    (hparse : Url.parse text = .ok c.host)
    (hscheme : c.host.scheme = "http" ∨ c.host.scheme = "https") :
    ∃ i before last, connect c = .ok i ∧
      (∀ config env, Credentials.resolve config env = .ok c → ofConfig config env = .ok i) ∧
      i.endpoint.scheme = c.host.scheme ∧ i.endpoint.authority = c.host.authority ∧
      i.endpoint.authority.isSome = true ∧
      i.endpoint.query = none ∧ i.endpoint.fragment = none ∧
      c.host.pathText = before ++ "/" ++ last ∧ '/' ∉ last.toList ∧
      i.endpoint.pathText = before ++ "/api/public/ingestion" ∧
      (∀ call, (i.request call).line = "POST " ++ i.endpoint.pathText ++ " HTTP/1.1") ∧
      (i.endpoint.pathText = withoutSlash c.host.pathText ++ "/api/public/ingestion" ↔
        EndsInSlash c.host.pathText) := by
  have hspecial : Url.isSpecial c.host.scheme = true := by
    rcases hscheme with h | h <;> rw [h] <;> rfl
  have hfile : c.host.scheme ≠ "file" := by
    rcases hscheme with h | h <;> rw [h] <;> decide
  have hhosted := Url.parse_hosted hparse hspecial
  obtain ⟨v, before, last, hv, hvscheme, hauthority, hquery, hfragment, hpath, hlast, hvpath⟩ :=
    Url.resolve_hosted hhosted hspecial hfile Credentials.endpointPath
  have hpathText : v.pathText = before ++ "/api/public/ingestion" := hvpath
  have hconnect : connect c =
      .ok { endpoint := v, publicKey := c.publicKey, secretKey := c.secretKey } := by
    rw [connect, Credentials.endpoint, hv]
  refine ⟨_, before, last, hconnect, fun config env hresolve => ?_, hvscheme, hauthority, ?_,
    hquery, hfragment, hpath, hlast, hpathText, fun _ => rfl, ?_⟩
  · rw [ofConfig, hresolve]
    exact hconnect
  · dsimp only
    rw [hauthority]
    exact hhosted.authority
  · dsimp only
    rw [hpathText, hpath, String.append_left_inj, eq_comm]
    exact withoutSlash_eq_iff hlast

/-- A backend of its own behind the path of a gateway. -/
def gateway : Credentials where
  host := ⟨"https", some ⟨some "ops:pw", "langfuse.internal", some 8443⟩,
    .segments ["logs", "eu", ""], none, none⟩
  publicKey := ⟨"pk-lf-1"⟩
  secretKey := ⟨"sk-lf-1"⟩

theorem gateway_endpoint :
    Url.parse "https://ops:pw@Langfuse.internal:8443/logs/eu/" = .ok gateway.host ∧
    ∃ i, connect gateway = .ok i ∧ i.endpoint.authority = gateway.host.authority ∧
      i.endpoint.pathText = "/logs/eu/api/public/ingestion" := by
  have hparse : Url.parse "https://ops:pw@Langfuse.internal:8443/logs/eu/" = .ok gateway.host :=
    eq_ok_of_toOption (by decide +kernel)
  obtain ⟨i, _, _, hconnect, -, -, hauthority, -, -, -, -, -, -, -, hiff⟩ :=
    connect_endpoint hparse (.inr rfl)
  have hpath : withoutSlash gateway.host.pathText = "/logs/eu" := by decide +kernel
  refine ⟨hparse, i, hconnect, hauthority, ?_⟩
  rw [hiff.mpr (by decide +kernel), hpath]
  rfl

/-- The same host without a slash at its end: of its path nothing is left in the endpoint. -/
theorem gatewayPath_lost :
    ∃ host i, Url.parse "https://langfuse.internal/logs" = .ok host ∧
      host.scheme = "https" ∧ host.query = none ∧ host.fragment = none ∧
      connect ⟨host, ⟨"pk-lf-1"⟩, ⟨"sk-lf-1"⟩⟩ = .ok i ∧
      i.endpoint.pathText = "/api/public/ingestion" ∧
      withoutSlash host.pathText ++ "/api/public/ingestion" = "/logs/api/public/ingestion" := by
  have hparse : Url.parse "https://langfuse.internal/logs" =
      .ok ⟨"https", some ⟨none, "langfuse.internal", none⟩, .segments ["logs"], none, none⟩ :=
    eq_ok_of_toOption (by decide +kernel)
  exact ⟨_, _, hparse, rfl, rfl, rfl, rfl, by decide +kernel, by decide +kernel⟩

end Ingestion
end CallScribe
