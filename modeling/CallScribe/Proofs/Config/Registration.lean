import CallScribe.Config.Load
import CallScribe.Pattern.Compiler
import CallScribe.Proofs.Config.Validation
import CallScribe.Proofs.Langfuse.Keys
import CallScribe.Proofs.Url.Base
import CallScribe.Url.Domain

/-!
# CallScribe.Proofs.Config.Registration

Which settings that keep all rules give adapters.

* `buildKinds_cases`: the adapters of a list of kinds, of their names and in their order, or the
  failure of one of them.
* `Ingestion.ofConfig_of_keyed`: with both keys at hand an address has an endpoint if relative
  paths can be followed from it.
* `LoggingConfig.register_iff`: the rules ask for an address, and registration for its endpoint.
-/

namespace CallScribe

section Kinds

variable [DomainNames] {c : LoggingConfig} {r : Redactor} {env : String → Option String}
  {reply : HttpReply}
  {k : AdapterKind} {ks : List AdapterKind}

theorem buildAdapter_name {a : Adapter} (h : buildAdapter c r env reply k = .ok a) :
    a.name = k.name := by
  cases k with
  | tracing =>
    cases h
    rfl
  | langfuse =>
    rw [buildAdapter_langfuse] at h
    cases hi : Ingestion.ofConfig c.langfuse env with
    | error e =>
      rw [hi] at h
      cases h
    | ok i =>
      rw [hi] at h
      cases h
      rfl

theorem buildKinds_cons_ok {a : Adapter} (h : buildAdapter c r env reply k = .ok a) :
    buildKinds c r env reply (k :: ks) = (buildKinds c r env reply ks).map (a :: ·) := by
  rw [buildKinds, h]
  cases buildKinds c r env reply ks <;> rfl

theorem buildKinds_cons_error {e : LangfuseError} (h : buildAdapter c r env reply k = .error e) :
    buildKinds c r env reply (k :: ks) = .error e := by
  rw [buildKinds, h]
  rfl

/-- Either all kinds give adapters, of their names and in their order, or one of them fails. -/
theorem buildKinds_cases (c : LoggingConfig) (r : Redactor) (env : String → Option String)
    (reply : HttpReply) (ks : List AdapterKind) :
    (∃ as, buildKinds c r env reply ks = .ok as ∧
      as.map Adapter.name = ks.map AdapterKind.name ∧
      ∀ k ∈ ks, ∃ a, buildAdapter c r env reply k = .ok a) ∨
    ∃ e, buildKinds c r env reply ks = .error e ∧
      ∃ k ∈ ks, buildAdapter c r env reply k = .error e := by
  induction ks with
  | nil => exact .inl ⟨[], rfl, rfl, by simp⟩
  | cons k ks ih =>
    cases hk : buildAdapter c r env reply k with
    | error e => exact .inr ⟨e, buildKinds_cons_error hk, k, List.mem_cons_self, hk⟩
    | ok a =>
      rw [buildKinds_cons_ok hk]
      rcases ih with ⟨as, has, hnames, hall⟩ | ⟨e, he, k', hk', hfail⟩
      · left
        refine ⟨a :: as, by rw [has]; rfl, ?_, List.forall_mem_cons.mpr ⟨⟨a, hk⟩, hall⟩⟩
        rw [List.map_cons, List.map_cons, hnames, buildAdapter_name hk]
      · right
        exact ⟨e, by rw [he]; rfl, k', List.mem_cons_of_mem _ hk', hfail⟩

end Kinds

/-- Both keys are configured and not empty. -/
structure LangfuseConfig.Keyed (c : LangfuseConfig) : Prop where
  publicKey : ∃ k, c.publicKey = some k ∧ k.isEmpty = false
  secretKey : ∃ k, c.secretKey = some k ∧ k.isEmpty = false

namespace Ingestion

variable {c : LangfuseConfig} {env : String → Option String} {u : Url}

/-- With both keys and an address the endpoint exists if the address can be followed. -/
theorem ofConfig_of_keyed [DomainNames] (hkeys : c.Keyed)
    (henv : env Credentials.hostVariable = none) (hhost : Url.parse c.host = .ok u) :
    (u.isBase = true ∧ ∃ i, ofConfig c env = .ok i) ∨
      (u.isBase = false ∧
        ofConfig c env = .error (.invalidHost u.text UrlError.relativeToOpaque.message)) := by
  obtain ⟨⟨pk, hpk, hpk'⟩, ⟨sk, hsk, hsk'⟩⟩ := hkeys
  have hpublic : Credentials.resolveKey env c.publicKey Credentials.publicKeyVariable = .ok pk := by
    rw [hpk, Credentials.resolveKey_configured hpk']
  have hsecret : Credentials.resolveKey env c.secretKey Credentials.secretKeyVariable = .ok sk := by
    rw [hsk, Credentials.resolveKey_configured hsk']
  have htext : Credentials.hostText c env = c.host := by
    simp [Credentials.hostText, Credentials.fromEnvironment, henv]
  have hresolve : Credentials.resolve c env = .ok ⟨u, pk, sk⟩ := by
    rw [Credentials.resolve, hpublic, hsecret, htext]
    simp only [bind, Except.bind, hhost]
  have hconnect : ofConfig c env = connect ⟨u, pk, sk⟩ := by
    rw [ofConfig, hresolve]
    rfl
  rw [hconnect, connect, Credentials.endpoint]
  cases hbase : u.isBase with
  | true =>
    obtain ⟨v, hv⟩ := Url.resolve_of_isBase hbase Credentials.endpointPath
    rw [hv]
    exact .inl ⟨rfl, _, rfl⟩
  | false =>
    rw [Url.resolve_of_not_isBase hbase]
    exact .inr ⟨rfl, rfl⟩

end Ingestion

namespace LoggingConfig

/-- The rules see to it that the host of a configured backend is an address. -/
theorem host_of_validate [PatternCompiler] [DomainNames] {c : LoggingConfig}
    (h : c.validate = .ok c) (hmem : .langfuse ∈ c.callbacks.adapters) :
    ∃ u, Url.parse c.langfuse.host = .ok u := by
  have herrors : hostErrors c.langfuse = [] := by
    have h := validate_iff.mp h
    simp only [errors, List.append_eq_nil_iff, List.contains_iff_mem, hmem, if_true] at h
    exact h.1.1.2.1
  unfold hostErrors at herrors
  split at herrors
  · exact ⟨_, ‹_›⟩
  · cases herrors

theorem buildAdapter_of_keyed [DomainNames] {c : LoggingConfig} {env : String → Option String}
    {u : Url}
    (hkeys : c.langfuse.Keyed) (henv : env Credentials.hostVariable = none)
    (hhost : Url.parse c.langfuse.host = .ok u) (r : Redactor) (reply : HttpReply) :
    (Url.namesBase c.langfuse.host = true ∧ ∃ a, buildAdapter c r env reply .langfuse = .ok a) ∨
      (Url.namesBase c.langfuse.host = false ∧ buildAdapter c r env reply .langfuse =
        .error (.invalidHost u.text UrlError.relativeToOpaque.message)) := by
  rw [buildAdapter_langfuse, ← Url.parse_isBase hhost]
  rcases Ingestion.ofConfig_of_keyed hkeys henv hhost with ⟨hbase, i, hi⟩ | ⟨hbase, hfail⟩
  · rw [hi]
    exact .inl ⟨hbase, _, rfl⟩
  · rw [hfail]
    exact .inr ⟨hbase, rfl⟩

/-- Settings that keep the rules and have both keys give adapters, of the configured names and in
the configured order, unless the backend is among them and its host is an address that cannot be
followed to the endpoint. That is then the failure. -/
theorem register_iff [PatternCompiler] [DomainNames] {c : LoggingConfig}
    {env : String → Option String}
    (hvalid : c.validate = .ok c) (hkeys : c.langfuse.Keyed)
    (henv : env Credentials.hostVariable = none) (r : Redactor) (reply : HttpReply) :
    ((∃ as, buildAdapters c r env reply = .ok as) ↔
      (.langfuse ∈ c.callbacks.adapters → Url.namesBase c.langfuse.host = true)) ∧
    (∀ as, buildAdapters c r env reply = .ok as →
      as.map Adapter.name = c.callbacks.adapters.map AdapterKind.name) ∧
    ∀ e, buildAdapters c r env reply = .error e →
      ∃ u, Url.parse c.langfuse.host = .ok u ∧
        e = .invalidHost u.text UrlError.relativeToOpaque.message := by
  unfold buildAdapters
  rcases buildKinds_cases c r env reply c.callbacks.adapters with
    ⟨as, has, hnames, hall⟩ | ⟨e, he, k, hk, hfail⟩
  · rw [has]
    refine ⟨⟨fun _ hmem => ?_, fun _ => ⟨as, rfl⟩⟩, ?_, ?_⟩
    · obtain ⟨u, hu⟩ := host_of_validate hvalid hmem
      obtain ⟨a, ha⟩ := hall .langfuse hmem
      rcases buildAdapter_of_keyed hkeys henv hu r reply with ⟨hbase, -⟩ | ⟨-, hfail⟩
      · exact hbase
      · rw [ha] at hfail
        cases hfail
    · intro as' h
      cases h
      exact hnames
    · intro e h
      cases h
  · rw [he]
    cases k with
    | tracing => cases hfail
    | langfuse =>
      obtain ⟨u, hu⟩ := host_of_validate hvalid hk
      rcases buildAdapter_of_keyed hkeys henv hu r reply with ⟨-, a, ha⟩ | ⟨hbase, hfail'⟩
      · rw [ha] at hfail
        cases hfail
      · rw [hfail'] at hfail
        cases hfail
        refine ⟨⟨?_, fun h => ?_⟩, ?_, ?_⟩
        · rintro ⟨as, has⟩
          cases has
        · rw [h hk] at hbase
          cases hbase
        · intro as h
          cases h
        · intro e h
          cases h
          exact ⟨u, hu, rfl⟩

/-- An environment without variables. -/
def noVariables (_ : String) : Option String := none

/-- A tracing adapter beside a backend of its own. -/
def ownHost : LoggingConfig where
  callbacks := { adapters := [.tracing, .langfuse] }
  langfuse := {
    host := "https://langfuse.internal/logs/"
    publicKey := some ⟨"pk-lf-1"⟩
    secretKey := some ⟨"sk-lf-1"⟩ }

theorem ownHost_registered :
    ∃ as, buildAdapters ownHost Redactor.builtin noVariables (.answered 207 "") = .ok as ∧
      as.map Adapter.name = ["tracing", "langfuse"] := by
  have hkeys : ownHost.langfuse.Keyed :=
    ⟨⟨⟨"pk-lf-1"⟩, rfl, by decide⟩, ⟨⟨"sk-lf-1"⟩, rfl, by decide⟩⟩
  have hvalid : ownHost.validate = .ok ownHost := validate_iff.mpr (by decide +kernel)
  have henv : noVariables Credentials.hostVariable = none := rfl
  obtain ⟨hiff, hnames, -⟩ :=
    register_iff hvalid hkeys henv Redactor.builtin (.answered 207 "")
  obtain ⟨as, has⟩ := hiff.mpr fun _ => by decide +kernel
  exact ⟨as, has, hnames as has⟩

/-- The scheme has been forgotten: what is left is an address with the scheme `localhost`. -/
def forgottenScheme : LoggingConfig :=
  { ownHost with langfuse := { ownHost.langfuse with host := "localhost:3000" } }

/-- The rules are kept and both keys are there, and still there are no adapters. -/
theorem forgottenScheme_unregistered :
    forgottenScheme.validate = .ok forgottenScheme ∧ forgottenScheme.langfuse.Keyed ∧
      buildAdapters forgottenScheme Redactor.builtin noVariables (.answered 207 "") =
        .error (.invalidHost "localhost:3000" "relative URL with a cannot-be-a-base base") := by
  have hkeys : forgottenScheme.langfuse.Keyed :=
    ⟨⟨⟨"pk-lf-1"⟩, rfl, by decide⟩, ⟨⟨"sk-lf-1"⟩, rfl, by decide⟩⟩
  have hhost : Url.parse forgottenScheme.langfuse.host =
      .ok ⟨"localhost", none, .opaqueText "3000", none, none⟩ :=
    eq_ok_of_toOption (by decide +kernel)
  have henv : noVariables Credentials.hostVariable = none := rfl
  refine ⟨validate_iff.mpr (by decide +kernel), hkeys, ?_⟩
  rcases buildAdapter_of_keyed hkeys henv hhost Redactor.builtin (.answered 207 "") with
    ⟨hbase, -⟩ | ⟨-, hfail⟩
  · exact absurd hbase (by decide +kernel)
  · exact (buildKinds_cons_ok rfl).trans (congrArg _ (buildKinds_cons_error hfail))

end LoggingConfig
end CallScribe
