import CallScribe.Langfuse.Credentials
import CallScribe.Proofs.Except
import CallScribe.Url.Domain

/-!
# CallScribe.Proofs.Langfuse.Credentials

Which keys credentials have, and which one is missing.

* `Visible`: a text that is more than white space.
* `Credentials.Supplies`, `Credentials.Lacking`: where a key comes from, and when it comes from
  nowhere. Both depend on which configured texts count as keys.
* `Credentials.resolveKey_cases`: every configured text that is not empty counts.
* `Credentials.Follows`: how credentials are resolved when only certain texts count.
* `Credentials.resolve_keys`: the keys are visible, and the environment fills every gap, as long as
  no configured key consists of white space.
-/

namespace CallScribe

/-- A text that is more than white space. -/
def Visible (s : String) : Prop := ∃ c ∈ s.toList, isBlank c = false

theorem blankText_eq_false_iff {s : String} : blankText s = false ↔ Visible s := by
  simp [blankText, Visible]

theorem Visible.ne_empty {s : String} (h : Visible s) : s ≠ "" := by
  rintro rfl
  obtain ⟨c, hc, -⟩ := h
  cases hc

namespace Credentials

/-- The place that a key comes from: the settings, if their text counts, or else the environment,
if its text is visible. -/
inductive Supplies (counts : String → Prop) (configured : Option Secret)
    (environment : Option String) : Secret → Prop
  | configured {k : Secret} (h : configured = some k) (hk : counts k.value) :
    Supplies counts configured environment k
  | environment {v : String} (hgap : ∀ k, configured = some k → ¬counts k.value)
    (h : environment = some v) (hv : Visible v) : Supplies counts configured environment ⟨v⟩

/-- Neither place has a key. -/
structure Lacking (counts : String → Prop) (configured : Option Secret)
    (environment : Option String) : Prop where
  configured : ∀ k, configured = some k → ¬counts k.value
  environment : ∀ v, environment = some v → ¬Visible v

section Key

variable {counts counts' : String → Prop} {configured : Option Secret} {environment : Option String}
  {k : Secret}

theorem Supplies.not_lacking (h : Supplies counts configured environment k) :
    ¬Lacking counts configured environment := by
  intro hlacking
  cases h with
  | configured h hk => exact hlacking.configured k h hk
  | environment _ h hv => exact hlacking.environment _ h hv

theorem Supplies.congr (hcounts : ∀ k, configured = some k → (counts k.value ↔ counts' k.value))
    (h : Supplies counts configured environment k) : Supplies counts' configured environment k := by
  cases h with
  | configured h hk => exact .configured h ((hcounts k h).mp hk)
  | environment hgap h hv =>
    exact .environment (fun k hk hcount => hgap k hk ((hcounts k hk).mpr hcount)) h hv

theorem lacking_congr (hcounts : ∀ k, configured = some k → (counts k.value ↔ counts' k.value)) :
    Lacking counts configured environment ↔ Lacking counts' configured environment :=
  ⟨fun h => ⟨fun k hk hcount => h.configured k hk ((hcounts k hk).mpr hcount), h.environment⟩,
    fun h => ⟨fun k hk hcount => h.configured k hk ((hcounts k hk).mp hcount), h.environment⟩⟩

end Key

/-- A configured text counts if it is not empty. -/
theorem resolveKey_cases (env : String → Option String) (configured : Option Secret)
    (name : String) :
    (∃ k, resolveKey env configured name = .ok k ∧ Supplies (· ≠ "") configured (env name) k) ∨
      resolveKey env configured name = .error (.missingCredentials name) ∧
        Lacking (· ≠ "") configured (env name) := by
  unfold resolveKey fromEnvironment
  cases hconfigured : configured.filter fun k => !k.isEmpty with
  | some k =>
    obtain ⟨hk, hne⟩ := Option.filter_eq_some_iff.mp hconfigured
    exact .inl ⟨k, rfl, .configured hk (by simpa [Secret.isEmpty] using hne)⟩
  | none =>
    have hgap : ∀ k, configured = some k → ¬k.value ≠ "" := by
      intro k hk
      have hnone := Option.filter_eq_none_iff.mp hconfigured k hk
      simpa [Secret.isEmpty] using hnone
    dsimp only
    cases henv : (env name).filter fun v => !blankText v with
    | some v =>
      obtain ⟨hv, hvisible⟩ := Option.filter_eq_some_iff.mp henv
      rw [Bool.not_eq_true', blankText_eq_false_iff] at hvisible
      exact .inl ⟨⟨v⟩, rfl, .environment hgap hv hvisible⟩
    | none =>
      refine .inr ⟨rfl, hgap, fun v hv hvisible => ?_⟩
      have hnone := Option.filter_eq_none_iff.mp henv v hv
      rw [Bool.not_eq_true', blankText_eq_false_iff] at hnone
      exact hnone hvisible

section Resolution

variable {counts counts' : String → Prop} {config : LangfuseConfig} {env : String → Option String}

/-- The variable of the first key that neither place has; the public key comes first. -/
inductive FirstLacking (counts : String → Prop) (config : LangfuseConfig)
    (env : String → Option String) : String → Prop
  | publicKey (h : Lacking counts config.publicKey (env publicKeyVariable)) :
    FirstLacking counts config env publicKeyVariable
  | secretKey (hpublic : ¬Lacking counts config.publicKey (env publicKeyVariable))
    (h : Lacking counts config.secretKey (env secretKeyVariable)) :
    FirstLacking counts config env secretKeyVariable

theorem FirstLacking.of_publicKey (h : FirstLacking counts config env publicKeyVariable) :
    Lacking counts config.publicKey (env publicKeyVariable) := by
  generalize hname : publicKeyVariable = name at h
  cases h with
  | publicKey h => exact h
  | secretKey => exact absurd hname (by decide)

theorem FirstLacking.of_secretKey (h : FirstLacking counts config env secretKeyVariable) :
    Lacking counts config.secretKey (env secretKeyVariable) := by
  generalize hname : secretKeyVariable = name at h
  cases h with
  | publicKey => exact absurd hname (by decide)
  | secretKey _ h => exact h

theorem FirstLacking.unique {name name' : String} (h : FirstLacking counts config env name)
    (h' : FirstLacking counts config env name') : name' = name := by
  cases h with
  | publicKey h =>
    cases h' with
    | publicKey => rfl
    | secretKey hpublic _ => exact absurd h hpublic
  | secretKey hpublic _ =>
    cases h' with
    | publicKey h => exact absurd h hpublic
    | secretKey => rfl

theorem firstLacking_congr
    (hpublic : ∀ k, config.publicKey = some k → (counts k.value ↔ counts' k.value))
    (hsecret : ∀ k, config.secretKey = some k → (counts k.value ↔ counts' k.value))
    {name : String} (h : FirstLacking counts config env name) :
    FirstLacking counts' config env name := by
  cases h with
  | publicKey h => exact .publicKey ((lacking_congr hpublic).mp h)
  | secretKey hp h =>
    exact .secretKey (mt (lacking_congr hpublic).mpr hp) ((lacking_congr hsecret).mp h)

/-- Either a key is lacking, or both are there and the host decides. -/
theorem resolve_cases [DomainNames] (config : LangfuseConfig) (env : String → Option String) :
    (∃ name, resolve config env = .error (.missingCredentials name) ∧
      FirstLacking (· ≠ "") config env name) ∨
    ∃ pk sk, Supplies (· ≠ "") config.publicKey (env publicKeyVariable) pk ∧
      Supplies (· ≠ "") config.secretKey (env secretKeyVariable) sk ∧
      resolve config env = match Url.parse (hostText config env) with
        | .ok host => .ok ⟨host, pk, sk⟩
        | .error e => .error (.invalidHost (hostText config env) e.message) := by
  rcases resolveKey_cases env config.publicKey publicKeyVariable with
    ⟨pk, hpk, hpublic⟩ | ⟨hpk, hpublic⟩
  · rcases resolveKey_cases env config.secretKey secretKeyVariable with
      ⟨sk, hsk, hsecret⟩ | ⟨hsk, hsecret⟩
    · refine .inr ⟨pk, sk, hpublic, hsecret, ?_⟩
      rw [resolve, hpk, hsk]
      rfl
    · refine .inl ⟨secretKeyVariable, ?_, .secretKey hpublic.not_lacking hsecret⟩
      rw [resolve, hpk, hsk]
      rfl
  · refine .inl ⟨publicKeyVariable, ?_, .publicKey hpublic⟩
    rw [resolve, hpk]
    rfl

/-- How credentials are resolved when only certain configured texts count as keys. -/
structure Follows [DomainNames] (counts : String → Prop) (config : LangfuseConfig)
    (env : String → Option String) : Prop where
  keys : ∀ c, resolve config env = .ok c →
    Supplies counts config.publicKey (env publicKeyVariable) c.publicKey ∧
    Supplies counts config.secretKey (env secretKeyVariable) c.secretKey
  missing : ∀ name, resolve config env = .error (.missingCredentials name) ↔
    FirstLacking counts config env name
  resolves : ∀ host, (∃ c, resolve config env = .ok c ∧ c.host = host) ↔
    (∀ name, ¬FirstLacking counts config env name) ∧ Url.parse (hostText config env) = .ok host

theorem Follows.congr [DomainNames]
    (hpublic : ∀ k, config.publicKey = some k → (counts k.value ↔ counts' k.value))
    (hsecret : ∀ k, config.secretKey = some k → (counts k.value ↔ counts' k.value))
    (h : Follows counts config env) : Follows counts' config env := by
  have hlacking (name : String) :
      FirstLacking counts config env name ↔ FirstLacking counts' config env name :=
    ⟨firstLacking_congr hpublic hsecret, firstLacking_congr (fun k hk => (hpublic k hk).symm)
      fun k hk => (hsecret k hk).symm⟩
  refine ⟨fun c hc => ?_, fun name => ?_, fun host => ?_⟩
  · exact ⟨(h.keys c hc).1.congr hpublic, (h.keys c hc).2.congr hsecret⟩
  · rw [h.missing, hlacking]
  · rw [h.resolves]
    simp only [hlacking]

theorem resolve_follows [DomainNames] (config : LangfuseConfig) (env : String → Option String) :
    Follows (· ≠ "") config env := by
  rcases resolve_cases config env with ⟨name, hresolve, hlacking⟩ | ⟨pk, sk, hpk, hsk, hresolve⟩
  · refine ⟨fun c hc => ?_, fun name' => ?_, fun host => ?_⟩
    · rw [hresolve] at hc
      cases hc
    · rw [hresolve]
      refine ⟨fun h => ?_, fun h => by rw [hlacking.unique h]⟩
      cases h
      exact hlacking
    · refine iff_of_false ?_ fun h => h.1 name hlacking
      rintro ⟨c, hc, -⟩
      rw [hresolve] at hc
      cases hc
  · have hnone : ∀ name, ¬FirstLacking (· ≠ "") config env name := by
      intro name h
      cases h with
      | publicKey h => exact hpk.not_lacking h
      | secretKey _ h => exact hsk.not_lacking h
    cases hparse : Url.parse (hostText config env) with
    | ok host =>
      rw [hparse] at hresolve
      refine ⟨fun c hc => ?_, fun name => iff_of_false ?_ (hnone name), fun host' => ?_⟩
      · rw [hresolve] at hc
        cases hc
        exact ⟨hpk, hsk⟩
      · rw [hresolve]
        exact nofun
      · rw [hresolve, hparse]
        simp [hnone]
    | error e =>
      rw [hparse] at hresolve
      refine ⟨fun c hc => ?_, fun name => iff_of_false ?_ (hnone name), fun host' => ?_⟩
      · rw [hresolve] at hc
        cases hc
      · rw [hresolve]
        exact nofun
      · rw [hresolve, hparse]
        simp

end Resolution

/-- A configured key that is not empty and still consists of white space. -/
def Shadows (configured : Option Secret) : Prop :=
  ∃ k, configured = some k ∧ k.value ≠ "" ∧ ¬Visible k.value

theorem counts_iff_of_not_shadows {configured : Option Secret} (h : ¬Shadows configured)
    (k : Secret) (hk : configured = some k) : k.value ≠ "" ↔ Visible k.value :=
  ⟨fun hne => Classical.byContradiction fun hvisible => h ⟨k, hk, hne, hvisible⟩, Visible.ne_empty⟩

theorem Supplies.visible_iff {configured : Option Secret} {environment : Option String} {k : Secret}
    (h : Supplies (· ≠ "") configured environment k) : Visible k.value ↔ ¬Shadows configured := by
  cases h with
  | configured hk hne =>
    refine ⟨?_, fun h => (counts_iff_of_not_shadows h k hk).mp hne⟩
    rintro hvisible ⟨k', hk', -, hnot⟩
    rw [hk] at hk'
    cases hk'
    exact hnot hvisible
  | environment hgap h hv =>
    refine iff_of_true hv ?_
    rintro ⟨k, hk, hne, -⟩
    exact hgap k hk hne

/-- A key of white space counts for the resolution, so nobody looks for another one. -/
theorem not_lacking_of_shadows {configured : Option Secret} (h : Shadows configured)
    (environment : Option String) : ¬Lacking (· ≠ "") configured environment := by
  obtain ⟨k, hk, hne, -⟩ := h
  exact fun hlacking => hlacking.configured k hk hne

theorem lacking_of_shadows {configured : Option Secret} (h : Shadows configured) :
    Lacking Visible configured none := by
  obtain ⟨k, hk, -, hnot⟩ := h
  refine ⟨fun k' hk' => ?_, nofun⟩
  rw [hk] at hk'
  cases hk'
  exact hnot

/-- An environment that names a public key, and leaves the other variables out. -/
def publicOnly (name : String) : Option String :=
  if name = publicKeyVariable then some "pk-lf-env" else none

/-- The keys are the configured ones that are not empty, and otherwise the visible ones of the
environment; the first that neither place has is the error. A resolved key is visible unless a
configured one of white space shadows it. Without such keys, and only then, blank texts are taken
for gaps in every environment. -/
theorem resolve_keys [DomainNames] (config : LangfuseConfig) :
    (∀ env, Follows (· ≠ "") config env) ∧
    (∀ env c, resolve config env = .ok c →
      (Visible c.publicKey.value ↔ ¬Shadows config.publicKey) ∧
      (Visible c.secretKey.value ↔ ¬Shadows config.secretKey)) ∧
    ((∀ env, Follows Visible config env) ↔
      ¬Shadows config.publicKey ∧ ¬Shadows config.secretKey) := by
  refine ⟨resolve_follows config, fun env c hc => ?_, fun h => ⟨fun hshadows => ?_,
    fun hshadows => ?_⟩, fun ⟨hpublic, hsecret⟩ env => ?_⟩
  · obtain ⟨hpublic, hsecret⟩ := (resolve_follows config env).keys c hc
    exact ⟨hpublic.visible_iff, hsecret.visible_iff⟩
  · -- an environment without anything has to leave the public key lacking
    have hlacking : FirstLacking Visible config (fun _ => none) publicKeyVariable :=
      .publicKey (lacking_of_shadows hshadows)
    have hmissing := ((h _).missing _).mpr hlacking
    have hnot := ((resolve_follows config _).missing _).mp hmissing
    exact not_lacking_of_shadows hshadows _ hnot.of_publicKey
  · -- and one with a public key only, the secret key
    have hpublic : ¬Lacking Visible config.publicKey (publicOnly publicKeyVariable) :=
      fun hnot => hnot.environment _ rfl ⟨'p', by decide, by decide⟩
    have hlacking : FirstLacking Visible config publicOnly secretKeyVariable :=
      .secretKey hpublic (lacking_of_shadows hshadows)
    have hmissing := ((h _).missing _).mpr hlacking
    have hnot := ((resolve_follows config _).missing _).mp hmissing
    exact not_lacking_of_shadows hshadows _ hnot.of_secretKey
  · exact (resolve_follows config env).congr (counts_iff_of_not_shadows hpublic)
      (counts_iff_of_not_shadows hsecret)

/-- An empty key is a gap, and the environment fills it. -/
theorem emptyKey_filled :
    let config : LangfuseConfig := { publicKey := some ⟨""⟩, secretKey := some ⟨"sk-lf-b"⟩ }
    ∃ c, resolve config publicOnly = .ok c ∧ c.publicKey.value = "pk-lf-env" ∧
      Visible c.publicKey.value ∧ Visible c.secretKey.value := by
  intro config
  have hresolve : resolve config publicOnly = .ok
      ⟨⟨"https", some ⟨none, "cloud.langfuse.com", none⟩, .segments [""], none, none⟩,
        ⟨"pk-lf-env"⟩, ⟨"sk-lf-b"⟩⟩ := eq_ok_of_toOption (by decide +kernel)
  obtain ⟨-, hvisible, -⟩ := resolve_keys config
  obtain ⟨hpublic, hsecret⟩ := hvisible publicOnly _ hresolve
  refine ⟨_, hresolve, rfl, hpublic.mpr ?_, hsecret.mpr ?_⟩
  · rintro ⟨k, hk, hne, -⟩
    cases hk
    exact hne rfl
  · rintro ⟨k, hk, -, hnot⟩
    cases hk
    exact hnot ⟨'s', by decide, by decide⟩

/-- Two blanks are no gap, although the same environment has a key. -/
theorem blankKey_kept :
    let config : LangfuseConfig := { publicKey := some ⟨"  "⟩, secretKey := some ⟨"sk-lf-b"⟩ }
    ∃ c, resolve config publicOnly = .ok c ∧ c.publicKey.value = "  " ∧
      ¬Visible c.publicKey.value := by
  intro config
  have hresolve : resolve config publicOnly = .ok
      ⟨⟨"https", some ⟨none, "cloud.langfuse.com", none⟩, .segments [""], none, none⟩,
        ⟨"  "⟩, ⟨"sk-lf-b"⟩⟩ := eq_ok_of_toOption (by decide +kernel)
  refine ⟨_, hresolve, rfl, ?_⟩
  rw [← blankText_eq_false_iff]
  decide

end Credentials
end CallScribe
