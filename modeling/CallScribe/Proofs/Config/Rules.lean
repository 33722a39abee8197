import CallScribe.Pattern.Compiler
import CallScribe.Proofs.Config.Validation
import CallScribe.Url.Domain

/-!
# CallScribe.Proofs.Config.Rules

The rules for settings one by one. Each looks at its own field; the adapters also decide whether
those about their backend apply.

* `SettingRule`, `SettingRule.complaint`: a rule at one place, and what it finds wrong there.
* `LoggingConfig.rules`, `LoggingConfig.findings`: all rules in their order, and what they find.
* `LoggingConfig.errors_eq_findings`: validation is that list; what it remembers of earlier
  adapters and of positions comes to the same.
* `LoggingConfig.Edited`: settings that differ in one field.
* `LoggingConfig.Edited.findings_eq`: the findings about all other fields stay.
-/

namespace CallScribe

/-- A rule for settings; the number is a position in a list. -/
inductive SettingRule
  | timeout
  | adapter (i : Nat)
  | familyName (i : Nat)
  | familyPattern (i : Nat)
  | host
  | requestTimeout
  | logLevel
  | metricsAddress
deriving DecidableEq

namespace SettingRule

variable [PatternCompiler] [DomainNames]

/-- The field that the rule is about. -/
def field : SettingRule → String
  | .timeout => "callbacks.timeout_ms"
  | .adapter _ => "callbacks.adapters"
  | .familyName i | .familyPattern i => familyField i
  | .host => "langfuse.host"
  | .requestTimeout => "langfuse.request_timeout_secs"
  | .logLevel => "observability.log_level"
  | .metricsAddress => "observability.metrics_address"

/-- What the rule finds wrong. Of a pattern it says what the compiler says. -/
def complaint (c : LoggingConfig) : SettingRule → Option String
  | .timeout => if c.callbacks.timeoutMillis = 0 then some "must be greater than zero" else none
  | .adapter i => c.callbacks.adapters[i]?.bind fun k =>
    if k ∈ c.callbacks.adapters.take i then some (k.title ++ " is registered more than once")
    else none
  | .familyName i => c.redaction.families[i]?.bind fun e =>
    if blankText e.name then some "name must not be empty" else none
  | .familyPattern i => c.redaction.families[i]?.bind fun e =>
    match PatternCompiler.compile e.pattern with
    | .ok _ => none
    | .error (some reason) => some ("invalid redaction pattern '" ++ e.name ++ "': " ++ reason)
    | .error none => some ("invalid redaction pattern '" ++ e.name ++ "'")
  | .host =>
    if .langfuse ∈ c.callbacks.adapters then
      match Url.parse c.langfuse.host with
      | .ok _ => none
      | .error e => some ("invalid URL " ++ quoted c.langfuse.host ++ ": " ++ e.message)
    else none
  | .requestTimeout =>
    if .langfuse ∈ c.callbacks.adapters ∧ c.langfuse.requestTimeoutSecs = 0 then
      some "must be greater than zero"
    else none
  | .logLevel =>
    if c.observability.logLevel.toLower ∈ logLevels then none
    else some ("unknown level " ++ quoted c.observability.logLevel ++
      ", expected one of trace, debug, info, warn, error")
  | .metricsAddress =>
    if c.observability.metricsEnabled ∧
        SocketAddress.parse? c.observability.metricsAddress = none then
      some ("invalid socket address " ++ quoted c.observability.metricsAddress)
    else none

def error? (c : LoggingConfig) (r : SettingRule) : Option SettingError :=
  (r.complaint c).map (SettingError.mk r.field)

end SettingRule

namespace LoggingConfig

open SettingRule

/-- The rules in their order. Those about the name and the pattern of a family alternate. -/
def rules (c : LoggingConfig) : List SettingRule :=
  [.timeout] ++ (List.range c.callbacks.adapters.length).map .adapter ++
    (List.range c.redaction.families.length).flatMap (fun i => [.familyName i, .familyPattern i]) ++
    [.host, .requestTimeout, .logLevel, .metricsAddress]

/-- What the rules find wrong, in their order. -/
def findings [PatternCompiler] [DomainNames] (c : LoggingConfig) : List SettingError :=
  c.rules.filterMap (error? c)

end LoggingConfig

section Lists

theorem errorIf_eq (broken : Bool) (field message : String) : errorIf broken field message =
    ((if broken then some message else none).map (SettingError.mk field)).toList := by
  cases broken <;> rfl

/-- The adapters that have been seen are those before the position. -/
theorem repeatedAdapters_eq (seen ks : List AdapterKind) :
    repeatedAdapters seen ks = (List.range ks.length).filterMap fun i => ks[i]?.bind fun k =>
      if k ∈ seen ∨ k ∈ ks.take i then
        some ⟨"callbacks.adapters", k.title ++ " is registered more than once"⟩
      else none := by
  induction ks generalizing seen with
  | nil => rfl
  | cons k ks ih =>
    have hmem (k' : AdapterKind) (i : Nat) :
        (k' ∈ seen ∨ k' ∈ k :: ks.take i) ↔ k' ∈ k :: seen ∨ k' ∈ ks.take i := by
      simp only [List.mem_cons]
      exact or_left_comm.trans or_assoc.symm
    rw [repeatedAdapters, ih, List.length_cons, List.range_succ_eq_map, List.filterMap_cons,
      List.filterMap_map]
    simp only [Function.comp_def, List.getElem?_cons_succ, List.take_succ_cons, hmem,
      List.getElem?_cons_zero, Option.bind_some, List.take_zero, List.not_mem_nil, or_false,
      errorIf, List.contains_iff_mem]
    by_cases hk : k ∈ seen
    · rw [if_pos hk, if_pos hk]
      rfl
    · rw [if_neg hk, if_neg hk]
      rfl

theorem filterMap_cons_toList {α β : Type} (f : α → Option β) (a : α) (as : List α) :
    (a :: as).filterMap f = (f a).toList ++ as.filterMap f := by
  cases h : f a <;> simp [h]

theorem lt_of_bind_ne_none {α β : Type} {as : List α} {i : Nat} {f : α → Option β}
    (h : as[i]?.bind f ≠ none) : i < as.length := by
  refine Nat.lt_of_not_le fun hle => h ?_
  rw [List.getElem?_eq_none hle, Option.bind_none]

/-- One family, with what stands for it among the findings. -/
theorem familyErrors_eq [PatternCompiler] [DomainNames] (c : LoggingConfig) (i : Nat)
    (e : FamilyEntry) (h : c.redaction.families[i]? = some e) :
    familyErrors i e =
      [SettingRule.familyName i, .familyPattern i].filterMap (SettingRule.error? c) := by
  rw [filterMap_cons_toList, filterMap_cons_toList, List.filterMap_nil, List.append_nil,
    familyErrors]
  congr 1
  · simp only [SettingRule.error?, SettingRule.complaint, h, Option.bind_some, SettingRule.field,
      errorIf]
    split <;> rfl
  · simp only [SettingRule.error?, SettingRule.complaint, h, Option.bind_some, SettingRule.field,
      Family.ofEntry]
    cases PatternCompiler.compile e.pattern with
    | ok p => rfl
    | error reason => cases reason <;> rfl

/-- Positions are counted from the first of the families, wherever these begin in the list. -/
theorem allFamilyErrors_eq [PatternCompiler] [DomainNames] (c : LoggingConfig) (n : Nat)
    (es : List FamilyEntry) (h : ∀ j e, es[j]? = some e → c.redaction.families[n + j]? = some e) :
    allFamilyErrors n es = ((List.range es.length).flatMap fun j =>
      [SettingRule.familyName (n + j), .familyPattern (n + j)]).filterMap
        (SettingRule.error? c) := by
  induction es generalizing n with
  | nil => rfl
  | cons e es ih =>
    have htail : ∀ j e, es[j]? = some e → c.redaction.families[n + 1 + j]? = some e := by
      intro j e' he'
      rw [Nat.add_assoc, Nat.add_comm 1 j]
      exact h (j + 1) e' (by rwa [List.getElem?_cons_succ])
    rw [allFamilyErrors, ih (n + 1) htail, familyErrors_eq c n e (h 0 e rfl), List.length_cons,
      List.range_succ_eq_map, List.flatMap_cons, List.filterMap_append, List.flatMap_map]
    congr 4
    funext j
    have hshift : n + 1 + j = n + Nat.succ j := by omega
    rw [hshift]

end Lists

namespace LoggingConfig

open SettingRule

/-- Validation finds what the rules find one by one. -/
theorem errors_eq_findings [PatternCompiler] [DomainNames] (c : LoggingConfig) :
    c.errors = c.findings := by
  have hadapters : repeatedAdapters [] c.callbacks.adapters =
      ((List.range c.callbacks.adapters.length).map SettingRule.adapter).filterMap
        (error? c) := by
    rw [repeatedAdapters_eq, List.filterMap_map]
    congr 1
    funext i
    simp only [Function.comp_def, error?, complaint, SettingRule.field, List.not_mem_nil, false_or]
    cases c.callbacks.adapters[i]? with
    | none => rfl
    | some k =>
      simp only [Option.bind_some]
      split <;> rfl
  have hfamilies := allFamilyErrors_eq c 0 c.redaction.families fun j e he => by rwa [Nat.zero_add]
  simp only [Nat.zero_add] at hfamilies
  have htimeout : errorIf (c.callbacks.timeoutMillis = 0) "callbacks.timeout_ms"
      "must be greater than zero" = (error? c .timeout).toList := by
    simp [errorIf_eq, error?, complaint, field]
  have hbackend : (if c.callbacks.adapters.contains .langfuse then
        hostErrors c.langfuse ++ errorIf (c.langfuse.requestTimeoutSecs = 0)
          "langfuse.request_timeout_secs" "must be greater than zero"
      else []) = (error? c .host).toList ++ (error? c .requestTimeout).toList := by
    by_cases hmem : .langfuse ∈ c.callbacks.adapters
    · have hhost : hostErrors c.langfuse = (error? c .host).toList := by
        simp only [hostErrors, error?, complaint, field, if_pos hmem]
        cases Url.parse c.langfuse.host <;> rfl
      have hrequest : errorIf (c.langfuse.requestTimeoutSecs = 0) "langfuse.request_timeout_secs"
          "must be greater than zero" = (error? c .requestTimeout).toList := by
        simp [errorIf_eq, error?, complaint, field, hmem]
      rw [if_pos (List.contains_iff_mem.mpr hmem), hhost, hrequest]
    · simp [error?, complaint, hmem]
  have hlevel : errorIf (!logLevels.contains c.observability.logLevel.toLower)
      "observability.log_level" ("unknown level " ++ quoted c.observability.logLevel ++
        ", expected one of " ++ String.intercalate ", " logLevels) =
      (error? c .logLevel).toList := by
    have hlist : ", expected one of " ++ String.intercalate ", " logLevels =
      ", expected one of trace, debug, info, warn, error" := by decide
    rw [errorIf_eq, String.append_assoc, hlist]
    by_cases h : c.observability.logLevel.toLower ∈ logLevels <;>
      simp [error?, complaint, field, h]
  have hmetrics : errorIf (c.observability.metricsEnabled &&
        (SocketAddress.parse? c.observability.metricsAddress).isNone)
      "observability.metrics_address"
      ("invalid socket address " ++ quoted c.observability.metricsAddress) =
      (error? c .metricsAddress).toList := by
    simp [errorIf_eq, error?, complaint, field]
  rw [errors, htimeout, hadapters, hfamilies, hbackend, hlevel, hmetrics]
  simp only [findings, rules, List.filterMap_append, filterMap_cons_toList, List.filterMap_nil,
    List.append_nil, List.append_assoc]

section Rules

variable {c : LoggingConfig}

theorem nodup_rules (c : LoggingConfig) : c.rules.Nodup := by
  have hadapters : ((List.range c.callbacks.adapters.length).map SettingRule.adapter).Nodup :=
    List.pairwise_map.mpr (List.nodup_range.imp fun hne heq => hne (SettingRule.adapter.inj heq))
  have hfamilies : ((List.range c.redaction.families.length).flatMap fun i =>
      [SettingRule.familyName i, .familyPattern i]).Nodup := by
    refine List.pairwise_flatMap.mpr ⟨fun i _ => by simp, List.nodup_range.imp fun hne => ?_⟩
    simp [hne]
  rw [rules, List.nodup_append, List.nodup_append, List.nodup_append]
  refine ⟨⟨⟨by simp, hadapters, ?_⟩, hfamilies, ?_⟩, by simp, ?_⟩
  all_goals
    rintro a ha _ hb rfl
    cases a <;> simp at ha hb

/-- A rule about a position behind the end of its list finds nothing. -/
theorem mem_rules_of_complaint [PatternCompiler] [DomainNames] {r : SettingRule}
    (h : r.complaint c ≠ none) : r ∈ c.rules := by
  simp only [rules, List.mem_append, List.mem_cons, List.mem_map, List.mem_range, List.mem_flatMap,
    List.not_mem_nil, or_false]
  cases r with
  | adapter i => simp [lt_of_bind_ne_none h]
  | familyName i => simp [lt_of_bind_ne_none h]
  | familyPattern i => simp [lt_of_bind_ne_none h]
  | timeout | host | requestTimeout | logLevel | metricsAddress => simp

theorem findings_eq_nil_iff [PatternCompiler] [DomainNames] :
    c.findings = [] ↔ ∀ r : SettingRule, r.complaint c = none := by
  unfold findings
  rw [List.filterMap_eq_nil_iff]
  refine ⟨fun h r => Classical.byContradiction fun hr => hr ?_, fun h r _ => ?_⟩
  · exact Option.map_eq_none_iff.mp (h r (mem_rules_of_complaint hr))
  · rw [error?, h r, Option.map_none]

end Rules

/-- Settings with another family at one place. -/
def withFamily (c : LoggingConfig) (i : Nat) (e : FamilyEntry) : LoggingConfig :=
  { c with redaction := { families := c.redaction.families.set i e } }

/-- Settings with another value in one field. The adapters stay the same kinds, the families as
many. Whether metrics are served goes with their address; what no rule looks at, with any field. -/
inductive Edited (c : LoggingConfig) : String → LoggingConfig → Prop
  | timeout (millis : Nat) : Edited c (SettingRule.field .timeout)
    { c with callbacks := { c.callbacks with timeoutMillis := millis } }
  | adapters (kinds : List AdapterKind) (h : ∀ k, k ∈ kinds ↔ k ∈ c.callbacks.adapters) :
    Edited c "callbacks.adapters" { c with callbacks := { c.callbacks with adapters := kinds } }
  | family (i : Nat) (e : FamilyEntry) : Edited c (familyField i) (c.withFamily i e)
  | host (text : String) : Edited c (SettingRule.field .host)
    { c with langfuse := { c.langfuse with host := text } }
  | requestTimeout (secs : Nat) : Edited c (SettingRule.field .requestTimeout)
    { c with langfuse := { c.langfuse with requestTimeoutSecs := secs } }
  | logLevel (text : String) : Edited c (SettingRule.field .logLevel)
    { c with observability := { c.observability with logLevel := text } }
  | metricsAddress (text : String) : Edited c (SettingRule.field .metricsAddress)
    { c with observability := { c.observability with metricsAddress := text } }
  | metricsEnabled (b : Bool) : Edited c (SettingRule.field .metricsAddress)
    { c with observability := { c.observability with metricsEnabled := b } }
  | elsewhere (path : String) (policy : PolicyConfig) (publicKey secretKey : Option Secret)
    (release : Option String) (format : LogFormat) : Edited c path
    { c with
      policy := policy
      langfuse :=
        { c.langfuse with publicKey := publicKey, secretKey := secretKey, release := release }
      observability := { c.observability with logFormat := format } }

section Edits

variable [PatternCompiler] [DomainNames] {c c' : LoggingConfig} {path : String}

/-- Rules about other fields do not notice the change. -/
theorem Edited.complaint_eq (h : c.Edited path c') {r : SettingRule} (hr : r.field ≠ path) :
    r.complaint c' = r.complaint c := by
  cases h with
  | timeout millis =>
    cases r with
    | timeout => exact absurd rfl hr
    | adapter | familyName | familyPattern | host | requestTimeout | logLevel | metricsAddress =>
      rfl
  | adapters kinds h =>
    cases r with
    | adapter i => exact absurd rfl hr
    | host => simp only [complaint, h]
    | requestTimeout => simp only [complaint, h]
    | timeout | familyName | familyPattern | logLevel | metricsAddress => rfl
  | family i e =>
    cases r with
    | familyName j =>
      have hj : i ≠ j := fun hij => hr (congrArg familyField hij.symm)
      simp only [complaint, withFamily, List.getElem?_set_ne hj]
    | familyPattern j =>
      have hj : i ≠ j := fun hij => hr (congrArg familyField hij.symm)
      simp only [complaint, withFamily, List.getElem?_set_ne hj]
    | timeout | adapter | host | requestTimeout | logLevel | metricsAddress => rfl
  | host text =>
    cases r with
    | host => exact absurd rfl hr
    | timeout | adapter | familyName | familyPattern | requestTimeout | logLevel | metricsAddress =>
      rfl
  | requestTimeout secs =>
    cases r with
    | requestTimeout => exact absurd rfl hr
    | timeout | adapter | familyName | familyPattern | host | logLevel | metricsAddress => rfl
  | logLevel text =>
    cases r with
    | logLevel => exact absurd rfl hr
    | timeout | adapter | familyName | familyPattern | host | requestTimeout | metricsAddress => rfl
  | metricsAddress text =>
    cases r with
    | metricsAddress => exact absurd rfl hr
    | timeout | adapter | familyName | familyPattern | host | requestTimeout | logLevel => rfl
  | metricsEnabled b =>
    cases r with
    | metricsAddress => exact absurd rfl hr
    | timeout | adapter | familyName | familyPattern | host | requestTimeout | logLevel => rfl
  | elsewhere => cases r <;> rfl

theorem filter_findings (c : LoggingConfig) (path : String) :
    c.findings.filter (·.field ≠ path) =
      c.rules.filterMap fun r => if r.field = path then none else r.error? c := by
  unfold findings
  rw [List.filter_filterMap]
  congr 1
  funext r
  rw [error?]
  by_cases hr : r.field = path <;> cases r.complaint c <;> simp [hr]

omit [PatternCompiler] [DomainNames] in
/-- The same rules apply but for those about the field. -/
theorem Edited.rules_eq (h : c.Edited path c') (f : SettingRule → Option SettingError) :
    (c'.rules.filterMap fun r => if r.field = path then none else f r) =
      c.rules.filterMap fun r => if r.field = path then none else f r := by
  cases h with
  | adapters kinds h =>
    simp only [rules, List.filterMap_append, List.filterMap_map]
    congr 3
    -- of those about adapters none is left
    have hnone (n : Nat) : (List.range n).filterMap ((fun r : SettingRule =>
        if r.field = "callbacks.adapters" then none else f r) ∘ SettingRule.adapter) = [] := by
      simp [field]
    rw [hnone, hnone]
  | family i e => rw [rules, withFamily, List.length_set]; rfl
  | timeout | host | requestTimeout | logLevel | metricsAddress | metricsEnabled | elsewhere => rfl

theorem Edited.findings_eq (h : c.Edited path c') :
    c'.findings.filter (·.field ≠ path) = c.findings.filter (·.field ≠ path) := by
  rw [filter_findings, filter_findings, ← h.rules_eq]
  congr 1
  funext r
  split
  · rfl
  · next hr => rw [error?, error?, h.complaint_eq hr]

/-- Once nothing is found about the field, its findings are gone, and no others. -/
theorem Edited.findings_repaired (h : c.Edited path c')
    (hfield : ∀ e ∈ c'.findings, e.field ≠ path) :
    c'.findings = c.findings.filter (·.field ≠ path) := by
  rw [← h.findings_eq, List.filter_eq_self.mpr]
  exact fun e he => decide_eq_true (hfield e he)

variable {i : Nat} {e e' : FamilyEntry}

omit [PatternCompiler] [DomainNames] in
theorem getElem?_withFamily (h : c.redaction.families[i]? = some e) :
    (c.withFamily i e').redaction.families[i]? = some e' :=
  List.getElem?_set_self (List.getElem?_eq_some_iff.mp h).1

theorem familyName_withFamily (h : c.redaction.families[i]? = some e) (hname : e'.name = e.name) :
    (familyName i).complaint (c.withFamily i e') = (familyName i).complaint c := by
  rw [complaint, complaint, getElem?_withFamily h, h, Option.bind_some, Option.bind_some, hname]

theorem familyPattern_withFamily (h : c.redaction.families[i]? = some e)
    (hpattern : e'.pattern = e.pattern) :
    (familyPattern i).complaint (c.withFamily i e') = none ↔
      (familyPattern i).complaint c = none := by
  rw [complaint, complaint, getElem?_withFamily h, h, Option.bind_some, Option.bind_some, hpattern]
  cases PatternCompiler.compile e.pattern with
  | ok p => simp
  | error reason => cases reason <;> simp

end Edits

/-- Settings are accepted if no rule finds anything, and otherwise refused with everything that the
rules find, each rule applied once at each place and in the order of the rules. Whatever one field
is changed into, the findings about the others stay in their order, and no others are left if
nothing is wrong with the field any more. The name and the pattern of a family are judged apart,
although the finding about the pattern shows the name. -/
theorem validate_findings [PatternCompiler] [DomainNames] (c : LoggingConfig) :
    c.rules.Nodup ∧
    (c.validate = .ok c ↔ ∀ r : SettingRule, r.complaint c = none) ∧
    (∀ es, c.validate = .error es ↔ es ≠ [] ∧ es = c.findings) ∧
    (∀ path c', c.Edited path c' →
      c'.findings.filter (·.field ≠ path) = c.findings.filter (·.field ≠ path) ∧
      ((∀ e ∈ c'.findings, e.field ≠ path) →
        c'.findings = c.findings.filter (·.field ≠ path))) ∧
    ∀ i e e', c.redaction.families[i]? = some e →
      (e'.name = e.name →
        (familyName i).complaint (c.withFamily i e') = (familyName i).complaint c) ∧
      (e'.pattern = e.pattern →
        ((familyPattern i).complaint (c.withFamily i e') = none ↔
          (familyPattern i).complaint c = none)) := by
  refine ⟨nodup_rules c, ?_, fun es => ?_, fun path c' h => ⟨h.findings_eq, h.findings_repaired⟩,
    fun i e e' h => ⟨familyName_withFamily h, familyPattern_withFamily h⟩⟩
  · rw [validate_iff, errors_eq_findings, findings_eq_nil_iff]
  · rw [← errors_eq_findings]
    refine ⟨fun h => ?_, fun ⟨hne, heq⟩ => ?_⟩
    · have herrors := validate_eq_error h
      refine ⟨fun hnil => ?_, herrors.symm⟩
      rw [hnil] at herrors
      rw [validate_iff.mpr herrors] at h
      cases h
    · rw [heq] at hne ⊢
      exact validate_of_errors hne

/-- Every rule is broken, one of a family at its second place. -/
def neglected : LoggingConfig where
  callbacks := { adapters := [.tracing, .langfuse, .tracing], timeoutMillis := 0 }
  redaction := { families := [⟨"ids", "x-[0-9]+"⟩, ⟨" ", "(x"⟩] }
  langfuse := { host := "langfuse", requestTimeoutSecs := 0 }
  observability := { logLevel := "loud", metricsEnabled := true, metricsAddress := "9090" }

/-- With its second family mended there are two errors less. With the name alone mended, its pattern
is still wrong. -/
theorem neglected_mended :
    neglected.validate = .error neglected.findings ∧
    neglected.findings.map SettingError.field =
      ["callbacks.timeout_ms", "callbacks.adapters", "redaction.extra_patterns[1]",
        "redaction.extra_patterns[1]", "langfuse.host", "langfuse.request_timeout_secs",
        "observability.log_level", "observability.metrics_address"] ∧
    (neglected.withFamily 1 ⟨"keys", "k-[a-f]+"⟩).findings =
      neglected.findings.filter (·.field ≠ "redaction.extra_patterns[1]") ∧
    (familyPattern 1).complaint (neglected.withFamily 1 ⟨"keys", "(x"⟩) ≠ none := by
  obtain ⟨-, -, herror, hedit, hapart⟩ := validate_findings neglected
  obtain ⟨-, hrepaired⟩ := hedit _ _ (.family 1 ⟨"keys", "k-[a-f]+"⟩)
  obtain ⟨-, hpattern⟩ := hapart 1 ⟨" ", "(x"⟩ ⟨"keys", "(x"⟩ rfl
  exact ⟨(herror _).mpr ⟨by decide +kernel, rfl⟩, by decide +kernel, hrepaired (by decide +kernel),
    mt (hpattern rfl).mp (by decide +kernel)⟩

end LoggingConfig
end CallScribe
