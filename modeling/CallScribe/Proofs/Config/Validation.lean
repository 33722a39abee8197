import CallScribe.Config.Live

/-!
# CallScribe.Proofs.Config.Validation

What the rules find wrong with the patterns of configured families, and what becomes of these
patterns when a redactor is built.

* `FamilyEntry.Compiles`, `FirstFailing`: families whose pattern can be compiled, and the first one
  whose pattern cannot.
* `Redactor.readEntries_cases`: a redactor stops there, and only there.
* `SettingError.reportsPattern`: the errors that are about a pattern.
* `LoggingConfig.pattern_cases`: the rules find the same family first, or nothing if there is none;
  `LoggingConfig.builds_iff` and `LoggingConfig.refused_first` from it.
-/

namespace CallScribe

section Compiling

variable [PatternCompiler]

theorem Family.ofEntry_of_ok {e : FamilyEntry} {p : Pattern}
    (h : PatternCompiler.compile e.pattern = .ok p) : ofEntry e = .ok ⟨e.name, p⟩ := by
  rw [ofEntry, h]

theorem Family.ofEntry_of_error {e : FamilyEntry} {reason : Option String}
    (h : PatternCompiler.compile e.pattern = .error reason) :
    ofEntry e = .error ⟨e.name, reason⟩ := by rw [ofEntry, h]

def FamilyEntry.Compiles (e : FamilyEntry) : Prop := ∃ p, PatternCompiler.compile e.pattern = .ok p

/-- The first of some families whose pattern cannot be compiled, with the ones before it and what
the compiler says. -/
structure FirstFailing (entries before : List FamilyEntry) (e : FamilyEntry)
    (reason : Option String) : Prop where
  split : ∃ after, entries = before ++ e :: after
  compiles : ∀ x ∈ before, x.Compiles
  fails : PatternCompiler.compile e.pattern = .error reason

theorem FirstFailing.cons {entries before : List FamilyEntry} {e x : FamilyEntry}
    {reason : Option String} (hx : x.Compiles) (h : FirstFailing entries before e reason) :
    FirstFailing (x :: entries) (x :: before) e reason where
  split := by
    obtain ⟨after, rfl⟩ := h.split
    exact ⟨after, rfl⟩
  compiles := List.forall_mem_cons.mpr ⟨hx, h.compiles⟩
  fails := h.fails

theorem Redactor.readEntries_cases (entries : List FamilyEntry) :
    (∃ fs, readEntries entries = .ok fs ∧ ∀ e ∈ entries, e.Compiles) ∨
      ∃ before e reason, readEntries entries = .error ⟨e.name, reason⟩ ∧
        FirstFailing entries before e reason := by
  induction entries with
  | nil => exact .inl ⟨[], rfl, List.forall_mem_nil _⟩
  | cons x entries ih =>
    cases hx : PatternCompiler.compile x.pattern with
    | error reason =>
      refine .inr ⟨[], x, reason, ?_, ⟨⟨entries, rfl⟩, List.forall_mem_nil _, hx⟩⟩
      rw [readEntries, Family.ofEntry_of_error hx]
    | ok p =>
      simp only [readEntries, Family.ofEntry_of_ok hx]
      rcases ih with ⟨fs, hfs, hall⟩ | ⟨before, e, reason, hstop, hfirst⟩
      · exact .inl ⟨⟨x.name, p⟩ :: fs, by rw [hfs], List.forall_mem_cons.mpr ⟨⟨p, hx⟩, hall⟩⟩
      · exact .inr ⟨x :: before, e, reason, by rw [hstop], hfirst.cons ⟨p, hx⟩⟩

end Compiling

/-- Whether an error is that a pattern cannot be compiled. No other message begins like this
one. -/
def SettingError.reportsPattern (e : SettingError) : Bool :=
  "invalid redaction pattern '".toList.isPrefixOf e.message.toList

section Messages

open SettingError

def familyField (index : Nat) : String := "redaction.extra_patterns[" ++ toString index ++ "]"

theorem reportsPattern_message (field : String) (e : InvalidFamily) :
    reportsPattern ⟨field, e.message⟩ = true := by
  have hmessage : ∃ rest, e.message.toList = "invalid redaction pattern '".toList ++ rest := by
    unfold InvalidFamily.message
    split <;> simp only [String.toList_append, List.append_assoc] <;> exact ⟨_, rfl⟩
  obtain ⟨rest, hrest⟩ := hmessage
  rw [reportsPattern, hrest]
  exact List.isPrefixOf_iff_prefix.mpr (List.prefix_append _ _)

theorem find?_errorIf {broken : Bool} {field message : String}
    (h : reportsPattern ⟨field, message⟩ = false) :
    (errorIf broken field message).find? reportsPattern = none := by
  unfold errorIf
  split
  · simp [h]
  · rfl

theorem find?_repeatedAdapters (seen kinds : List AdapterKind) :
    (repeatedAdapters seen kinds).find? reportsPattern = none := by
  induction kinds generalizing seen with
  | nil => rfl
  | cons k kinds ih =>
    rw [repeatedAdapters, List.find?_append, ih, find?_errorIf]
    · rfl
    · cases k <;> decide +kernel

theorem find?_hostErrors [DomainNames] (c : LangfuseConfig) :
    (hostErrors c).find? reportsPattern = none := by
  unfold hostErrors
  split
  · rfl
  · simp [reportsPattern, List.isPrefixOf]

section Families

variable [PatternCompiler]

theorem find?_familyErrors (i : Nat) (e : FamilyEntry) :
    (familyErrors i e).find? reportsPattern =
      match Family.ofEntry e with
      | .ok _ => none
      | .error err => some ⟨familyField i, err.message⟩ := by
  have hname : reportsPattern ⟨familyField i, "name must not be empty"⟩ = false := by
    simp [reportsPattern, List.isPrefixOf]
  unfold familyField at hname
  rw [familyErrors, List.find?_append, find?_errorIf hname, Option.none_or]
  cases Family.ofEntry e with
  | ok f => rfl
  | error err => exact List.find?_cons_of_pos (reportsPattern_message _ err)

theorem find?_compiling {entries : List FamilyEntry} (h : ∀ e ∈ entries, e.Compiles) (i : Nat) :
    (allFamilyErrors i entries).find? reportsPattern = none := by
  induction entries generalizing i with
  | nil => rfl
  | cons e entries ih =>
    obtain ⟨⟨p, hp⟩, hrest⟩ := List.forall_mem_cons.mp h
    rw [allFamilyErrors, List.find?_append, find?_familyErrors, Family.ofEntry_of_ok hp, ih hrest]
    rfl

theorem find?_failing {entries before : List FamilyEntry} {e : FamilyEntry}
    {reason : Option String} (h : FirstFailing entries before e reason) (i : Nat) :
    (allFamilyErrors i entries).find? reportsPattern =
      some ⟨familyField (i + before.length), (InvalidFamily.mk e.name reason).message⟩ := by
  obtain ⟨⟨after, rfl⟩, hcompiles, hfails⟩ := h
  induction before generalizing i with
  | nil =>
    rw [List.nil_append, allFamilyErrors, List.find?_append, find?_familyErrors,
      Family.ofEntry_of_error hfails]
    rfl
  | cons x before ih =>
    obtain ⟨⟨p, hp⟩, hrest⟩ := List.forall_mem_cons.mp hcompiles
    rw [List.cons_append, allFamilyErrors, List.find?_append, find?_familyErrors,
      Family.ofEntry_of_ok hp, ih (i + 1) hrest, List.length_cons, Option.none_or,
      Nat.add_right_comm, Nat.add_assoc]

end Families

end Messages

namespace LoggingConfig

open SettingError

variable [PatternCompiler] [DomainNames] {c : LoggingConfig}

theorem validate_iff : c.validate = .ok c ↔ c.errors = [] := by
  unfold validate
  cases c.errors <;> simp

theorem validate_eq_ok {c' : LoggingConfig} (h : c.validate = .ok c') : c' = c ∧ c.errors = [] := by
  unfold validate at h
  split at h
  · cases h
    exact ⟨rfl, ‹_›⟩
  · cases h

theorem validate_of_errors (h : c.errors ≠ []) : c.validate = .error c.errors := by
  unfold validate
  cases hes : c.errors with
  | nil => exact absurd hes h
  | cons e es => rfl

theorem validate_eq_error {es : List SettingError} (h : c.validate = .error es) :
    c.errors = es := by
  unfold validate at h
  split at h
  · cases h
  · cases h
    rfl

/-- Among all rules, only those about families tell of patterns. -/
theorem find?_errors (c : LoggingConfig) :
    c.errors.find? reportsPattern =
      (allFamilyErrors 0 c.redaction.families).find? reportsPattern := by
  have hbackend : (if c.callbacks.adapters.contains .langfuse then
      hostErrors c.langfuse ++
      errorIf (c.langfuse.requestTimeoutSecs = 0) "langfuse.request_timeout_secs"
        "must be greater than zero"
      else []).find? reportsPattern = none := by
    split
    · rw [List.find?_append, find?_hostErrors, find?_errorIf (by rfl)]
      rfl
    · rfl
  simp only [errors, List.find?_append, hbackend, find?_repeatedAdapters]
  rw [find?_errorIf, find?_errorIf, find?_errorIf]
  · simp
  all_goals simp [reportsPattern, List.isPrefixOf]

/-- The redactor is built and the rules find nothing wrong with the patterns, or both stop at the
same family, with the same message. -/
theorem pattern_cases (c : LoggingConfig) :
    (∃ r, buildRedactor c.redaction = .ok r ∧ c.errors.find? reportsPattern = none) ∨
      ∃ before e reason, FirstFailing c.redaction.families before e reason ∧
        buildRedactor c.redaction = .error ⟨e.name, reason⟩ ∧
        c.errors.find? reportsPattern =
          some ⟨familyField before.length, (InvalidFamily.mk e.name reason).message⟩ := by
  rw [find?_errors]
  unfold buildRedactor Redactor.build
  rcases Redactor.readEntries_cases c.redaction.families with
    ⟨fs, hfs, hall⟩ | ⟨before, e, reason, hstop, hfirst⟩
  · rw [hfs]
    exact .inl ⟨_, rfl, find?_compiling hall 0⟩
  · rw [hstop]
    exact .inr ⟨before, e, reason, hfirst, rfl, by rw [find?_failing hfirst, Nat.zero_add]⟩

theorem builds_of_valid (h : c.errors = []) : ∃ r, buildRedactor c.redaction = .ok r := by
  rcases pattern_cases c with ⟨r, hr, -⟩ | ⟨before, e, reason, -, -, hfound⟩
  · exact ⟨r, hr⟩
  · rw [h] at hfound
    cases hfound

theorem builds_iff (c : LoggingConfig) :
    (∃ r, buildRedactor c.redaction = .ok r) ↔
      ∀ es, c.validate = .error es → ∀ e ∈ es, e.reportsPattern = false := by
  rcases pattern_cases c with ⟨r, hr, hnone⟩ | ⟨before, e, reason, -, hstop, hfound⟩
  · refine iff_of_true ⟨r, hr⟩ fun es hes e he => ?_
    rw [validate_eq_error hes] at hnone
    exact Bool.eq_false_iff.mpr (List.find?_eq_none.mp hnone e he)
  · refine iff_of_false (fun ⟨r, hr⟩ => ?_) fun hall => ?_
    · rw [hstop] at hr
      cases hr
    · have herrors := validate_of_errors (List.ne_nil_of_mem (List.mem_of_find?_eq_some hfound))
      have hreported := List.find?_some hfound
      rw [hall _ herrors _ (List.mem_of_find?_eq_some hfound)] at hreported
      cases hreported

theorem refused_first (c : LoggingConfig) (err : InvalidFamily)
    (h : buildRedactor c.redaction = .error err) :
    ∃ es before e reason, c.validate = .error es ∧
      FirstFailing c.redaction.families before e reason ∧ err = ⟨e.name, reason⟩ ∧
      es.find? reportsPattern = some ⟨familyField before.length, err.message⟩ := by
  rcases pattern_cases c with ⟨r, hr, -⟩ | ⟨before, e, reason, hfirst, hstop, hfound⟩
  · rw [hr] at h
    cases h
  · rw [hstop] at h
    cases h
    exact ⟨c.errors, before, e, reason,
      validate_of_errors (List.ne_nil_of_mem (List.mem_of_find?_eq_some hfound)), hfirst, rfl,
      hfound⟩

end LoggingConfig
end CallScribe
