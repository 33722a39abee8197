import CallScribe.Config.Watcher
import CallScribe.Proofs.Config.Live
import CallScribe.Proofs.Config.Validation

/-!
# CallScribe.Proofs.Config.Reload

Reading a settings file again while calls are running.

* `LoggingConfig.valid_of_load`: settings that are loaded keep the rules.
* `WatchedConfig.reload_cases`: all that a reading can do.
* `WatchedConfig.follow_announced`: after many readings the settings are the last ones that could
  be loaded, and all of those have been announced, in order.
* `WatchedConfig.reload_all_or_nothing`: a reading replaces everything or changes nothing, and it
  is never refused.
-/

namespace CallScribe

theorem LoggingConfig.valid_of_load [PatternCompiler] [DomainNames]
    {content : Option ByteArray} {c : LoggingConfig}
    (h : LoggingConfig.load content = .ok c) : c.errors = [] := by
  unfold LoggingConfig.load LoggingConfig.parse at h
  split at h
  · cases h
  · split at h
    · cases h
    · split at h
      · cases h
      · split at h
        · cases h
          obtain ⟨rfl, hvalid⟩ := LoggingConfig.validate_eq_ok ‹_›
          exact hvalid
        · cases h

namespace WatchedConfig

variable [PatternCompiler] [DomainNames] {content : Option ByteArray} {c : LoggingConfig}

/-- All that a reading can do. -/
theorem reload_cases (w : WatchedConfig) (content : Option ByteArray) :
    (∃ c r, LoggingConfig.load content = .ok c ∧ buildRedactor c.redaction = .ok r ∧
      w.reload content = (.applied, ⟨⟨c, r⟩, w.announced ++ [c]⟩)) ∨
    ∃ e, LoggingConfig.load content = .error e ∧ w.reload content = (.unloadable e, w) := by
  unfold reload
  cases hload : LoggingConfig.load content with
  | error e => exact .inr ⟨e, rfl, rfl⟩
  | ok c =>
    -- What is loaded keeps the rules, so that the swap has nothing to refuse.
    obtain ⟨r, hr⟩ := LoggingConfig.builds_of_valid (LoggingConfig.valid_of_load hload)
    refine .inl ⟨c, r, rfl, hr, ?_⟩
    simp only [LiveConfig.swap_of_compile (LiveConfig.compile_of_build hr)]

/-- The file is read again each time that it has changed. -/
def follow (w : WatchedConfig) (contents : List (Option ByteArray)) : WatchedConfig :=
  contents.foldl (fun w content => (w.reload content).2) w

theorem follow_cons (w : WatchedConfig) (contents : List (Option ByteArray)) :
    w.follow (content :: contents) = (w.reload content).2.follow contents := rfl

/-- The settings among the contents of a file. -/
def loadable (contents : List (Option ByteArray)) : List LoggingConfig :=
  contents.filterMap fun content => (LoggingConfig.load content).toOption

theorem loadable_of_load (h : LoggingConfig.load content = .ok c)
    (contents : List (Option ByteArray)) :
    loadable (content :: contents) = c :: loadable contents :=
  List.filterMap_cons_some (by rw [h]; rfl)

theorem loadable_of_unloadable {e : LoadError} (h : LoggingConfig.load content = .error e)
    (contents : List (Option ByteArray)) : loadable (content :: contents) = loadable contents :=
  List.filterMap_cons_none (by rw [h]; rfl)

/-- The settings are the last ones that could be loaded, all of which have been announced in their
order, and the redactor never belongs to others. -/
theorem follow_announced (w : WatchedConfig) (contents : List (Option ByteArray)) :
    (w.follow contents).announced = w.announced ++ loadable contents ∧
      (w.follow contents).live.config = (loadable contents).getLastD w.live.config ∧
      (LiveConfig.compile w.live.config = .ok w.live →
        LiveConfig.compile (w.follow contents).live.config = .ok (w.follow contents).live) := by
  induction contents generalizing w with
  | nil => exact ⟨(List.append_nil _).symm, rfl, id⟩
  | cons content contents ih =>
    rw [follow_cons]
    rcases w.reload_cases content with ⟨c, r, hload, hr, hreload⟩ | ⟨e, hload, hreload⟩
    · obtain ⟨hannounced, hconfig, hcoherent⟩ := ih ⟨⟨c, r⟩, w.announced ++ [c]⟩
      rw [hreload, loadable_of_load hload, List.getLastD_cons]
      refine ⟨by rw [hannounced, List.append_assoc, List.singleton_append], hconfig, fun _ => ?_⟩
      exact hcoherent (LiveConfig.compile_of_build hr)
    · rw [hreload, loadable_of_unloadable hload]
      exact ih w

/-- A reading of the file succeeds exactly if settings can be loaded from it. They are live then,
with the redactor that is built from them, and are announced once; otherwise nothing changes.
Loaded settings are never refused: the rules find nothing wrong with the patterns of settings
exactly if the redactor can be built, and when it cannot, its error is about the first pattern
that they find. -/
theorem reload_all_or_nothing (w : WatchedConfig) (content : Option ByteArray) :
    ((w.reload content).1.isApplied = true ↔ ∃ c, LoggingConfig.load content = .ok c) ∧
    (∀ c, LoggingConfig.load content = .ok c → ∃ r, buildRedactor c.redaction = .ok r ∧
      (w.reload content).2 = ⟨⟨c, r⟩, w.announced ++ [c]⟩) ∧
    ((w.reload content).1.isApplied = false → (w.reload content).2 = w) ∧
    (∀ e, (w.reload content).1 ≠ .refused e) ∧
    ∀ c : LoggingConfig,
      ((∃ r, buildRedactor c.redaction = .ok r) ↔
        ∀ es, c.validate = .error es → ∀ e ∈ es, e.reportsPattern = false) ∧
      ∀ err, buildRedactor c.redaction = .error err →
        ∃ es before e reason, c.validate = .error es ∧
          FirstFailing c.redaction.families before e reason ∧ err = ⟨e.name, reason⟩ ∧
          es.find? SettingError.reportsPattern =
            some ⟨familyField before.length, err.message⟩ := by
  rcases w.reload_cases content with ⟨c, r, hload, hr, hreload⟩ | ⟨e, hload, hreload⟩
  · rw [hreload, hload]
    refine ⟨⟨fun _ => ⟨c, rfl⟩, fun _ => rfl⟩, ?_, ?_, ?_,
      fun c => ⟨c.builds_iff, c.refused_first⟩⟩
    · rintro _ ⟨⟩
      exact ⟨r, hr, rfl⟩
    · exact nofun
    · exact nofun
  · rw [hreload, hload]
    refine ⟨⟨nofun, ?_⟩, ?_, fun _ => rfl, nofun, fun c => ⟨c.builds_iff, c.refused_first⟩⟩
    · rintro ⟨_, ⟨⟩⟩
    · rintro _ ⟨⟩

end WatchedConfig
end CallScribe
