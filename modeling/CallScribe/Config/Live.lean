import CallScribe.Config.Load

/-!
# CallScribe.Config.Live

Settings that can be replaced while calls are running.

* `LiveConfig`: settings with the redactor that belongs to them.
* `LiveConfig.compile`: both from settings.
* `LiveConfig.swap`: other settings, unless they are refused.
* `LiveConfig.policy`, `LiveConfig.timeoutMillis`: what calls and dispatches take from them.
-/

namespace CallScribe

/-- The built-in families and the configured ones. -/
def buildRedactor [PatternCompiler] (c : RedactionConfig) : Except InvalidFamily Redactor :=
  Redactor.build c.families true

/-- Settings with their redactor. -/
structure LiveConfig where
  config : LoggingConfig
  redactor : Redactor
deriving DecidableEq

namespace LiveConfig

/-- Settings with the redactor that is built from them. -/
def compile [PatternCompiler] (c : LoggingConfig) : Except InvalidFamily LiveConfig :=
  match buildRedactor c.redaction with
  | .ok r => .ok ⟨c, r⟩
  | .error e => .error e

/-- The policy for a call that begins now. -/
def policy (l : LiveConfig) : Policy := ⟨l.config.policy.suppressMessages, l.redactor⟩

/-- How many milliseconds an adapter may take. -/
def timeoutMillis (l : LiveConfig) : Nat := l.config.callbacks.timeoutMillis

/-- Other settings instead of the current ones; refused settings change nothing. -/
def swap [PatternCompiler] (l : LiveConfig) (c : LoggingConfig) :
    Except InvalidFamily Unit × LiveConfig :=
  match compile c with
  | .ok next => (.ok (), next)
  | .error e => (.error e, l)

end LiveConfig

/-- The number of live settings among those of a process. -/
structure LiveHandle where
  index : Nat
deriving DecidableEq, Repr

/-- All live settings of a process. -/
structure LiveStore where
  configs : List LiveConfig := []
deriving DecidableEq

namespace LiveStore

def read? (s : LiveStore) (h : LiveHandle) : Option LiveConfig := s.configs[h.index]?

def add (s : LiveStore) (l : LiveConfig) : LiveHandle × LiveStore :=
  (⟨s.configs.length⟩, ⟨s.configs ++ [l]⟩)

def write (s : LiveStore) (h : LiveHandle) (l : LiveConfig) : LiveStore :=
  ⟨s.configs.set h.index l⟩

end LiveStore
end CallScribe
