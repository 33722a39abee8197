import CallScribe.Config.Live

/-!
# CallScribe.Config.Watcher

Live settings that follow a file.

* `WatchedConfig`: live settings, and the settings that have been announced to a listener.
* `ReloadEnd`: how a reading of the file ends.
* `WatchedConfig.reload`: one reading of it.
-/

namespace CallScribe

/-- How a reading of the file ends. -/
inductive ReloadEnd
  | applied
  | unloadable (e : LoadError)
  | refused (e : InvalidFamily)
deriving DecidableEq, Repr

namespace ReloadEnd

def isApplied : ReloadEnd → Bool
  | .applied => true
  | _ => false

def message : ReloadEnd → String
  | .applied => "Logging configuration swapped"
  | .unloadable _ => "Failed to reload config, keeping current configuration"
  | .refused _ => "Rejected reloaded config"

end ReloadEnd

/-- Live settings, and what has been announced since somebody listens. -/
structure WatchedConfig where
  live : LiveConfig
  announced : List LoggingConfig := []
deriving DecidableEq

namespace WatchedConfig

/-- The settings of the file instead of the current ones, if they can be loaded and are not
refused. What is announced is what is live then. -/
def reload [PatternCompiler] [DomainNames] (w : WatchedConfig) (content : Option ByteArray) :
    ReloadEnd × WatchedConfig :=
  match LoggingConfig.load content with
  | .error e => (.unloadable e, w)
  | .ok c =>
    match w.live.swap c with
    | (.ok (), next) => (.applied, ⟨next, w.announced ++ [next.config]⟩)
    | (.error e, same) => (.refused e, { w with live := same })

end WatchedConfig
end CallScribe
