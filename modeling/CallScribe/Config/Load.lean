import CallScribe.Config.Codec
import CallScribe.Config.Validation
import CallScribe.Toml.Document

/-!
# CallScribe.Config.Load

Settings from files.

* `LoadError`: why there are none.
* `LoggingConfig.parse`: settings from TOML text.
* `LoggingConfig.load`: settings from the bytes of a file, if there is one.
-/

namespace CallScribe

/-- Why settings could not be loaded. -/
inductive LoadError
  | missing
  | notText
  | malformed
  | invalid (errors : List SettingError)
deriving DecidableEq, Repr

/-- All broken rules in one line. -/
def validationMessage (errors : List SettingError) : String :=
  "Validation failed: " ++ String.intercalate ", " (errors.map SettingError.text)

/-- Whether another failure lies behind this one. -/
def LoadError.hasCause : LoadError → Bool
  | .invalid _ => false
  | _ => true

namespace LoggingConfig

variable [PatternCompiler] [DomainNames]

/-- Settings from TOML text. -/
def parse (text : String) : Except LoadError LoggingConfig :=
  match (Toml.parse? text).bind fun t => decode .toml t.toJson with
  | none => .error .malformed
  | some c =>
    match c.validate with
    | .ok c => .ok c
    | .error es => .error (.invalid es)

/-- Settings from the bytes of a file. -/
def load (content : Option ByteArray) : Except LoadError LoggingConfig :=
  match content with
  | none => .error .missing
  | some bytes =>
    match String.fromUTF8? bytes with
    | none => .error .notText
    | some text => parse text

end LoggingConfig
end CallScribe
