import CallScribe.Config.Basic
import CallScribe.Langfuse.Error
import CallScribe.Text.Blank
import CallScribe.Url.Parser

/-!
# CallScribe.Langfuse.Credentials

Where records are sent, and with which keys.

* `Credentials.resolve`: from the settings, with the environment for what they leave open.
* `Credentials.endpoint`: the address that takes records.
-/

namespace CallScribe

/-- A host and the keys for it. -/
structure Credentials where
  host : Url
  publicKey : Secret
  secretKey : Secret
deriving DecidableEq

namespace Credentials

def publicKeyVariable : String := "LANGFUSE_PUBLIC_KEY"

def secretKeyVariable : String := "LANGFUSE_SECRET_KEY"

/-- Consulted only while the settings name the default host. -/
def hostVariable : String := "LANGFUSE_HOST"

/-- The value of a variable, unless it is blank. -/
def fromEnvironment (env : String → Option String) (name : String) : Option String :=
  (env name).filter fun v => !blankText v

/-- The configured key, unless it is empty, or else the one of the environment. -/
def resolveKey (env : String → Option String) (configured : Option Secret) (name : String) :
    Except LangfuseError Secret :=
  match configured.filter fun k => !k.isEmpty with
  | some k => .ok k
  | none =>
    match fromEnvironment env name with
    | some v => .ok ⟨v⟩
    | none => .error (.missingCredentials name)

/-- The host's text before it is read. -/
def hostText (config : LangfuseConfig) (env : String → Option String) : String :=
  if config.host = ({} : LangfuseConfig).host then
    (fromEnvironment env hostVariable).getD config.host
  else config.host

/-- Keys and host, the public key first. -/
def resolve [DomainNames] (config : LangfuseConfig) (env : String → Option String) :
    Except LangfuseError Credentials := do
  let publicKey ← resolveKey env config.publicKey publicKeyVariable
  let secretKey ← resolveKey env config.secretKey secretKeyVariable
  let text := hostText config env
  match Url.parse text with
  | .ok host => .ok ⟨host, publicKey, secretKey⟩
  | .error e => .error (.invalidHost text e.message)

/-- The path of the endpoint. -/
def endpointPath : List String := ["api", "public", "ingestion"]

/-- The address that takes records. -/
def endpoint (c : Credentials) : Except LangfuseError Url :=
  match c.host.resolve endpointPath with
  | .ok u => .ok u
  | .error e => .error (.invalidHost c.host.text e.message)

end Credentials
end CallScribe
