import CallScribe.Command.Arguments
import CallScribe.Command.Replay
import CallScribe.Dispatch.Configured
import CallScribe.Pattern.Compiler
import CallScribe.Url.Domain

/-!
# CallScribe.Command.Run

What each command does with the files and the environment around it.

* `Surroundings`: files, input, environment variables, the clock and the next call id.
* `CommandOutput`, `CommandFailure`: what a command leaves, or why it has stopped.
* `CommandOutput.printed`, `CommandOutput.lines`: its text for the output, and its log lines.
* `Invocation.run`: the whole command.
-/

namespace CallScribe

/-- What a command finds around it. -/
structure Surroundings where
  file : String → Option ByteArray
  input : ByteArray
  env : String → Option String
  reply : HttpReply
  now : Instant
  callId : String

/-- Why a command has stopped. -/
inductive CommandFailure
  | settings (path : String) (e : LoadError)
  | family (e : InvalidFamily)
  | adapters (e : LangfuseError)
  | metrics (address : String)
  | request (path : String)
  | input
deriving DecidableEq, Repr

/-- What a command leaves: a text, a report, or live settings with adapters that go on to follow
their file. -/
inductive CommandOutput
  | text (s : String)
  | report (c : ObservabilityConfig) (r : ReplayReport)
  | watching (path : String) (live : LiveConfig) (adapters : List Adapter)

def LoadError.message : LoadError → String
  | .missing => "the file cannot be read"
  | .notText => "the file is not text"
  | .malformed => "the file is malformed"
  | .invalid es => validationMessage es

def CommandFailure.message : CommandFailure → String
  | .settings path e => path ++ ": " ++ e.message
  | .family e => e.message
  | .adapters e => e.message
  | .metrics address => "cannot listen at " ++ address
  | .request path => path ++ ": no recorded call"
  | .input => "the input is not text"

/-- The text that goes to the output. -/
def CommandOutput.printed : CommandOutput → String
  | .text s => s
  | .report _ r => r.toJson.pretty ++ "\n"
  | .watching .. => ""

/-- Whether settings let a log line through: those of their own level and of graver ones. -/
def LogLine.shownBy (l : LogLine) (c : ObservabilityConfig) : Bool :=
  logLevels.idxOf c.logLevel.toLower ≤ logLevels.idxOf l.level.name.toLower

/-- The log lines that the settings let through. -/
def CommandOutput.lines : CommandOutput → List LogLine
  | .report c r => r.journal.filterMap fun e =>
    match e with
    | .log l => if l.shownBy c then some l else none
    | _ => none
  | _ => []

namespace Surroundings

variable [PatternCompiler] [DomainNames]

/-- The settings of a file. -/
def settings (s : Surroundings) (path : String) : Except CommandFailure LoggingConfig :=
  match LoggingConfig.load (s.file path) with
  | .ok c => .ok c
  | .error e => .error (.settings path e)

/-- The settings of a file if one is named, or else the initial ones. -/
def settingsOr (s : Surroundings) : Option String → Except CommandFailure LoggingConfig
  | some path => s.settings path
  | none => .ok {}

/-- The adapters of the settings. -/
def adapters (s : Surroundings) (c : LoggingConfig) (r : Redactor) :
    Except CommandFailure (List Adapter) :=
  match buildAdapters c r s.env s.reply with
  | .ok as => .ok as
  | .error e => .error (.adapters e)

/-- The redactor of the settings. -/
def redactor (c : LoggingConfig) : Except CommandFailure Redactor :=
  match buildRedactor c.redaction with
  | .ok r => .ok r
  | .error e => .error (.family e)

/-- The settings with their redactor. -/
def compiled (c : LoggingConfig) : Except CommandFailure LiveConfig :=
  match LiveConfig.compile c with
  | .ok l => .ok l
  | .error e => .error (.family e)

/-- Metrics that are enabled need an address at which this machine can listen. -/
def listen (c : ObservabilityConfig) : Except CommandFailure Unit :=
  if !c.metricsEnabled then .ok ()
  else match SocketAddress.parse? c.metricsAddress with
    | some a => if a.isLocal then .ok () else .error (.metrics c.metricsAddress)
    | none => .error (.metrics c.metricsAddress)

/-- The recorded call of a file. -/
def recorded (s : Surroundings) (path : String) : Except CommandFailure RecordedCall :=
  match (s.file path).bind RecordedCall.load? with
  | some r => .ok r
  | none => .error (.request path)

/-- The input without its secrets. -/
def redact (s : Surroundings) (c : LoggingConfig) : Except CommandFailure CommandOutput := do
  let r ← redactor c
  match String.fromUTF8? s.input with
  | some text => .ok (.text (r.redact text))
  | none => .error .input

/-- Whether the settings of a file can be used: they load, and their adapters can be built. -/
def checkConfig (s : Surroundings) (path : String) : Except CommandFailure CommandOutput := do
  let c ← s.settings path
  let r ← redactor c
  let _ ← s.adapters c r
  .ok (.text ("ok: " ++ path ++ "\n"))

/-- A recorded call run through the hooks under the settings. -/
def replay (s : Surroundings) (c : LoggingConfig) (request : String) :
    Except CommandFailure CommandOutput := do
  listen c.observability
  let r ← s.recorded request
  let l ← compiled c
  let as ← s.adapters l.config l.redactor
  .ok (.report c.observability (r.replay l as s.callId s.now))

/-- Live settings and adapters that follow a file. -/
def watch (s : Surroundings) (c : LoggingConfig) (path : String) :
    Except CommandFailure CommandOutput := do
  listen c.observability
  let l ← compiled c
  let as ← s.adapters l.config l.redactor
  .ok (.watching path l as)

end Surroundings

/-- The whole command. The settings that it runs under are loaded first. -/
def Invocation.run [PatternCompiler] [DomainNames] (i : Invocation) (s : Surroundings) :
    Except CommandFailure CommandOutput :=
  match i.command with
  | .redact => do s.redact (← s.settingsOr i.config)
  | .checkConfig path => do
    let _ ← s.settingsOr i.config
    s.checkConfig path
  | .replay path request => do s.replay (← s.settings path) request
  | .watch path => do s.watch (← s.settings path) path

end CallScribe
