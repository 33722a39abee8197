import CallScribe.Call.Identifier
import CallScribe.Command.Help
import CallScribe.Command.Run
import CallScribe.Config.Watcher
import Std.Time.DateTime.Timestamp

/-!
# CallScribe.Main

The program: output goes to standard output, failures to standard error. A failed command ends
with 1, a misused command line with 2.
-/

namespace CallScribe.Main

/-- The bytes of a file, if it can be read. -/
def readFile? (path : String) : IO (Option ByteArray) := do
  try return some (← IO.FS.readBinFile path) catch _ => return none

/-- The files that a command reads. -/
def filesOf (i : Invocation) : List String :=
  i.config.toList ++ match i.command with
    | .redact => []
    | .checkConfig path => [path]
    | .replay config request => [config, request]
    | .watch config => [config]

/-- The present as an instant. -/
def now : IO Instant := do
  let t ← Std.Time.Timestamp.now
  let nanos := t.toNanosecondsSinceUnixEpoch.val
  let seconds := nanos.fdiv 1000000000
  return ⟨seconds.fdiv 86400, (seconds.fmod 86400).toNat, (nanos.fmod 1000000000).toNat⟩

def surroundings (i : Invocation) : IO Surroundings := do
  let contents ← (filesOf i).mapM fun path => do return (path, ← readFile? path)
  let names := [Credentials.publicKeyVariable, Credentials.secretKeyVariable,
    Credentials.hostVariable]
  let environment ← names.mapM fun name => do return (name, ← IO.getEnv name)
  let input ← match i.command with
    | .redact => (← IO.getStdin).readBinToEnd
    | _ => pure .empty
  return {
    file := fun path => (contents.lookup path).join
    input
    env := fun name => (environment.lookup name).join
    reply := .unreachable "error sending request"
    now := ← now
    callId := Identifier.ofBits (← IO.rand 0 (pow2 128 - 1)) }

/-- Follows a file: every second its content is compared with the last one. -/
partial def follow (path : String) (content : Option ByteArray) (w : WatchedConfig) :
    IO Unit := do
  IO.sleep 1000
  let next ← readFile? path
  if next.map (·.toList) = content.map (·.toList) then follow path content w
  else
    let (ending, w) := w.reload next
    IO.eprintln ending.message
    for c in w.announced do
      IO.eprintln ("Configuration reloaded, timeout_ms=" ++ toString c.callbacks.timeoutMillis ++
        ", log_raw_request_response=" ++ toString c.policy.captureRequests)
    follow path next { w with announced := [] }

/-- Writes down what a command leaves: its lines that the settings show to standard error, its
output to standard output. -/
def deliver (o : CommandOutput) : IO Unit := do
  for line in o.lines do
    IO.eprintln line.toJson.compact
  IO.print o.printed
  match o with
  | .watching path l _ => follow path (← readFile? path) ⟨l, []⟩
  | _ => return

end CallScribe.Main

open CallScribe

def main (words : List String) : IO UInt32 := do
  match Invocation.read words with
  | .error (.help page) =>
    IO.print page.text
    return 0
  | .error .misuse =>
    IO.eprint HelpPage.overview.text
    return 2
  | .ok i =>
    match i.run (← Main.surroundings i) with
    | .error e =>
      IO.eprintln e.message
      return 1
    | .ok o =>
      Main.deliver o
      return 0
