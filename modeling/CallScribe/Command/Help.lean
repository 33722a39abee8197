import CallScribe.Command.Arguments

/-!
# CallScribe.Command.Help

The pages of the help.

* `HelpPage.text`: a page.
-/

namespace CallScribe
namespace HelpPage

/-- A page from its lines. -/
def ofLines (lines : List String) : String := String.join (lines.map (· ++ "\n"))

def configLine : String :=
  "  -c, --config <CONFIG>  Config file used for logging setup (defaults apply when omitted)"

def overviewLines : List String := [
  "Redaction and callback logging tools for LLM API calls",
  "",
  "Usage: callback-logging [OPTIONS] <COMMAND>",
  "",
  "Commands:",
  "  redact        Redact secrets from stdin and write the result to stdout",
  "  check-config  Load and validate a configuration file",
  "  replay        Run a recorded request through pre_call and dispatch",
  "  watch         Watch a configuration file and apply changes until interrupted",
  "  help          Print this message or the help of the given subcommand(s)",
  "",
  "Options:",
  configLine,
  "  -h, --help             Print help"]

def redactLines : List String := [
  "Redact secrets from stdin and write the result to stdout",
  "",
  "Usage: callback-logging redact [OPTIONS]",
  "",
  "Options:",
  configLine,
  "  -h, --help             Print help"]

def checkConfigLines : List String := [
  "Load and validate a configuration file",
  "",
  "Usage: callback-logging check-config [OPTIONS] <PATH>",
  "",
  "Arguments:",
  "  <PATH>  ",
  "",
  "Options:",
  configLine,
  "  -h, --help             Print help"]

def replayLines : List String := [
  "Run a recorded request through pre_call and dispatch",
  "",
  "Usage: callback-logging replay <CONFIG> <REQUEST>",
  "",
  "Arguments:",
  "  <CONFIG>   ",
  "  <REQUEST>  ",
  "",
  "Options:",
  "  -h, --help  Print help"]

def watchLines : List String := [
  "Watch a configuration file and apply changes until interrupted",
  "",
  "Usage: callback-logging watch <CONFIG>",
  "",
  "Arguments:",
  "  <CONFIG>  ",
  "",
  "Options:",
  "  -h, --help  Print help"]

def helpLines : List String := [
  "Print this message or the help of the given subcommand(s)",
  "",
  "Usage: callback-logging help [COMMAND]...",
  "",
  "Arguments:",
  "  [COMMAND]...  Print help for the subcommand(s)"]

/-- The text of a page. -/
def text : HelpPage → String
  | .overview => ofLines overviewLines
  | .redact => ofLines redactLines
  | .checkConfig => ofLines checkConfigLines
  | .replay => ofLines replayLines
  | .watch => ofLines watchLines
  | .help => ofLines helpLines

end HelpPage
end CallScribe
