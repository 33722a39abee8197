/-!
# CallScribe.Command.Arguments

What the words of a command line ask for.

* `Command`, `Invocation`: a command, and the settings file that is named beside it.
* `Token.scan`: options with their values, and all other words.
* `Invocation.read`: the invocation; a request for help or a misuse ends the reading where it
  stands.
-/

namespace CallScribe

/-- What the program can be asked to do. -/
inductive Command
  | redact
  | checkConfig (path : String)
  | replay (config request : String)
  | watch (config : String)
deriving DecidableEq, Repr

/-- A command, and the settings file that is named beside it. -/
structure Invocation where
  command : Command
  config : Option String
deriving DecidableEq, Repr

/-- The pages of the help. -/
inductive HelpPage
  | overview | redact | checkConfig | replay | watch | help
deriving DecidableEq, Repr

/-- Why there is nothing to run. -/
inductive Halt
  | help (page : HelpPage)
  | misuse
deriving DecidableEq, Repr

/-- A word or two of a command line. Operands are the words after a double hyphen. -/
inductive Token
  | config (path : String)
  | help
  | word (text : String)
  | operand (text : String)
  | fault
deriving DecidableEq, Repr

namespace Token

/-- Whether a word is an option, or the double hyphen that ends all options. A hyphen alone is
neither. -/
def isOption : List Char → Bool
  | '-' :: _ :: _ => true
  | _ => false

/-- The option of a word, whose value may be in the word. -/
def ofOption (cs : List Char) : Token :=
  if cs = "--help".toList then .help
  else if "--config=".toList.isPrefixOf cs then .config (String.ofList (cs.drop 9))
  else
    match cs with
    | '-' :: 'h' :: _ => .help
    | '-' :: 'c' :: '=' :: value => .config (String.ofList value)
    | '-' :: 'c' :: value => .config (String.ofList value)
    | _ => .fault

/-- Whether a word is an option whose value is the next word. -/
def awaitsValue (cs : List Char) : Bool := cs = "-c".toList || cs = "--config".toList

/-- The tokens of a command line. -/
def scan : List String → List Token
  | [] => []
  | w :: rest =>
    if w = "--" then rest.map .operand
    else if awaitsValue w.toList then
      match rest with
      | [] => [.fault]
      | v :: more => if isOption v.toList then [.fault] else .config v :: scan more
    else if isOption w.toList then ofOption w.toList :: scan rest
    else .word w :: scan rest

end Token

namespace Command

/-- The operands of a command, and the settings file if one may be named after it: once, and not
by an empty word. -/
def readOperands (page : HelpPage) (named : Bool) :
    Nat → Option String → List Token → Except Halt (List String × Option String)
  | 0, config, [] => .ok ([], config)
  | _ + 1, _, [] => .error .misuse
  | _, _, .help :: _ => .error (.help page)
  | n, config, .config path :: rest =>
    if named && config.isNone && !path.isEmpty then readOperands page named n (some path) rest
    else .error .misuse
  | n + 1, config, .word w :: rest | n + 1, config, .operand w :: rest =>
    if w.isEmpty then .error .misuse
    else do
      let (ws, config) ← readOperands page named n config rest
      .ok (w :: ws, config)
  | 0, _, .word _ :: _ | 0, _, .operand _ :: _ | _, _, .fault :: _ => .error .misuse

/-- The page that a word asks for. -/
def page? : String → Option HelpPage
  | "redact" => some .redact
  | "check-config" => some .checkConfig
  | "replay" => some .replay
  | "watch" => some .watch
  | "help" => some .help
  | _ => none

/-- The command that a word names, with the tokens after it. A settings file that is named after
the command wins over one that is named before. -/
def read (config : Option String) (name : String) (rest : List Token) : Except Halt Invocation :=
  match name with
  | "redact" => do
    let (_, later) ← readOperands .redact true 0 none rest
    .ok ⟨.redact, later.or config⟩
  | "check-config" => do
    match ← readOperands .checkConfig true 1 none rest with
    | ([path], later) => .ok ⟨.checkConfig path, later.or config⟩
    | _ => .error .misuse
  | "replay" => do
    match ← readOperands .replay false 2 none rest with
    | ([settings, request], _) => .ok ⟨.replay settings request, config⟩
    | _ => .error .misuse
  | "watch" => do
    match ← readOperands .watch false 1 none rest with
    | ([settings], _) => .ok ⟨.watch settings, config⟩
    | _ => .error .misuse
  | "help" =>
    match rest with
    | [] => .error (.help .overview)
    | [.word topic] => .error ((page? topic).elim .misuse .help)
    | _ => .error .misuse
  | _ => .error .misuse

end Command

namespace Invocation

/-- The tokens up to a command and from there on. -/
def ofTokens : Option String → List Token → Except Halt Invocation
  | config, .config path :: rest =>
    if config.isNone && !path.isEmpty then ofTokens (some path) rest else .error .misuse
  | _, .help :: _ => .error (.help .overview)
  | config, .word name :: rest => Command.read config name rest
  | _, _ => .error .misuse

/-- What the words of a command line ask for. -/
def read (words : List String) : Except Halt Invocation := ofTokens none (Token.scan words)

end Invocation
end CallScribe
