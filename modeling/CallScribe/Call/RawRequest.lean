import CallScribe.Call.Types
import CallScribe.Redaction.Policy

/-!
# CallScribe.Call.RawRequest

A request written as a curl command.

* `maskHeaders`: the headers, those with credentials masked.
* `RequestArgs.command`: the command.
-/

namespace CallScribe

/-- The headers whose values are credentials. -/
def credentialHeaders : List String := ["authorization", "api-key", "x-api-key", "x-goog-api-key"]

/-- Splits a text at its first blank. -/
def splitAtBlank (cs : List Char) : Option (List Char × List Char) :=
  match cs.dropWhile (· ≠ ' ') with
  | _ :: rest => some (cs.takeWhile (· ≠ ' '), rest)
  | [] => none

/-- A masked credential; the word bearer in front of a token stays. -/
def maskHeaderValue (value : String) : String :=
  match splitAtBlank value.toList with
  | some (scheme, token) =>
    if (String.ofList scheme).toLower = "bearer" then
      String.ofList (scheme ++ ' ' :: (maskSecret (String.ofList token)).toList)
    else maskSecret value
  | none => maskSecret value

/-- One header; a credential that is no text gives way to four stars. -/
def maskHeader (name : String) (value : Json) : Json :=
  if credentialHeaders.contains (lowerName name) then
    match value with
    | .string s => .string (maskHeaderValue s)
    | _ => .string "****"
  else value

def maskHeaders (headers : Fields Json) : Fields Json :=
  headers.map fun h => (h.1, maskHeader h.1 h.2)

/-- What stands for an address that is not set. -/
def missingBase : String := "<api_base not set>"

namespace RequestArgs

/-- The body; null counts as an empty object. -/
def shownBody (a : RequestArgs) : Json := if a.body.isNull then .object [] else a.body

/-- The characters of the curl command. -/
def commandChars (a : RequestArgs) : List Char :=
  "curl -X POST \\\n".toList ++ (a.apiBase.getD missingBase).toList ++ " \\\n-H '".toList ++
    (Json.object (maskHeaders a.headers)).chars ++ "' \\\n-d '".toList ++ a.shownBody.chars ++
    "'\n".toList

/-- The request as a curl command. -/
def command (a : RequestArgs) : String := String.ofList a.commandChars

end RequestArgs
end CallScribe
