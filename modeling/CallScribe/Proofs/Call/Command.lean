import CallScribe.Proofs.Call.RawRequest
import CallScribe.Proofs.Json.Characters
import CallScribe.Proofs.Json.Reading

/-!
# CallScribe.Proofs.Call.Command

What a command tells about the request that it was made from.

* `cutLine`: the last line of a text and what stands before it.
* `CommandParts.read`: the address, the headers and the body of a command, found from its end. Only
  the address can have line breaks of its own.
* `RequestArgs.command_shows`: the parts are read back as they were written, whatever they look
  like. Two requests have one command if and only if they have one address, the same headers after
  masking and the same body.
-/

namespace CallScribe

/-- The last line of a text, and what stands before the break in front of it. -/
def cutLine (cs : List Char) : List Char × List Char :=
  ((cs.reverse.dropWhile (· ≠ '\n')).tail.reverse, (cs.reverse.takeWhile (· ≠ '\n')).reverse)

theorem cutLine_append (front : List Char) {line : List Char} (hline : '\n' ∉ line) :
    cutLine (front ++ '\n' :: line) = (front, line) := by
  have hpass : ∀ c ∈ line.reverse, decide (c ≠ '\n') = true := by
    intro c hc
    rw [decide_eq_true_eq]
    rintro rfl
    exact hline (List.mem_reverse.mp hc)
  have hreverse : (front ++ '\n' :: line).reverse = line.reverse ++ '\n' :: front.reverse := by
    simp
  rw [cutLine, hreverse, List.takeWhile_append_of_pos hpass, List.dropWhile_append_of_pos hpass]
  simp

/-- What stands between two texts of known length. -/
def inner (front back cs : List Char) : List Char :=
  (cs.drop front.length).take (cs.length - front.length - back.length)

theorem inner_append (front back cs : List Char) : inner front back (front ++ cs ++ back) = cs := by
  have hlength : (front ++ cs ++ back).length - front.length - back.length = cs.length := by
    simp only [List.length_append]
    omega
  rw [inner, hlength, List.append_assoc, List.drop_left, List.take_left]

/-- What a command is made from, as texts. -/
structure CommandParts where
  base : String
  headers : String
  body : String
deriving DecidableEq, Repr

namespace CommandParts

/-- Finds the parts from the end of the command. -/
def read (command : String) : CommandParts :=
  let (lines, _) := cutLine command.toList
  let (lines, body) := cutLine lines
  let (lines, headers) := cutLine lines
  { base := String.ofList (inner "curl -X POST \\\n".toList " \\".toList lines)
    headers := String.ofList (inner "-H '".toList "' \\".toList headers)
    body := String.ofList (inner "-d '".toList "'".toList body) }

end CommandParts

theorem Json.no_lineBreak (v : Json) : '\n' ∉ v.chars :=
  fun h => absurd (v.printable_chars '\n' h) (by decide)

namespace RequestArgs

/-- The address, or what stands for it. -/
def shownBase (a : RequestArgs) : String := a.apiBase.getD missingBase

/-- The headers after masking, as one value. -/
def shownHeaders (a : RequestArgs) : Json := .object (maskHeaders a.headers)

/-- The parts that a command is made from. -/
def parts (a : RequestArgs) : CommandParts where
  base := a.shownBase
  headers := a.shownHeaders.compact
  body := a.shownBody.compact

/-- The lines of the command; the first of them may be several. -/
theorem commandChars_lines (a : RequestArgs) : a.commandChars =
    "curl -X POST \\\n".toList ++ a.shownBase.toList ++ " \\".toList ++
      '\n' :: ("-H '".toList ++ a.shownHeaders.chars ++ "' \\".toList) ++
      '\n' :: ("-d '".toList ++ a.shownBody.chars ++ "'".toList) ++ '\n' :: [] := by
  have hheaders : " \\\n-H '".toList = " \\".toList ++ '\n' :: "-H '".toList := by decide
  have hbody : "' \\\n-d '".toList = "' \\".toList ++ '\n' :: "-d '".toList := by decide
  have hend : "'\n".toList = "'".toList ++ ['\n'] := by decide
  unfold commandChars
  rw [hheaders, hbody, hend]
  simp only [shownBase, shownHeaders, List.append_assoc, List.cons_append]

/-- What follows the address has a line for the headers and one for the body, since their line
breaks are printed as escapes. -/
theorem read_command (a : RequestArgs) : CommandParts.read a.command = a.parts := by
  have hheaders : '\n' ∉ "-H '".toList ++ a.shownHeaders.chars ++ "' \\".toList := by
    simp only [List.mem_append, not_or]
    exact ⟨⟨by decide, a.shownHeaders.no_lineBreak⟩, by decide⟩
  have hbody : '\n' ∉ "-d '".toList ++ a.shownBody.chars ++ "'".toList := by
    simp only [List.mem_append, not_or]
    exact ⟨⟨by decide, a.shownBody.no_lineBreak⟩, by decide⟩
  unfold CommandParts.read parts
  rw [command_toList, commandChars_lines, cutLine_append _ List.not_mem_nil]
  dsimp only
  rw [cutLine_append _ hbody]
  dsimp only
  rw [cutLine_append _ hheaders]
  dsimp only
  rw [inner_append, inner_append, inner_append, String.ofList_toList]
  rfl

theorem command_eq_of_parts {a b : RequestArgs} (h : a.parts = b.parts) :
    a.command = b.command := by
  obtain ⟨hbase, hheaders, hbody⟩ := CommandParts.mk.inj h
  unfold command
  rw [commandChars_lines, commandChars_lines, hbase, Json.compact_inj.mp hheaders,
    Json.compact_inj.mp hbody]

theorem parts_eq_iff {a b : RequestArgs} : a.parts = b.parts ↔
    a.shownBase = b.shownBase ∧ maskHeaders a.headers = maskHeaders b.headers ∧
      a.shownBody = b.shownBody := by
  rw [parts, parts, CommandParts.mk.injEq, Json.compact_inj, Json.compact_inj, shownHeaders,
    shownHeaders, Json.object.injEq]

/-- A command loses nothing but what is masked: it shows the address, the masked headers and the
body, and two commands are the same only if these are. -/
theorem command_shows (a b : RequestArgs) :
    (a.command = b.command ↔ a.shownBase = b.shownBase ∧
      maskHeaders a.headers = maskHeaders b.headers ∧ a.shownBody = b.shownBody) ∧
    CommandParts.read a.command =
      ⟨a.shownBase, (Json.object (maskHeaders a.headers)).compact, a.shownBody.compact⟩ := by
  refine ⟨?_, read_command a⟩
  rw [← parts_eq_iff]
  constructor
  · intro h
    rw [← read_command a, h, read_command b]
  · exact command_eq_of_parts

/-- A request whose address looks like the rest of a command. -/
def disguised : RequestArgs where
  apiBase := some "here \\\n-H '1' \\\n-d '2'\n"
  body := .int 3

example : CommandParts.read disguised.command =
    ⟨"here \\\n-H '1' \\\n-d '2'\n", "\x7b\x7d", "3"⟩ := by decide

end RequestArgs
end CallScribe
