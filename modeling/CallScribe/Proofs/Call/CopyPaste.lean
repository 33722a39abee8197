import CallScribe.Proofs.Call.Command
import CallScribe.Proofs.Shell.Words

/-!
# CallScribe.Proofs.Call.CopyPaste

What a shell makes of a command.

* `Json.guarded_chars`: no single quote in the text of a value can be made up for behind it. The
  shell takes it for one of its own, and the next character that goes into the word is another one.
* `RequestArgs.command_words_iff`: the words of a command are the program, its options and the
  three parts of the request if and only if there is an address and neither headers nor body have a
  single quote.
-/

namespace CallScribe

namespace Json

open Shell

/-- The rest of a string, up to the character behind its closing quote. -/
theorem blocked_escaped (cs : List Char) {rest : List Char} (hrest : Shut .double rest) :
    Blocked (cs.flatMap escapeChar ++ '"' :: rest) := by
  induction cs with
  | nil => exact blocked_double hrest
  | cons c cs ih =>
    rw [List.flatMap_cons, List.append_assoc]
    by_cases hc : c = '\''
    · rw [hc]
      exact blocked_quote ih
    · rcases escapeChar_cases c with ⟨hplain, hclose, hescape, -⟩ | ⟨d, tail, hpair, hd, -⟩
      · rw [hplain]
        exact blocked_other hc hclose hescape _
      · have hne : ∀ e ∉ escapeLetters, d ≠ e := by
          rintro e he rfl
          exact he hd
        rw [hpair]
        exact blocked_escape (hne _ (by decide)) (hne _ (by decide)) _

theorem guarded_escapeChar {c : Char} {rest : List Char} (hrest : Blocked rest) :
    Guarded (escapeChar c) rest := by
  by_cases hc : c = '\''
  · rw [hc]
    intro front back h
    cases front with
    | nil =>
      obtain ⟨-, hback⟩ := List.cons.inj h
      rw [← hback]
      exact hrest
    | cons d front => exact absurd (List.cons.inj h).2 (by simp)
  · exact guarded_of_not_mem (mt apostrophe_mem_escapeChar.mp hc) rest

theorem guarded_quote (s : String) {rest : List Char} (hrest : Shut .double rest) :
    Guarded (quote s) rest := by
  have hinner : ∀ cs : List Char, Guarded (cs.flatMap escapeChar ++ ['"']) rest := by
    intro cs
    induction cs with
    | nil => exact guarded_of_not_mem (by decide) rest
    | cons c cs ih =>
      have hblocked := blocked_escaped cs hrest
      rw [List.flatMap_cons, List.append_assoc]
      exact .append (guarded_escapeChar (by rwa [List.append_assoc])) ih
  have hopen : Guarded ['"'] (s.toList.flatMap escapeChar ++ ['"'] ++ rest) :=
    guarded_of_not_mem (by decide) _
  exact hopen.append (hinner s.toList)

/-- What stands around and between elements and members. -/
def isDelimiter (c : Char) : Bool := "[]\x7b\x7d,:".toList.contains c

/-- Between double quotes a delimiter goes into the word. -/
theorem shut_delimiter {c : Char} (hc : isDelimiter c = true) (rest : List Char) :
    Shut .double (c :: rest) := by
  have hne : ∀ d : Char, isDelimiter d = false → c ≠ d := by
    rintro d hd rfl
    rw [hd] at hc
    cases hc
  exact shut_double (hne _ (by decide)) (hne _ (by decide)) (hne _ (by decide)) rest

theorem guarded_delimiter {c : Char} (hc : isDelimiter c = true) {u rest : List Char}
    (hu : Guarded u rest) : Guarded (c :: u) rest := by
  refine Guarded.append (u := [c]) (guarded_of_not_mem ?_ _) hu
  rw [List.mem_singleton]
  rintro rfl
  exact absurd hc (by decide)

theorem guarded_nil (rest : List Char) : Guarded [] rest := guarded_of_not_mem List.not_mem_nil _

theorem shut_itemsTail (items : List Json) (rest : List Char) :
    Shut .double (itemsTail items ++ ']' :: rest) := by
  cases items with
  | nil => exact shut_delimiter (by decide) _
  | cons v items => exact shut_delimiter (by decide) _

theorem shut_fieldsTail (fields : List (String × Json)) (rest : List Char) :
    Shut .double (fieldsTail fields ++ '\x7d' :: rest) := by
  cases fields with
  | nil => exact shut_delimiter (by decide) _
  | cons f fields => exact shut_delimiter (by decide) _

theorem guarded_of_texts_nil {v : Json} (h : v.texts = []) (rest : List Char) :
    Guarded v.chars rest := by
  refine guarded_of_not_mem ?_ rest
  rw [apostrophe_mem_chars_iff, h]
  simp

mutual

/-- A single quote of a value stands in a string, and what follows in that string or behind it
cannot give another one to the word. Only of a string itself it matters what follows the value. -/
theorem guarded_chars (v : Json) {rest : List Char}
    (hrest : v.kind = .string → Shut .double rest) : Guarded v.chars rest := by
  cases v with
  | null => exact guarded_of_texts_nil rfl rest
  | bool b => exact guarded_of_texts_nil rfl rest
  | int n => exact guarded_of_texts_nil rfl rest
  | real d => exact guarded_of_texts_nil rfl rest
  | string s => exact guarded_quote s (hrest rfl)
  | array items =>
    have hclose : Guarded [']'] rest := guarded_delimiter (by decide) (guarded_nil rest)
    exact guarded_delimiter (c := '[') (by decide) ((guarded_itemChars items rest).append hclose)
  | object fields =>
    have hclose : Guarded ['\x7d'] rest := guarded_delimiter (by decide) (guarded_nil rest)
    exact guarded_delimiter (c := '\x7b') (by decide)
      ((guarded_fieldChars fields rest).append hclose)

theorem guarded_itemChars (vs : List Json) (rest : List Char) :
    Guarded (itemChars vs) (']' :: rest) := by
  cases vs with
  | nil => exact guarded_nil _
  | cons v vs =>
    rw [itemChars_cons]
    refine .append (guarded_chars v fun _ => shut_itemsTail vs rest) ?_
    cases vs with
    | nil => exact guarded_nil _
    | cons w vs => exact guarded_delimiter (by decide) (guarded_itemChars (w :: vs) rest)

theorem guarded_fieldChars (fs : List (String × Json)) (rest : List Char) :
    Guarded (fieldChars fs) ('\x7d' :: rest) := by
  cases fs with
  | nil => exact guarded_nil _
  | cons f fs =>
    obtain ⟨k, v⟩ := f
    have hvalue := guarded_chars v fun _ => shut_fieldsTail fs rest
    have htail : Guarded (fieldsTail fs) ('\x7d' :: rest) := by
      cases fs with
      | nil => exact guarded_nil _
      | cons g fs => exact guarded_delimiter (by decide) (guarded_fieldChars (g :: fs) rest)
    rw [fieldChars_cons, List.append_assoc, List.cons_append]
    exact .append (guarded_quote k (shut_delimiter (by decide) _))
      (guarded_delimiter (by decide) (hvalue.append htail))

end

end Json

namespace RequestArgs

open Shell

/-- The words that the command is meant to have. -/
def commandWords (a : RequestArgs) : List String :=
  ["curl", "-X", "POST", a.shownBase, "-H", a.shownHeaders.compact, "-d", a.shownBody.compact]

/-- What stands from the address on. -/
def addressedChars (a : RequestArgs) : List Char :=
  a.shownBase.toList ++ ' ' :: '\\' :: '\n' :: ("-H".toList ++ ' ' :: '\'' ::
    (a.shownHeaders.chars ++ '\'' :: ' ' :: '\\' :: '\n' :: ("-d".toList ++ ' ' :: '\'' ::
      (a.shownBody.chars ++ ['\'', '\n']))))

theorem commandChars_addressed (a : RequestArgs) : a.commandChars =
    "curl".toList ++ ' ' :: ("-X".toList ++ ' ' :: ("POST".toList ++ ' ' :: '\\' :: '\n' ::
      a.addressedChars)) := by
  rw [commandChars_lines, addressedChars]
  simp

/-- From the quote in front of the headers on. -/
theorem read_headers_iff (a : RequestArgs) :
    read .single (a.shownHeaders.chars ++ '\'' :: ' ' :: '\\' :: '\n' :: ("-d".toList ++ ' ' ::
        '\'' :: (a.shownBody.chars ++ ['\'', '\n']))) =
      some [a.shownHeaders.chars, "-d".toList, a.shownBody.chars] ↔
    '\'' ∉ a.shownHeaders.chars ∧ '\'' ∉ a.shownBody.chars := by
  have hheaders : ∀ rest, Guarded a.shownHeaders.chars rest :=
    fun rest => a.shownHeaders.guarded_chars nofun
  have hopen : read .double ['\'', '\n'] = none := rfl
  have hbody : Guarded a.shownBody.chars ['\'', '\n'] :=
    a.shownBody.guarded_chars fun _ w ws h => absurd (hopen.symm.trans h) nofun
  have hend : read (.unquoted true) ['\n'] = some [[]] := rfl
  rw [read_single_eq_iff (hheaders _), read_blank_eq_iff, read_continued,
    read_word_eq_iff (by decide) (by decide), read_open, read_single_eq_iff hbody,
    and_iff_left hend]

/-- The command is the one that it is meant to be if and only if there is an address and no single
quote is printed between those around headers and body. -/
theorem command_words_iff (a : RequestArgs) (hbase : a.shownBase.toList.all isPlain = true) :
    words a.command = some a.commandWords ↔
      a.shownBase ≠ "" ∧ (∀ s ∈ a.shownHeaders.texts, '\'' ∉ s.toList) ∧
        ∀ s ∈ a.shownBody.texts, '\'' ∉ s.toList := by
  have hquotes : ∀ v : Json, (∀ s ∈ v.texts, '\'' ∉ s.toList) ↔ '\'' ∉ v.chars := by
    intro v
    rw [Json.apostrophe_mem_chars_iff]
    simp only [not_exists, not_and]
  have hwords : a.commandWords = ["curl".toList, "-X".toList, "POST".toList, a.shownBase.toList,
      "-H".toList, a.shownHeaders.chars, "-d".toList, a.shownBody.chars].map String.ofList := by
    simp [commandWords, Json.compact, String.ofList_toList]
  rw [hquotes, hquotes, hwords, command, words_eq_iff, commandChars_addressed,
    read_word_eq_iff (by decide) (by decide), read_word_eq_iff (by decide) (by decide),
    read_word_eq_iff (by decide) (by decide), read_continued, addressedChars, ← read_headers_iff]
  by_cases hempty : a.shownBase = ""
  · have hnone : ∀ {rest ws : List _}, read (.unquoted false) ("-H".toList ++ ' ' :: rest) ≠
        some ([] :: ws) := by
      intro rest ws h
      rw [read_word (by decide) (by decide), Option.map_eq_some_iff] at h
      obtain ⟨ws', -, heq⟩ := h
      exact absurd (List.cons.inj heq).1 (by decide)
    rw [hempty, String.toList_empty, List.nil_append, read_space, read_continued]
    exact iff_of_false hnone fun h => h.1 rfl
  · have hne : a.shownBase.toList ≠ [] := by simpa using hempty
    rw [read_word_eq_iff hbase hne, read_continued, read_word_eq_iff (by decide) (by decide),
      read_open, and_iff_right hempty]

/-- A request with an address, a header and one prompt. -/
def prompted (prompt : String) : RequestArgs where
  apiBase := some "https://api.openai.com/v1"
  headers := [("Content-Type", .string "application/json")]
  body := .object [("prompt", .string prompt)]

theorem prompted_words : (prompted "Hello").shownBase.toList.all isPlain = true ∧
    words (prompted "Hello").command = some (prompted "Hello").commandWords :=
  ⟨by decide, (command_words_iff (prompted "Hello") (by decide)).mpr
    ⟨by decide, by decide, by decide⟩⟩

/-- One single quote leaves a quote open. -/
theorem apostrophe_breaks : (prompted "it's").shownBase.toList.all isPlain = true ∧
    words (prompted "it's").command = none := by decide +kernel

/-- With two of them the body is another one. -/
example : words (prompted "'a' b").command =
    some ["curl", "-X", "POST", "https://api.openai.com/v1", "-H",
      "\x7b\"Content-Type\":\"application/json\"\x7d", "-d", "\x7b\"prompt\":\"a b\"\x7d"] := by
  decide +kernel

end RequestArgs
end CallScribe
