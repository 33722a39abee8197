/-!
# CallScribe.Proofs.Shell.Words

How a POSIX shell splits a line into words, as far as quoting goes.

* `Shell.Mode`, `Shell.step`: what the reader knows, and what a character tells it.
* `Shell.read`: the words of a text. It has none if a quote is left open, or if an unquoted
  character makes it more than one simple command or would be expanded.
* `Shell.read_word`, `Shell.read_single`: a bare word ends at a blank, a quoted one at the next
  single quote.
* `Shell.Guarded`, `Shell.read_single_eq_iff`: a text between single quotes is one word if and only
  if it has no single quote of its own, provided that behind such a quote no other one can come into
  the word in its place.
-/

namespace CallScribe
namespace Shell

/-- Where the reader is; of an unquoted place, whether it is within a word. -/
inductive Mode
  | unquoted (inWord : Bool)
  | escaped (inWord : Bool)
  | single
  | double
  | doubleEscaped
  | comment
  | over
deriving DecidableEq, Repr

def isBlank (c : Char) : Bool := c = ' ' || c = '\t'

/-- Operators, and what begins an expansion or a file name pattern. -/
def isActive (c : Char) : Bool := "|&;<>()$\x60*?[".toList.contains c

/-- Puts characters before the first word. -/
def onto (cs : List Char) (ws : List (List Char)) : List (List Char) := ws.modifyHead (cs ++ ·)

/-- The mode that a character leads to, and what it adds to the words that follow. -/
def step : Mode → Char → Option (Mode × (List (List Char) → List (List Char)))
  | .unquoted inWord, c =>
    let close := if inWord then List.cons [] else id
    if isBlank c then some (.unquoted false, close)
    else if c = '\n' then some (.over, close)
    else if c = '\'' then some (.single, id)
    else if c = '"' then some (.double, id)
    else if c = '\\' then some (.escaped inWord, id)
    else if isActive c then none
    else if !inWord && c = '#' then some (.comment, id)
    else if !inWord && c = '~' then none
    else some (.unquoted true, onto [c])
  | .escaped inWord, c =>
    if c = '\n' then some (.unquoted inWord, id)
    else some (.unquoted true, onto [c])
  | .single, c =>
    if c = '\'' then some (.unquoted true, id)
    else some (.single, onto [c])
  | .double, c =>
    if c = '"' then some (.unquoted true, id)
    else if c = '\\' then some (.doubleEscaped, id)
    else if c = '$' || c = '\x60' then none
    else some (.double, onto [c])
  -- Between double quotes the backslash stays before most characters.
  | .doubleEscaped, c =>
    if c = '\n' then some (.double, id)
    else if "$\x60\"\\".toList.contains c then some (.double, onto [c])
    else some (.double, onto ['\\', c])
  | .comment, c => some (if c = '\n' then .over else .comment, id)
  | .over, c => if isBlank c || c = '\n' then some (.over, id) else none

/-- What the end of the text tells. -/
def finish : Mode → Option (List (List Char))
  | .unquoted inWord => some (if inWord then [[]] else [])
  | .comment | .over => some []
  | .escaped _ | .single | .double | .doubleEscaped => none

/-- The words of a text. Within a word the first of them is what is left of it. -/
def read : Mode → List Char → Option (List (List Char))
  | m, [] => finish m
  | m, c :: rest => (step m c).bind fun next => (read next.1 rest).map next.2

/-- The words of a command line. -/
def words (line : String) : Option (List String) :=
  (read (.unquoted false) line.toList).map fun ws => ws.map String.ofList

theorem words_eq_iff {cs : List Char} {ws : List (List Char)} :
    words (String.ofList cs) = some (ws.map String.ofList) ↔
      read (.unquoted false) cs = some ws := by
  rw [words, String.toList_ofList, Option.map_eq_some_iff]
  constructor
  · rintro ⟨ws', hread, heq⟩
    rw [hread, (List.map_inj_right fun _ _ => String.ofList_inj.mp).mp heq]
  · exact fun h => ⟨ws, h, rfl⟩

example : words "a 'b c' d\"'e\"\\'f \\\n ''\n" = some ["a", "b c", "d'e'f", ""] := by decide

example : words "a 'b" = none ∧ words "a; b" = none := by decide

/-! ## Words as they are written -/

/-- The character stands for itself, wherever it is in a word. -/
def isPlain (c : Char) : Bool :=
  !isBlank c && !isActive c && !"\n'\"\\#~".toList.contains c

theorem step_plain {c : Char} (hc : isPlain c = true) (inWord : Bool) :
    step (.unquoted inWord) c = some (.unquoted true, onto [c]) := by
  simp only [isPlain, Bool.and_eq_true, Bool.not_eq_true'] at hc
  obtain ⟨⟨hblank, hactive⟩, hmark⟩ := hc
  have hne : ∀ d : Char, "\n'\"\\#~".toList.contains d = true → c ≠ d := by
    rintro d hd rfl
    rw [hmark] at hd
    cases hd
  simp [step, hblank, hactive, hne '\n' (by decide), hne '\'' (by decide), hne '"' (by decide),
    hne '\\' (by decide), hne '#' (by decide), hne '~' (by decide)]

@[simp] theorem onto_cons (cs w : List Char) (ws : List (List Char)) :
    onto cs (w :: ws) = (cs ++ w) :: ws := rfl

theorem onto_nil : onto [] = id := by
  funext ws
  cases ws <;> rfl

theorem onto_append (u v : List Char) : onto (u ++ v) = onto u ∘ onto v := by
  funext ws
  cases ws with
  | nil => rfl
  | cons w ws => exact congrArg (· :: ws) (List.append_assoc u v w)

theorem read_cons {m n : Mode} {c : Char} {add : List (List Char) → List (List Char)}
    (h : step m c = some (n, add)) (rest : List Char) :
    read m (c :: rest) = (read n rest).map add := by
  rw [read, h, Option.bind_some]

/-- A character that leads back to its mode and goes into the word. -/
theorem read_run {m : Mode} {u : List Char} (hu : ∀ c ∈ u, step m c = some (m, onto [c]))
    (rest : List Char) : read m (u ++ rest) = (read m rest).map (onto u) := by
  induction u with
  | nil => rw [onto_nil, Option.map_id, List.nil_append, id]
  | cons c u ih =>
    obtain ⟨hc, hu⟩ := List.forall_mem_cons.mp hu
    rw [List.cons_append, read_cons hc, ih hu, Option.map_map, ← onto_append, List.singleton_append]

/-- A blank ends the word that it is behind. -/
theorem read_blank (rest : List Char) :
    read (.unquoted true) (' ' :: rest) = (read (.unquoted false) rest).map (List.cons []) :=
  read_cons rfl rest

theorem read_space (rest : List Char) :
    read (.unquoted false) (' ' :: rest) = read (.unquoted false) rest := by
  have hpass : step (.unquoted false) ' ' = some (.unquoted false, id) := rfl
  rw [read_cons hpass, Option.map_id, id]

/-- A bare word ends at a blank. -/
theorem read_word {u : List Char} (hu : u.all isPlain = true) (hne : u ≠ [])
    (rest : List Char) : read (.unquoted false) (u ++ ' ' :: rest) =
      (read (.unquoted false) rest).map (List.cons u) := by
  obtain ⟨c, v, rfl⟩ := List.exists_cons_of_ne_nil hne
  obtain ⟨hc, hv⟩ := List.forall_mem_cons.mp (List.all_eq_true.mp hu)
  have hstep : ∀ x ∈ v, step (.unquoted true) x = some (.unquoted true, onto [x]) :=
    fun x hx => step_plain (hv x hx) true
  rw [List.cons_append, read_cons (step_plain hc false), read_run hstep, read_blank, Option.map_map,
    Option.map_map]
  congr 1
  funext ws
  simp

theorem map_cons_eq_iff {r : Option (List (List Char))} {u : List Char} {ws : List (List Char)} :
    r.map (List.cons u) = some (u :: ws) ↔ r = some ws := by
  cases r <;> simp

theorem read_word_eq_iff {u : List Char} (hu : u.all isPlain = true) (hne : u ≠ [])
    {rest : List Char} {ws : List (List Char)} :
    read (.unquoted false) (u ++ ' ' :: rest) = some (u :: ws) ↔
      read (.unquoted false) rest = some ws := by
  rw [read_word hu hne, map_cons_eq_iff]

theorem read_blank_eq_iff {rest : List Char} {ws : List (List Char)} :
    read (.unquoted true) (' ' :: rest) = some ([] :: ws) ↔
      read (.unquoted false) rest = some ws := by
  rw [read_blank, map_cons_eq_iff]

/-- A backslash takes a line break away. -/
theorem read_continued (inWord : Bool) (rest : List Char) :
    read (.unquoted inWord) ('\\' :: '\n' :: rest) = read (.unquoted inWord) rest := by
  have hopen : step (.unquoted inWord) '\\' = some (.escaped inWord, id) := rfl
  have hbreak : step (.escaped inWord) '\n' = some (.unquoted inWord, id) := rfl
  rw [read_cons hopen, read_cons hbreak, Option.map_id, id, id]

/-- A single quote may begin a word. -/
theorem read_open (rest : List Char) :
    read (.unquoted false) ('\'' :: rest) = read .single rest := by
  have hopen : step (.unquoted false) '\'' = some (.single, id) := rfl
  rw [read_cons hopen, Option.map_id, id]

theorem step_single {c : Char} (hc : c ≠ '\'') : step .single c = some (.single, onto [c]) := by
  rw [step, if_neg hc]

/-- Between single quotes every other character stands for itself. -/
theorem read_single {u : List Char} (hu : '\'' ∉ u) (rest : List Char) :
    read .single (u ++ '\'' :: rest) = (read (.unquoted true) rest).map (onto u) := by
  have hclose : step .single '\'' = some (.unquoted true, id) := rfl
  have hstep : ∀ c ∈ u, step .single c = some (.single, onto [c]) :=
    fun c hc => step_single (by rintro rfl; exact hu hc)
  rw [read_run hstep, read_cons hclose, Option.map_id, id]

/-! ## Quotes within quotes -/

/-- What is left of the word does not begin with a single quote. -/
def Shut (m : Mode) (cs : List Char) : Prop := ∀ w ws, read m cs ≠ some (('\'' :: w) :: ws)

/-- Behind a single quote, whether it opens or closes, no single quote comes into the word before
another character does. -/
def Blocked (cs : List Char) : Prop := Shut (.unquoted true) cs ∧ Shut .single cs

/-- Every single quote of a text is blocked, if something else follows the text. -/
def Guarded (cs rest : List Char) : Prop :=
  ∀ front back, cs = front ++ '\'' :: back → Blocked (back ++ rest)

theorem shut_of_pass {m n : Mode} {c : Char} (h : step m c = some (n, id)) {cs : List Char}
    (hcs : Shut n cs) : Shut m (c :: cs) := by
  intro w ws hread
  rw [read_cons h, Option.map_id, id] at hread
  exact hcs w ws hread

theorem shut_of_onto {m n : Mode} {c d : Char} {u : List Char}
    (h : step m c = some (n, onto (d :: u))) (hd : d ≠ '\'') (cs : List Char) :
    Shut m (c :: cs) := by
  intro w ws hread
  rw [read_cons h, Option.map_eq_some_iff] at hread
  obtain ⟨ws', -, heq⟩ := hread
  cases ws' with
  | nil => cases heq
  | cons w' ws' => exact hd (List.cons.inj (List.cons.inj heq).1).1

theorem shut_of_none {m : Mode} {c : Char} (h : step m c = none) (cs : List Char) :
    Shut m (c :: cs) := by
  intro w ws hread
  rw [read, h] at hread
  cases hread

theorem shut_of_close {m n : Mode} {c : Char} (h : step m c = some (n, List.cons []))
    (cs : List Char) : Shut m (c :: cs) := by
  intro w ws hread
  rw [read_cons h, Option.map_eq_some_iff] at hread
  obtain ⟨ws', -, heq⟩ := hread
  cases heq

theorem shut_single {c : Char} (hc : c ≠ '\'') (cs : List Char) : Shut .single (c :: cs) :=
  shut_of_onto (step_single hc) hc cs

theorem shut_double {c : Char} (hquote : c ≠ '\'') (hclose : c ≠ '"') (hescape : c ≠ '\\')
    (cs : List Char) : Shut .double (c :: cs) := by
  by_cases hactive : (decide (c = '$') || decide (c = '\x60')) = true
  · exact shut_of_none (by rw [step, if_neg hclose, if_neg hescape, if_pos hactive]) cs
  · have hstep : step .double c = some (.double, onto [c]) := by
      rw [step, if_neg hclose, if_neg hescape, if_neg hactive]
    exact shut_of_onto hstep hquote cs

theorem blocked_quote {cs : List Char} (h : Blocked cs) : Blocked ('\'' :: cs) :=
  ⟨shut_of_pass (n := .single) rfl h.2, shut_of_pass (n := .unquoted true) rfl h.1⟩

theorem blocked_double {cs : List Char} (h : Shut .double cs) : Blocked ('"' :: cs) :=
  ⟨shut_of_pass (n := .double) rfl h, shut_single (by decide) cs⟩

theorem blocked_escape {c : Char} (hquote : c ≠ '\'') (hbreak : c ≠ '\n') (cs : List Char) :
    Blocked ('\\' :: c :: cs) := by
  have hstep : step (.escaped true) c = some (.unquoted true, onto [c]) := by
    rw [step, if_neg hbreak]
  exact ⟨shut_of_pass (n := .escaped true) rfl (shut_of_onto hstep hquote cs),
    shut_single (by decide) _⟩

theorem blocked_other {c : Char} (hquote : c ≠ '\'') (hclose : c ≠ '"') (hescape : c ≠ '\\')
    (cs : List Char) : Blocked (c :: cs) := by
  refine ⟨?_, shut_single hquote cs⟩
  have hcases : step (.unquoted true) c = none ∨
      (∃ n, step (.unquoted true) c = some (n, List.cons [])) ∨
      step (.unquoted true) c = some (.unquoted true, onto [c]) := by
    simp only [step, if_neg hquote, if_neg hclose, if_neg hescape]
    split
    · exact .inr (.inl ⟨_, rfl⟩)
    · split
      · exact .inr (.inl ⟨_, rfl⟩)
      · split
        · exact .inl rfl
        · exact .inr (.inr rfl)
  rcases hcases with h | ⟨n, h⟩ | h
  · exact shut_of_none h cs
  · exact shut_of_close h cs
  · exact shut_of_onto h hquote cs

theorem guarded_of_not_mem {cs : List Char} (h : '\'' ∉ cs) (rest : List Char) :
    Guarded cs rest := by
  rintro front back rfl
  exact absurd (List.mem_append_right _ List.mem_cons_self) h

theorem Guarded.append {u v rest : List Char} (hu : Guarded u (v ++ rest)) (hv : Guarded v rest) :
    Guarded (u ++ v) rest := by
  intro front back h
  rcases List.append_eq_append_iff.mp h with ⟨z, rfl, hz⟩ | ⟨z, rfl, hz⟩
  · exact hv z back hz
  · cases z with
    | nil => exact hv [] back hz.symm
    | cons c z =>
      obtain ⟨rfl, hback⟩ := List.cons.inj hz
      have hback : back = z ++ v := hback
      rw [hback, List.append_assoc]
      exact hu front z rfl

/-- A guarded text between single quotes comes out as a word if and only if it has no single
quote. -/
theorem read_single_eq_iff {u rest : List Char} (hu : Guarded u ('\'' :: rest))
    (ws : List (List Char)) :
    read .single (u ++ '\'' :: rest) = some (u :: ws) ↔
      '\'' ∉ u ∧ read (.unquoted true) rest = some ([] :: ws) := by
  constructor
  · intro h
    -- Up to the first single quote the word is as it should be; then it has to go on with one.
    have hnot : '\'' ∉ u := by
      intro hmem
      obtain ⟨front, back, rfl, hfront⟩ := List.eq_append_cons_of_mem hmem
      rw [List.append_assoc, List.cons_append, read_single hfront, Option.map_eq_some_iff] at h
      obtain ⟨ws', hread, heq⟩ := h
      cases ws' with
      | nil => cases heq
      | cons w ws' =>
        obtain ⟨hw, -⟩ := List.cons.inj heq
        rw [List.append_cancel_left hw] at hread
        exact (hu front back rfl).1 _ _ hread
    rw [read_single hnot, Option.map_eq_some_iff] at h
    obtain ⟨ws', hread, heq⟩ := h
    cases ws' with
    | nil => cases heq
    | cons w ws' =>
      obtain ⟨hw, rfl⟩ := List.cons.inj heq
      rw [List.append_cancel_left (hw.trans (List.append_nil u).symm)] at hread
      exact ⟨hnot, hread⟩
  · rintro ⟨hnot, hread⟩
    rw [read_single hnot, hread, Option.map_some, onto_cons, List.append_nil]

end Shell
end CallScribe
