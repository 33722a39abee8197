import CallScribe.Pattern.Matching

/-!
# CallScribe.Pattern.Rewriting

Replacing every match in a text, kept apart from the text itself: a scan yields a list of edits,
and the edits can be run on the characters or on anything else of the same length, such as their
positions.

* `Edit`, `Edit.run`: keep, drop or mask some elements.
* `Place.edits`: what happens to one match.
* `Pattern.scan`: the edits for all matches of a text, from left to right.
-/

namespace CallScribe

/-- What happens to the next elements of a list. -/
inductive Edit
  | keep (n : Nat)
  | drop (n : Nat)
  | mask (n : Nat)
deriving DecidableEq, Repr

namespace Edit

/-- Runs edits on a list; masked elements give way to one copy of the marker. -/
def run {α : Type} (marker : List α) : List Edit → List α → List α
  | [], rest => rest
  | .keep n :: es, xs => xs.take n ++ run marker es (xs.drop n)
  | .drop n :: es, xs => run marker es (xs.drop n)
  | .mask n :: es, xs => marker ++ run marker es (xs.drop n)

end Edit

/-- The edits for one match that ends here: its lead stays, all else gives way to the marker. -/
def Place.edits (d : Place) : List Edit :=
  match d.lead with
  | none => [.mask d.pos]
  | some (a, b) => [.drop a, .keep (b - a), .mask (d.pos - b)]

namespace Pattern

/-- The edits for all matches. `skip` characters belong to the match just found, and `fresh`
says that no match ends where they do: a match of nothing that touches the one before it does not
count. -/
def scan (p : Pattern) : Option Char → Nat → Bool → List Char → List Edit
  | behind, _, fresh, [] =>
    match p.first? behind [] with
    | none => []
    | some d => if fresh then d.edits else []
  | _, skip + 1, fresh, c :: rest => p.scan (some c) skip fresh rest
  | behind, 0, fresh, c :: rest =>
    match p.first? behind (c :: rest) with
    | none => .keep 1 :: p.scan (some c) 0 true rest
    | some d =>
      if d.pos = 0 then
        (if fresh then d.edits else []) ++ .keep 1 :: p.scan (some c) 0 true rest
      else d.edits ++ p.scan (some c) (d.pos - 1) false rest

/-- The edits that mask every match in a text. -/
def edits (p : Pattern) (text : List Char) : List Edit := p.scan none 0 true text

end Pattern
end CallScribe
