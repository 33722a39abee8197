import CallScribe.Pattern.Basic

/-!
# CallScribe.Pattern.Matching

Where a match of a pattern can end, in order of preference, and the search through a text.

* `Place`: a place in a text, with what was read on the way there.
* `Pattern.ends`: the ends of the matches that start at a place, the preferred one first and
  each position once.
* `Pattern.first?`: the match that starts at a place.
* `Pattern.occursIn`: whether some match lies in a text.
-/

namespace CallScribe

/-- A place in a text: its neighbours, the number of characters read since the match began, and
the stretch that the lead covers. -/
structure Place where
  behind : Option Char
  ahead : List Char
  pos : Nat
  lead : Option (Nat × Nat)
deriving DecidableEq, Repr

namespace Place

/-- The place at which a match may begin. -/
def start (behind : Option Char) (ahead : List Char) : Place := ⟨behind, ahead, 0, none⟩

/-- The places reached by reading one, two, … members of a set. -/
def sweep (set : CharSet) (pos : Nat) (lead : Option (Nat × Nat)) : List Char → List Place
  | [] => []
  | c :: rest =>
    if set.contains c then ⟨some c, rest, pos + 1, lead⟩ :: sweep set (pos + 1) lead rest else []

/-- The place after one member of a set. -/
def step (set : CharSet) (h : Place) : List Place := (sweep set h.pos h.lead h.ahead).take 1

/-- Keeps the first of the places at each position, positions in `seen` left out. -/
def distinctFrom (seen : List Nat) : List Place → List Place
  | [] => []
  | h :: rest =>
    if seen.contains h.pos then distinctFrom seen rest
    else h :: distinctFrom (h.pos :: seen) rest

def distinct (hs : List Place) : List Place := distinctFrom [] hs

/-- Shortest first or longest first. -/
def inOrder (greedy : Bool) (hs : List Place) : List Place := if greedy then hs.reverse else hs

/-- The places after between `least` and `most` members of a set. -/
def runs (set : CharSet) (least : Nat) (most : Option Nat) (greedy : Bool) (h : Place) :
    List Place :=
  let all := h :: sweep set h.pos h.lead h.ahead
  let upTo := match most with
    | none => all
    | some m => all.take (m + 1)
  inOrder greedy (upTo.drop least)

/-- The places after exactly `n` rounds from the given ones. -/
def copies (round : Place → List Place) : Nat → List Place → List Place
  | 0, hs => hs
  | n + 1, hs => copies round n (distinct (hs.flatMap round))

/-- The places after one round from each of the given ones, in groups. A position belongs to the
first group that reaches it; those in `seen` belong to none. -/
def spread (round : Place → List Place) : List Nat → List Place → List (List Place)
  | _, [] => []
  | seen, h :: rest =>
    let group := distinctFrom seen (round h)
    group :: spread round (group.map (·.pos) ++ seen) rest

/-- Joins what was found for the members of each group. -/
def joinGroups : List (List Place) → List (List Place) → List (List Place)
  | [], _ => []
  | g :: gs, found => (found.take g.length).flatten :: joinGroups gs (found.drop g.length)

/-- The places after at most `n` rounds from each of the given ones, which itself comes last if
more rounds are preferred, and first if fewer are. -/
def upTo (round : Place → List Place) (greedy : Bool) : Nat → List Place → List (List Place)
  | 0, hs => hs.map ([·])
  | n + 1, hs =>
    let groups := spread round [] hs
    let further := joinGroups groups (upTo round greedy n groups.flatten)
    List.zipWith (fun h ds => if greedy then ds ++ [h] else h :: ds) hs further

/-- One or more rounds, as a search that enters no position twice; a round that reads nothing is
the last one. Every deeper round begins further on, which bounds their number by `fuel`. -/
def rounds (round : Place → List Place) (greedy : Bool) :
    Nat → Place → List Nat → List Place × List Nat
  | 0, _, seen => ([], seen)
  | fuel + 1, h, seen =>
    (round h).foldl (fun (out, seen) d =>
      if seen.contains d.pos then (out, seen)
      else if d.pos = h.pos then (out ++ [d], d.pos :: seen)
      else
        let (deeper, seen') := rounds round greedy fuel d (d.pos :: seen)
        if greedy then (out ++ deeper ++ [d], seen') else (out ++ d :: deeper, seen'))
      ([], seen)

/-- One or more rounds of a loop. -/
def plus (round : Place → List Place) (greedy : Bool) (h : Place) : List Place :=
  distinct (rounds round greedy (h.ahead.length + 1) h []).1

/-- A loop with the given bounds. -/
def loops (round : Place → List Place) (least : Nat) (most : Option Nat) (greedy : Bool)
    (h : Place) : List Place :=
  match most with
  | some m => distinct (upTo round greedy (m - least) (copies round least [h])).flatten
  | none =>
    match least with
    | 0 => distinct (if greedy then plus round greedy h ++ [h] else h :: plus round greedy h)
    | n + 1 => distinct ((copies round n [h]).flatMap (plus round greedy))

end Place

namespace Pattern

/-- The ends of the matches that start at a place, in order of preference. -/
def ends : Pattern → Place → List Place
  | .empty, h => [h]
  | .one set, h => h.step set
  | .run set least most greedy, h => h.runs set least most greedy
  | .look test, h => if test.holds h.behind h.ahead.head? then [h] else []
  | .seq p q, h => Place.distinct ((p.ends h).flatMap q.ends)
  | .alt p q, h => Place.distinct (p.ends h ++ q.ends h)
  | .loop p least most greedy, h => h.loops p.ends least most greedy
  | .lead p, h => (p.ends h).map fun d => { d with lead := some (h.pos, d.pos) }

/-- The match that starts between the given neighbours, as its end. -/
def first? (p : Pattern) (behind : Option Char) (ahead : List Char) : Option Place :=
  (p.ends (Place.start behind ahead)).head?

/-- Whether some match starts at a character of `ahead` or at its end. -/
def occursAfter (p : Pattern) : Option Char → List Char → Bool
  | behind, [] => (p.first? behind []).isSome
  | behind, c :: rest => (p.first? behind (c :: rest)).isSome || occursAfter p (some c) rest

/-- Whether some match lies in the text. -/
def occursIn (p : Pattern) (text : List Char) : Bool := p.occursAfter none text

end Pattern
end CallScribe
