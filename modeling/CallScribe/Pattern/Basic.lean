import CallScribe.Text.CharSet
import CallScribe.Text.Word
import CallScribe.Text.Folding

/-!
# CallScribe.Pattern.Basic

Search patterns over characters, as trees.

* `Look`: tests of the place between two characters, none of which reads anything.
* `Pattern`: sets, runs of sets, tests, sequence, choice, loops, and the part called the lead.
* `Pattern.seqAll`, `Pattern.chain`, `Pattern.altAll`, `Pattern.word`, `Pattern.wordAnyCase`: the
  usual combinations.
* `PatternCompiler`: what makes patterns of texts.
-/

namespace CallScribe

/-- The edges of words. A half edge looks at one side only. -/
inductive WordEdge
  | either | neither | start | stop | startHalf | stopHalf
deriving DecidableEq, Repr

/-- A test of the place between two characters. -/
inductive Look
  | textStart | textStop
  | lineStart | lineStop
  | lineStartCrlf | lineStopCrlf
  | word (edge : WordEdge) (members : CharSet)
deriving DecidableEq, Repr

/-- Whether an optional neighbour belongs to a set; outside the text there is nothing. -/
def memberAt (s : CharSet) : Option Char → Bool
  | none => false
  | some c => s.contains c

def WordEdge.holds (e : WordEdge) (before after : Bool) : Bool :=
  match e with
  | .either => before != after
  | .neither => before == after
  | .start => !before && after
  | .stop => before && !after
  | .startHalf => !before
  | .stopHalf => !after

/-- Whether the test holds between the two given neighbours. -/
def Look.holds (l : Look) (behind ahead : Option Char) : Bool :=
  match l with
  | .textStart => behind.isNone
  | .textStop => ahead.isNone
  | .lineStart => behind.isNone || behind == some '\n'
  | .lineStop => ahead.isNone || ahead == some '\n'
  | .lineStartCrlf =>
    behind.isNone || behind == some '\n' || (behind == some '\r' && ahead != some '\n')
  | .lineStopCrlf =>
    ahead.isNone || ahead == some '\r' || (ahead == some '\n' && behind != some '\r')
  | .word e s => e.holds (memberAt s behind) (memberAt s ahead)

/-- A search pattern. A run is a loop over one set; a lead is the part of a match that a
replacement keeps. -/
inductive Pattern
  | empty
  | one (set : CharSet)
  | run (set : CharSet) (least : Nat) (most : Option Nat) (greedy : Bool)
  | look (test : Look)
  | seq (p q : Pattern)
  | alt (p q : Pattern)
  | loop (p : Pattern) (least : Nat) (most : Option Nat) (greedy : Bool)
  | lead (p : Pattern)
deriving DecidableEq, Repr

namespace Pattern

/-- Whether a lead occurs in the pattern. -/
def hasLead : Pattern → Bool
  | .empty | .one _ | .run .. | .look _ => false
  | .seq p q | .alt p q => p.hasLead || q.hasLead
  | .loop p _ _ _ => p.hasLead
  | .lead _ => true

/-- Patterns one after the other. -/
def seqAll : List Pattern → Pattern
  | [] => .empty
  | [p] => p
  | p :: ps => .seq p (seqAll ps)

/-- The same joined from the left, so that each pattern is tried once at each position that those
before it reach together. -/
def chain : List Pattern → Pattern
  | [] => .empty
  | p :: ps => ps.foldl .seq p

/-- A choice in which earlier members are preferred. -/
def altAll : List Pattern → Pattern
  | [] => .one CharSet.none
  | [p] => p
  | p :: ps => .alt p (altAll ps)

/-- The given characters, one after the other. -/
def word (s : String) : Pattern := seqAll (s.toList.map fun c => .one (CharSet.single c))

/-- The given characters, one after the other, ASCII letters in any case. -/
def wordAnyCase (s : String) : Pattern := seqAll (s.toList.map fun c => .one (CharSet.anyCase c))

/-- The place between a word character and another character or an end of the text. -/
def wordEdge : Pattern := .look (.word .either CharSet.word)

/-- As many members of a set as there are, at least `least`. -/
def many (set : CharSet) (least : Nat) : Pattern := .run set least none true

/-- One member of a set, or none if the next character is no member. -/
def maybe (set : CharSet) : Pattern := .run set 0 (some 1) true

end Pattern

/-- What makes a pattern of a text, or tells what is wrong with it, if it has words for that.
Whatever depends on the language of patterns takes its compiler from the context. -/
class PatternCompiler where
  compile : String → Except (Option String) Pattern

end CallScribe
