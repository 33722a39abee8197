/-!
# CallScribe.Text.CharSet

Sets of characters, kept as ascending ranges of code points that neither meet nor touch.

* `CharSet.contains`: membership.
* `CharSet.ofRanges`, `CharSet.ofChars`: sets from ranges in any order, or from characters.
* `CharSet.union`, `CharSet.complement`, `CharSet.inter`, `CharSet.diff`, `CharSet.symmDiff`.
-/

namespace CallScribe

/-- A set of characters, as ascending ranges of code points. -/
structure CharSet where
  ranges : List (Nat × Nat)
deriving DecidableEq, Repr

namespace CharSet

/-- The greatest code point. -/
def lastPoint : Nat := 0x10FFFF

/-- Membership in ascending ranges: the search ends at the first range beyond the point. -/
def inRanges : List (Nat × Nat) → Nat → Bool
  | [], _ => false
  | (lo, hi) :: rest, n => if n < lo then false else n ≤ hi || inRanges rest n

def contains (s : CharSet) (c : Char) : Bool := inRanges s.ranges c.toNat

/-- Adds one range, joining it with the ranges that it meets or touches. -/
def insertRange (lo hi : Nat) : List (Nat × Nat) → List (Nat × Nat)
  | [] => [(lo, hi)]
  | (a, b) :: rest =>
    if hi + 1 < a then (lo, hi) :: (a, b) :: rest
    else if b + 1 < lo then (a, b) :: insertRange lo hi rest
    else insertRange (min lo a) (max hi b) rest

/-- Ascending order of ranges by their first point. -/
def startsBefore (r s : Nat × Nat) : Bool := r.1 ≤ s.1

/-- Joins ranges that come in ascending order of their first points. -/
def joinSorted : List (Nat × Nat) → List (Nat × Nat)
  | [] => []
  | r :: rest => insertRange r.1 r.2 (joinSorted rest)

def ofRanges (rs : List (Nat × Nat)) : CharSet := ⟨joinSorted (rs.mergeSort startsBefore)⟩

def none : CharSet := ⟨[]⟩

def all : CharSet := ⟨[(0, lastPoint)]⟩

def single (c : Char) : CharSet := ⟨[(c.toNat, c.toNat)]⟩

def ofChars (cs : List Char) : CharSet := ofRanges (cs.map fun c => (c.toNat, c.toNat))

def union (s t : CharSet) : CharSet := ofRanges (s.ranges ++ t.ranges)

/-- What lies between ascending ranges, from `start` on. -/
def gaps (start : Nat) : List (Nat × Nat) → List (Nat × Nat)
  | [] => if start ≤ lastPoint then [(start, lastPoint)] else []
  | (a, b) :: rest =>
    if start < a then (start, a - 1) :: gaps (b + 1) rest else gaps (b + 1) rest

def complement (s : CharSet) : CharSet := ⟨gaps 0 s.ranges⟩

def inter (s t : CharSet) : CharSet := (s.complement.union t.complement).complement

def diff (s t : CharSet) : CharSet := s.inter t.complement

def symmDiff (s t : CharSet) : CharSet := (s.diff t).union (t.diff s)

/-- Whether some member lies beyond ASCII. -/
def beyondAscii (s : CharSet) : Bool := s.ranges.any fun r => 127 < r.2

end CharSet
end CallScribe
