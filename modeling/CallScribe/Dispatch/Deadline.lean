import CallScribe.Decimal.Basic

/-!
# CallScribe.Dispatch.Deadline

Work under a deadline, in virtual time.

* `Deadline`: the time that work may take, in nanoseconds.
* `Deadline.allows`: whether work of a given length ends in time.
* `Deadline.text`, `Deadline.message`.
-/

namespace CallScribe

/-- A limit in nanoseconds. -/
structure Deadline where
  nanos : Nat
deriving DecidableEq, Repr

namespace Deadline

def ofMillis (ms : Nat) : Deadline := ⟨ms * 1000000⟩

/-- The limit in whole milliseconds, up to the next one. Timers go off at whole milliseconds. -/
def ticks (d : Deadline) : Nat := (d.nanos + 999999) / 1000000

/-- Whether work that takes the given number of milliseconds ends in time; work without a number
never ends. What is ready at once beats every limit, and ending exactly at the limit is in time. -/
def allows (d : Deadline) : Option Nat → Bool
  | none => false
  | some 0 => true
  | some ms => ms ≤ d.ticks

/-- A number of units with a fraction of so many digits, trailing zeros dropped. -/
def fractionText (whole fraction width : Nat) (unit : String) : String :=
  let ds := Decimal.digitChars fraction
  let padded := List.replicate (width - ds.length) '0' ++ ds
  let shown := (padded.reverse.dropWhile (· = '0')).reverse
  String.ofList (Decimal.digitChars whole ++ (if shown.isEmpty then [] else '.' :: shown)) ++ unit

/-- The limit in the greatest unit of which it has at least one. -/
def text (d : Deadline) : String :=
  if 1000000000 ≤ d.nanos then fractionText (d.nanos / 1000000000) (d.nanos % 1000000000) 9 "s"
  else if 1000000 ≤ d.nanos then fractionText (d.nanos / 1000000) (d.nanos % 1000000) 6 "ms"
  else if 1000 ≤ d.nanos then fractionText (d.nanos / 1000) (d.nanos % 1000) 3 "µs"
  else fractionText d.nanos 0 0 "ns"

/-- The message for work that did not end in time. -/
def message (d : Deadline) : String := "deadline of " ++ d.text ++ " exceeded"

end Deadline
end CallScribe
