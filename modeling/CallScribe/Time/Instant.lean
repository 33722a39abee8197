import CallScribe.Json.Basic
import CallScribe.Text.Blank

/-!
# CallScribe.Time.Instant

Instants in universal time.

* `Instant`: a day, a second of the day and nanoseconds; a leap second is a nanosecond count
  beyond one second.
* `Instant.text`: date and time with the fewest of 0, 3, 6 and 9 digits.
* `Instant.parse?`: reads such a text; blanks may stand before each part.
* `Instant.millisBetween`: whole milliseconds from one instant to another, toward zero.
-/

namespace CallScribe

/-- An instant: days since 1970-01-01, seconds of the day, nanoseconds. -/
structure Instant where
  day : Int
  second : Nat
  nano : Nat
deriving DecidableEq, Repr

namespace Instant

/-- Days from 1970-01-01 to a date of the Gregorian calendar. -/
def dayOfDate (year : Int) (month day : Nat) : Int :=
  let y := if month ≤ 2 then year - 1 else year
  let era := y.fdiv 400
  let yearOfEra := y - era * 400
  let shifted : Int := (month + 9) % 12
  let dayOfYear := (153 * shifted + 2) / 5 + day - 1
  era * 146097 + yearOfEra * 365 + yearOfEra / 4 - yearOfEra / 100 + dayOfYear - 719468

/-- The date that lies a number of days after 1970-01-01. -/
def dateOfDay (days : Int) : Int × Nat × Nat :=
  let z := days + 719468
  let era := z.fdiv 146097
  let d := (z - era * 146097).toNat
  let yearOfEra := (d - d / 1460 + d / 36524 - d / 146096) / 365
  let dayOfYear := d - (365 * yearOfEra + yearOfEra / 4 - yearOfEra / 100)
  let shifted := (5 * dayOfYear + 2) / 153
  let month := if shifted < 10 then shifted + 3 else shifted - 9
  let year : Int := yearOfEra + era * 400 + (if month ≤ 2 then 1 else 0)
  (year, month, dayOfYear - (153 * shifted + 2) / 5 + 1)

def isLeapYear (y : Int) : Bool := y % 4 = 0 && (y % 100 ≠ 0 || y % 400 = 0)

def daysInMonth (year : Int) (month : Nat) : Nat :=
  if month = 2 then (if isLeapYear year then 29 else 28)
  else if month = 4 || month = 6 || month = 9 || month = 11 then 30 else 31

/-- Digits with leading zeros up to a width. -/
def padded (width n : Nat) : List Char :=
  let ds := Decimal.digitChars n
  List.replicate (width - ds.length) '0' ++ ds

def yearChars (y : Int) : List Char :=
  if 0 ≤ y && y ≤ 9999 then padded 4 y.toNat
  else (if 0 ≤ y then '+' else '-') :: padded 4 y.natAbs

/-- A fraction of a second, in groups of three digits. -/
def fractionChars (nano : Nat) : List Char :=
  if nano = 0 then []
  else if nano % 1000000 = 0 then '.' :: padded 3 (nano / 1000000)
  else if nano % 1000 = 0 then '.' :: padded 6 (nano / 1000)
  else '.' :: padded 9 nano

def text (t : Instant) : String :=
  let (y, m, d) := dateOfDay t.day
  let leap := if t.nano < 1000000000 then 0 else 1
  String.ofList (yearChars y ++ '-' :: padded 2 m ++ '-' :: padded 2 d ++
    'T' :: padded 2 (t.second / 3600) ++ ':' :: padded 2 (t.second / 60 % 60) ++
    ':' :: padded 2 (t.second % 60 + leap) ++ fractionChars (t.nano - leap * 1000000000) ++ ['Z'])

def toJson (t : Instant) : Json := .string t.text

/-- The instant or null. -/
def toJson? : Option Instant → Json
  | some t => t.toJson
  | none => .null

/-- Whole milliseconds from `start` to `stop`, toward zero. A leap second that has passed between
two times of day counts. -/
def millisBetween (start stop : Instant) : Int :=
  let days := (stop.day - start.day) * 86400
  let seconds : Int := (stop.second : Int) - start.second
  let leap : Int :=
    if start.second < stop.second && 1000000000 ≤ start.nano then 1
    else if stop.second < start.second && 1000000000 ≤ stop.nano then -1
    else 0
  let nanos : Int := (days + seconds + leap) * 1000000000 + ((stop.nano : Int) - start.nano)
  nanos.tdiv 1000000

def skipBlanks (cs : List Char) : List Char := cs.dropWhile isBlank

/-- A number of one to `width` digits. -/
def readDigits (width : Nat) (cs : List Char) : Option (Nat × List Char) :=
  let ds := (cs.take width).takeWhile Char.isDigit
  if ds.isEmpty then none
  else some (ds.foldl (fun n c => n * 10 + (c.toNat - 48)) 0, cs.drop ds.length)

/-- A number after blanks. -/
def readPart (width : Nat) (cs : List Char) : Option (Nat × List Char) :=
  readDigits width (skipBlanks cs)

/-- A year of up to four digits, or of any number of digits after a sign. -/
def readYear (cs : List Char) : Option (Int × List Char) :=
  match skipBlanks cs with
  | '-' :: rest => (readDigits rest.length rest).map fun (n, r) => (-(n : Int), r)
  | '+' :: rest => (readDigits rest.length rest).map fun (n, r) => ((n : Int), r)
  | rest => (readDigits 4 rest).map fun (n, r) => ((n : Int), r)

/-- A separator after blanks. -/
def readMark (c : Char) (cs : List Char) : Option (List Char) :=
  match skipBlanks cs with
  | d :: rest => if d = c then some rest else none
  | [] => none

/-- A fraction of a second; digits beyond nanoseconds are dropped. -/
def readFraction : List Char → Option (Nat × List Char)
  | '.' :: rest => do
    let (n, after) ← readDigits 9 rest
    let width := rest.length - after.length
    some (n * pow10 (9 - width), after.dropWhile Char.isDigit)
  | rest => some (0, rest)

/-- Two digits. -/
def readTwo : List Char → Option (Nat × List Char)
  | a :: b :: rest =>
    if a.isDigit && b.isDigit then some ((a.toNat - 48) * 10 + (b.toNat - 48), rest) else none
  | _ => none

/-- The offset from universal time in seconds. -/
def readOffset : List Char → Option (Int × List Char)
  | [] => none
  | c :: rest =>
    if c = 'Z' || c = 'z' then
      some (0, rest)
    else if c = '+' || c = '-' || c = '−' then do
      let (h, rest) ← readTwo rest
      let (m, rest) ← readTwo (rest.dropWhile fun c => c = ':' || isBlank c)
      if m < 60 then
        let seconds : Int := h * 3600 + m * 60
        some (if c = '+' then seconds else -seconds, rest)
      else none
    else none

/-- The offset, or the letters UTC in any case. -/
def readZone (cs : List Char) : Option (Int × List Char) :=
  if (cs.take 3).map Char.toLower = ['u', 't', 'c'] then some (0, cs.drop 3) else readOffset cs

/-- The instant of a local date and time at an offset. -/
def ofLocal? (year : Int) (month day hour minute second nano : Nat) (offset : Int) :
    Option Instant :=
  if 1 ≤ month && month ≤ 12 && 1 ≤ day && day ≤ daysInMonth year month && hour < 24 &&
      minute < 60 && second ≤ 60 && -86400 < offset && offset < 86400 &&
      -262143 ≤ year && year ≤ 262142 then
    let (second, nano) := if second = 60 then (59, nano + 1000000000) else (second, nano)
    let total : Int := hour * 3600 + minute * 60 + second - offset
    let shift := total.fdiv 86400
    some ⟨dayOfDate year month day + shift, (total - shift * 86400).toNat, nano⟩
  else none

/-- Reads an instant. -/
def parse? (s : String) : Option Instant := do
  let (year, cs) ← readYear s.toList
  let (month, cs) ← readPart 2 (← readMark '-' cs)
  let (day, cs) ← readPart 2 (← readMark '-' cs)
  let cs ← match cs with
    | c :: rest => if c = 'T' || c = 't' || c = ' ' then some rest else none
    | [] => none
  let (hour, cs) ← readPart 2 cs
  let (minute, cs) ← readPart 2 (← readMark ':' cs)
  let (second, cs) ← readPart 2 (← readMark ':' cs)
  let (nano, cs) ← readFraction cs
  let (offset, cs) ← readZone (skipBlanks cs)
  if (skipBlanks cs).isEmpty then ofLocal? year month day hour minute second nano offset
  else none

end Instant
end CallScribe
