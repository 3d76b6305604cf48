import RingOperator.Text.Blank
import RingOperator.Text.Numeral
import RingOperator.Time.Calendar
import RingOperator.Time.Instant

/-!
# Written instants

The form of RFC 3339: `2024-02-29T23:59:59.120Z`. An instant is written in
UTC, with none, three, six or nine digits of its second's fraction, the fewest
that lose nothing. Reading takes any offset, blanks between the parts, either
case of the letters, a blank for the `T`, fewer leading zeros and any number of
fraction digits, of which nine count.
-/

namespace RingOperator.Instant

open RingOperator.Text

/-- The fraction of a second with its point, in the fewest digits of three, six and nine. -/
def fraction (nano : Nat) : String :=
  if nano = 0 then ""
  else if nano % 1000000 = 0 then "." ++ Numeral.padded 3 (nano / 1000000)
  else if nano % 1000 = 0 then "." ++ Numeral.padded 6 (nano / 1000)
  else "." ++ Numeral.padded 9 nano

/-- A year in four digits, or with a sign if it has no four digits. -/
def yearText (year : Int) : String :=
  if 0 ≤ year ∧ year ≤ 9999 then Numeral.padded 4 year.toNat
  else if year < 0 then "-" ++ Numeral.padded 4 year.natAbs
  else "+" ++ Numeral.padded 4 year.toNat

/-- Two digits of a number below one hundred. -/
def pair (n : Int) : String := Numeral.padded 2 n.toNat

/-- Date and time of an instant in UTC, without the mark of the zone. -/
def civil (t : Instant) : String :=
  let date := Calendar.date (t.second / secondsPerDay)
  let time := t.timeOfDay
  let leap : Int := if t.isLeap then 1 else 0
  yearText date.year ++ "-" ++ pair date.month ++ "-" ++ pair date.day ++ "T" ++
    pair (time / 3600) ++ ":" ++ pair (time / 60 % 60) ++ ":" ++ pair (time % 60 + leap) ++
    fraction (t.nano % nanosPerSecond)

/-- An instant in UTC, marked by the letter `Z`. -/
def write (t : Instant) : String := t.civil ++ "Z"

/-- An instant in UTC, marked by the offset of UTC from itself. -/
def writeWithOffset (t : Instant) : String := t.civil ++ "+00:00"

namespace Reader

/-- A number of one to `width` digits behind blanks, and the rest. -/
def number (width : Nat) (input : List Char) : Option (Nat × List Char) :=
  let input := trimStart input
  let ds := (input.take width).takeWhile Char.isDigit
  if ds.isEmpty then none else some (Numeral.value ds, input.drop ds.length)

/-- A year behind blanks: up to four digits, or any number of them behind a sign. -/
def year (input : List Char) : Option (Int × List Char) :=
  match trimStart input with
  | '-' :: rest => (unlimited rest).map fun (n, rest) => (-(n : Int), rest)
  | '+' :: rest => (unlimited rest).map fun (n, rest) => ((n : Int), rest)
  | rest => (number 4 rest).map fun (n, rest) => ((n : Int), rest)
where
  /-- A number of any width directly at the front. -/
  unlimited (input : List Char) : Option (Nat × List Char) :=
    let (ds, rest) := input.span Char.isDigit
    if ds.isEmpty then none else some (Numeral.value ds, rest)

/-- A character at the front, blanks before it left out. -/
def mark (c : Char) (input : List Char) : Option (List Char) :=
  match trimStart input with
  | d :: rest => if c = d then some rest else none
  | [] => none

/-- The letter or blank between date and time. -/
def divide : List Char → Option (List Char)
  | 'T' :: rest => some rest
  | 't' :: rest => some rest
  | ' ' :: rest => some rest
  | _ => none

/-- The nanoseconds of a fraction, if there is one: nine digits count, further ones are left
out. -/
def nanos : List Char → Option (Nat × List Char)
  | '.' :: rest =>
    let ds := (rest.take 9).takeWhile Char.isDigit
    if ds.isEmpty then none
    else some (Numeral.value ds * Nat.pow 10 (9 - ds.length), rest.dropWhile Char.isDigit)
  | rest => some (0, rest)

/-- Hours and minutes of an offset behind its sign, in seconds. -/
def offsetDigits : List Char → Option (Int × List Char)
  | a :: b :: rest =>
    if a.isDigit && b.isDigit then
      match rest.dropWhile fun c => c = ':' || isBlank c with
      | c :: d :: rest =>
        if c.isDigit && d.isDigit && Numeral.digitValue c < 6 then
          some (Numeral.value [a, b] * 3600 + Numeral.value [c, d] * 60, rest)
        else none
      | _ => none
    else none
  | _ => none

/-- The offset from UTC, in seconds: a letter for UTC, or a sign, hours and minutes. -/
def offset (input : List Char) : Option (Int × List Char) :=
  match trimStart input with
  | 'Z' :: rest => some (0, rest)
  | 'z' :: rest => some (0, rest)
  | '+' :: rest => offsetDigits rest
  | '-' :: rest => (offsetDigits rest).map fun (n, rest) => (-n, rest)
  | '−' :: rest => (offsetDigits rest).map fun (n, rest) => (-n, rest)
  | u :: t :: c :: rest =>
    if u.toUpper = 'U' && t.toUpper = 'T' && c.toUpper = 'C' then some (0, rest) else none
  | _ => none

/-- Whether a year can be written and read. -/
def isCovered (year : Int) : Bool := -262143 ≤ year && year ≤ 262142

end Reader

open Reader in
/-- The instant that a text writes, if it writes one: a date of the calendar in a year that is
covered, a time of day, where second sixty is a leap second, and an offset of less than a day,
which leads to no other year than those that are covered. -/
def read (text : String) : Option Instant := do
  let (year, rest) ← year text.toList
  let (month, rest) ← number 2 (← mark '-' rest)
  let (day, rest) ← number 2 (← mark '-' rest)
  let (hour, rest) ← number 2 (← divide rest)
  let (minute, rest) ← number 2 (← mark ':' rest)
  let (second, rest) ← number 2 (← mark ':' rest)
  let (nano, rest) ← nanos rest
  let (offset, rest) ← offset rest
  let n ← Calendar.day? ⟨year, month, day⟩
  let leap := second = 60
  let t : Instant := {
    second := n * secondsPerDay + hour * 3600 + minute * 60 +
      (if leap then 59 else second) - offset
    nano := nano + if leap then nanosPerSecond else 0 }
  if (trimStart rest).isEmpty ∧ isCovered year ∧ hour < 24 ∧ minute < 60 ∧ second ≤ 60 ∧
      -86400 < offset ∧ offset < 86400 ∧
      isCovered (Calendar.date (t.second / secondsPerDay)).year then
    return t
  else none

end RingOperator.Instant
