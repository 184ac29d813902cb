import GridAdmin.Calendar
import GridAdmin.Text.Blank
import GridAdmin.Text.Decimal

/-!
# Times

The catalog stores times as seconds since 1970-01-01 in UTC. They are shown
as `YYYY-MM-DD.hh:mm:ss`, and the same form is read; the local zone is UTC.

A year from 0 to 9999 has four digits and no sign; any other year has a sign
and at least four digits. A time in a year that is not shown is written as its
number of seconds. In a typed time, blanks may stand before each number, and
the second 60 counts as the second 59.

## Main definitions

* `LocalTime.text`: how a time is shown.
* `LocalTime.read?`: the time that a text shows.
* `LocalTime.catalogText`: how the catalog writes a time.
-/

namespace GridAdmin.LocalTime

/-- Seconds in a day. -/
def secondsPerDay : Int := 86400

/-! ## Writing -/

/-- Two digits. -/
def twoDigits (n : Nat) : List Char :=
  Text.zeroPad 2 (Text.natText n)

/-- A year with four digits, or with a sign and at least four digits. -/
def yearText (year : Int) : List Char :=
  if 0 ≤ year ∧ year ≤ 9999 then Text.zeroPad 4 (Text.natText year.toNat)
  else (if year < 0 then '-' else '+') :: Text.zeroPad 4 (Text.natText year.natAbs)

/-- A day and a second of that day, as they are shown. -/
def dateTimeText (date : Date) (second : Nat) : List Char :=
  yearText date.year ++ '-' :: twoDigits date.month ++ '-' :: twoDigits date.day
    ++ '.' :: twoDigits (second / 3600) ++ ':' :: twoDigits (second / 60 % 60)
    ++ ':' :: twoDigits (second % 60)

/-- How a time is shown. -/
def text (seconds : Int) : List Char :=
  let date := Date.ofDays (seconds / secondsPerDay)
  if date.isShown then dateTimeText date (seconds % secondsPerDay).toNat
  else Text.intText seconds

/-- How the catalog writes a time: at least eleven characters, with zeros in
front. -/
def catalogText (seconds : Int) : List Char :=
  Text.intTextPadded 11 seconds

/-! ## Reading -/

/-- A number of at most `max` digits at the start of a text, and the rest of
the text. -/
def leadingNumber (max : Nat) (cs : List Char) : Option (Nat × List Char) :=
  let digits := (cs.takeWhile Char.isDigit).take max
  (Text.readNat? digits).map fun n => (n, cs.drop digits.length)

/-- Blanks, and a number of one or two digits behind them. -/
def field (cs : List Char) : Option (Nat × List Char) :=
  leadingNumber 2 (cs.dropWhile Text.isBlank)

/-- Blanks, and a year behind them: up to four digits, or a sign and any number
of digits. -/
def yearField (cs : List Char) : Option (Int × List Char) :=
  match cs.dropWhile Text.isBlank with
  | '-' :: rest => (leadingNumber rest.length rest).map fun (n, after) => (-(n : Int), after)
  | '+' :: rest => (leadingNumber rest.length rest).map fun (n, after) => ((n : Int), after)
  | rest => (leadingNumber 4 rest).map fun (n, after) => ((n : Int), after)

/-- The rest of a text behind the character `c`. -/
def skip (c : Char) : List Char → Option (List Char)
  | [] => none
  | d :: rest => if d = c then some rest else none

/-- The date and the time of day that a text shows, which must be all of it. -/
def readFields? (cs : List Char) : Option (Date × Nat × Nat × Nat) := do
  let (year, cs) ← yearField cs
  let cs ← skip '-' cs
  let (month, cs) ← field cs
  let cs ← skip '-' cs
  let (day, cs) ← field cs
  let cs ← skip '.' cs
  let (hour, cs) ← field cs
  let cs ← skip ':' cs
  let (minute, cs) ← field cs
  let cs ← skip ':' cs
  let (second, cs) ← field cs
  if cs = [] then some (⟨year, month, day⟩, hour, minute, second) else none

/-- The time that a text shows; `none` unless it shows one. -/
def read? (cs : List Char) : Option Int := do
  let (date, hour, minute, second) ← readFields? cs
  if date.isValid && date.isShown && decide (hour ≤ 23 ∧ minute ≤ 59 ∧ second ≤ 60) then
    some (date.toDays * secondsPerDay
      + (hour * 3600 + minute * 60 + min second 59 : Nat))
  else none

end GridAdmin.LocalTime
