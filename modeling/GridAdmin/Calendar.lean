/-!
# The proleptic Gregorian calendar

Days are counted from 1970-01-01, and the Gregorian rules hold for all years,
the year 0 and the years before it included. The count works with years that
start in March, so that the leap day is the last day of its year, and with
eras of four hundred years, after which the calendar repeats.

## Main results

* `Date.isValid_iff`: which triples of numbers are dates.
-/

namespace GridAdmin

/-- A day of the calendar. -/
structure Date where
  year : Int
  month : Nat
  day : Nat
  deriving DecidableEq, Repr

namespace Date

/-! ## Valid dates -/

/-- Every fourth year is a leap year, except for three in four hundred years. -/
def isLeapYear (year : Int) : Bool :=
  decide (year % 4 = 0 ∧ (year % 100 ≠ 0 ∨ year % 400 = 0))

/-- Length of a month. -/
def daysInMonth (year : Int) (month : Nat) : Nat :=
  if month = 2 then (if isLeapYear year then 29 else 28)
  else if month = 4 ∨ month = 6 ∨ month = 9 ∨ month = 11 then 30
  else 31

/-- The month exists, and so does the day in it. -/
def isValid (d : Date) : Bool :=
  decide (1 ≤ d.month ∧ d.month ≤ 12 ∧ 1 ≤ d.day ∧ d.day ≤ daysInMonth d.year d.month)

theorem isValid_iff (d : Date) :
    d.isValid = true ↔
      1 ≤ d.month ∧ d.month ≤ 12 ∧ 1 ≤ d.day ∧ d.day ≤ daysInMonth d.year d.month := by
  simp [isValid]

/-! ## Counting days -/

/-- Days from the first of March of the year 0 to 1970-01-01. -/
def marchOffset : Int := 719468

/-- Days in four hundred years. -/
def daysInEra : Int := 146097

/-- Days from 1970-01-01 to a date. -/
def toDays (d : Date) : Int :=
  let marchYear := if d.month ≤ 2 then d.year - 1 else d.year
  let marchMonth : Int := ((d.month + 9) % 12 : Nat)
  let era := marchYear / 400
  let yearOfEra := marchYear % 400
  let dayOfYear := (153 * marchMonth + 2) / 5 + d.day - 1
  let dayOfEra := yearOfEra * 365 + yearOfEra / 4 - yearOfEra / 100 + dayOfYear
  era * daysInEra + dayOfEra - marchOffset

/-- The date that lies this many days after 1970-01-01. -/
def ofDays (days : Int) : Date :=
  let fromMarch := days + marchOffset
  let era := fromMarch / daysInEra
  let dayOfEra := fromMarch % daysInEra
  let yearOfEra :=
    (dayOfEra - dayOfEra / 1460 + dayOfEra / 36524 - dayOfEra / 146096) / 365
  let dayOfYear := dayOfEra - (365 * yearOfEra + yearOfEra / 4 - yearOfEra / 100)
  let marchMonth := (5 * dayOfYear + 2) / 153
  let day := dayOfYear - (153 * marchMonth + 2) / 5 + 1
  let month := if marchMonth < 10 then marchMonth + 3 else marchMonth - 9
  let year := yearOfEra + era * 400 + if month ≤ 2 then 1 else 0
  ⟨year, month.toNat, day.toNat⟩

/-- The first year that times are shown in. -/
def firstYear : Int := -262143

/-- The last year that times are shown in. -/
def lastYear : Int := 262142

/-- The year lies in the range that times are shown in. -/
def isShown (d : Date) : Bool :=
  decide (firstYear ≤ d.year ∧ d.year ≤ lastYear)

end Date

end GridAdmin
