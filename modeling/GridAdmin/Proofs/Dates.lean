import GridAdmin.Calendar

/-!
# Every day has a date

A day is counted from 1970-01-01, and its date is found by division alone: first the
era of four hundred years, then the year of the era, then the month.  None of these
divisions is exact.  A year has 365 days or 366, and the quotient that finds the year
of a day corrects for the leap days in front of it; here it is shown that the
correction is right for every day of an era, and that the last day of a long year is
the 29th of February of a leap year.

An era is taken apart into centuries of 36524 days, of which the last has one day
more.  Inside a century the years come in groups of four, and the groups of a century
are counted on from those of the centuries before it.

## Main results

* `dayOfYear_nonneg`, `dayOfYear_le`: the day that is left lies inside its year.
* `isLeapYear_of_dayOfYear`: a year that begins in March has a 366th day only if the
  calendar year that follows is a leap year.
* `isValid_ofDays`: the date of a day exists.
* `toDays_ofDays`: the date of a day is counted back to that day.
-/

namespace GridAdmin.Date

/-! ## The year of an era -/

/-- The century of a day of an era. -/
def centuryOfEra (dayOfEra : Int) : Int :=
  dayOfEra / 36524 - dayOfEra / 146096

/-- The year of a day of an era.  Years begin in March. -/
def yearOfEra (dayOfEra : Int) : Int :=
  (dayOfEra - dayOfEra / 1460 + dayOfEra / 36524 - dayOfEra / 146096) / 365

/-- What is left of a day of an era when the years before it are taken off. -/
def dayOfYear (dayOfEra : Int) : Int :=
  dayOfEra - (365 * yearOfEra dayOfEra + yearOfEra dayOfEra / 4 - yearOfEra dayOfEra / 100)

section Era

variable {dayOfEra : Int} (hLower : 0 ≤ dayOfEra) (hUpper : dayOfEra < daysInEra)

include hLower hUpper

theorem centuryOfEra_cases :
    centuryOfEra dayOfEra = 0 ∨ centuryOfEra dayOfEra = 1 ∨ centuryOfEra dayOfEra = 2 ∨
      centuryOfEra dayOfEra = 3 := by
  unfold centuryOfEra
  unfold daysInEra at hUpper
  omega

/-- Only the last century has a day more than the others. -/
theorem centuryOfEra_bounds :
    36524 * centuryOfEra dayOfEra ≤ dayOfEra ∧
      dayOfEra ≤ 36524 * centuryOfEra dayOfEra + 36523 + centuryOfEra dayOfEra / 3 := by
  unfold centuryOfEra
  unfold daysInEra at hUpper
  omega

omit hLower hUpper in
/-- The year is four times a group of 1460 days, up to what is left of the group and
what the correction has moved. -/
theorem exists_group (dayOfEra : Int) :
    ∃ group left moved, dayOfEra = 1460 * group + left ∧ 0 ≤ left ∧ left < 1460 ∧
      yearOfEra dayOfEra = 4 * group + moved ∧
      365 * moved ≤ left + centuryOfEra dayOfEra - group ∧
      left + centuryOfEra dayOfEra - group < 365 * moved + 365 := by
  refine ⟨dayOfEra / 1460, dayOfEra % 1460, yearOfEra dayOfEra - 4 * (dayOfEra / 1460), ?_⟩
  unfold yearOfEra centuryOfEra
  omega

/-- The year lies in the century of its day. -/
theorem yearOfEra_div : yearOfEra dayOfEra / 100 = centuryOfEra dayOfEra := by
  have hCases := centuryOfEra_cases hLower hUpper
  obtain ⟨hFrom, hTo⟩ := centuryOfEra_bounds hLower hUpper
  obtain ⟨group, left, moved, hDay, hLeft, hLeftLt, hYear, hMoved, hMovedLt⟩ :=
    exists_group dayOfEra
  rw [hYear]
  generalize centuryOfEra dayOfEra = century at *
  rcases hCases with rfl | rfl | rfl | rfl <;> omega

theorem yearOfEra_bounds : 0 ≤ yearOfEra dayOfEra ∧ yearOfEra dayOfEra < 400 := by
  have hCentury := yearOfEra_div hLower hUpper
  have hCases := centuryOfEra_cases hLower hUpper
  omega

/-- `moved` is the year inside its group of four: -1 where the leap days in front of it
put the day back into the group before, and 4 where the century has lost a leap day and
the group ends before its 1460 days do. -/
theorem dayOfYear_cases :
    ∃ group left moved, dayOfEra = 1460 * group + left ∧
      yearOfEra dayOfEra = 4 * group + moved ∧
      dayOfYear dayOfEra = left + centuryOfEra dayOfEra - group - 365 * moved - moved / 4 ∧
      365 * moved ≤ left + centuryOfEra dayOfEra - group ∧
      left + centuryOfEra dayOfEra - group < 365 * moved + 365 ∧
      (moved = -1 ∨ 0 ≤ moved ∧ moved ≤ 3 ∨
        moved = 4 ∧ 1461 ≤ left + centuryOfEra dayOfEra - group) := by
  have hCases := centuryOfEra_cases hLower hUpper
  obtain ⟨hFrom, hTo⟩ := centuryOfEra_bounds hLower hUpper
  have hCentury := yearOfEra_div hLower hUpper
  obtain ⟨group, left, moved, hDay, hLeft, hLeftLt, hYear, hMoved, hMovedLt⟩ :=
    exists_group dayOfEra
  refine ⟨group, left, moved, hDay, hYear, ?_, hMoved, hMovedLt, ?_⟩
  · unfold dayOfYear
    rw [hCentury]
    omega
  · generalize centuryOfEra dayOfEra = century at *
    rcases hCases with rfl | rfl | rfl | rfl <;> omega

theorem dayOfYear_nonneg : 0 ≤ dayOfYear dayOfEra := by
  obtain ⟨group, left, moved, -, -, hDay, hMoved, -, hCases⟩ := dayOfYear_cases hLower hUpper
  rcases hCases with hBack | hInside | hWhole <;> omega

theorem dayOfYear_le : dayOfYear dayOfEra ≤ 365 := by
  obtain ⟨group, left, moved, -, -, hDay, -, hMoved, hCases⟩ := dayOfYear_cases hLower hUpper
  rcases hCases with hBack | hInside | hWhole <;> omega

/-- The 366th day of a year that began in March is a 29th of February, so the calendar
year that holds it is a leap year. -/
theorem isLeapYear_of_dayOfYear (hLast : dayOfYear dayOfEra = 365) (era : Int) :
    isLeapYear (yearOfEra dayOfEra + era * 400 + 1) = true := by
  have hCases := centuryOfEra_cases hLower hUpper
  obtain ⟨hFrom, hTo⟩ := centuryOfEra_bounds hLower hUpper
  have hCentury := yearOfEra_div hLower hUpper
  obtain ⟨group, left, moved, hGroup, hYear, hDay, -, hMoved, hMove⟩ :=
    dayOfYear_cases hLower hUpper
  have hBack : moved = -1 := by
    rcases hMove with hBack | hInside | hWhole <;> omega
  subst hBack
  -- The year in front of a whole group, and the day in front of that group's first.
  have hLeft : left + centuryOfEra dayOfEra - group = -1 := by omega
  generalize centuryOfEra dayOfEra = century at *
  simp only [isLeapYear, decide_eq_true_eq]
  rcases hCases with rfl | rfl | rfl | rfl <;> omega

end Era

/-! ## The month of a year -/

/-- The month of a day of a year, counted from March. -/
def marchMonth (day : Int) : Int :=
  (5 * day + 2) / 153

/-- The month of a day of a year, counted from January of the calendar. -/
def calendarMonth (day : Int) : Int :=
  if marchMonth day < 10 then marchMonth day + 3 else marchMonth day - 9

/-- What is left of a day of a year when the months before it are taken off. -/
def dayOfMonth (day : Int) : Int :=
  day - (153 * marchMonth day + 2) / 5 + 1

theorem one_le_dayOfMonth (day : Int) : 1 ≤ dayOfMonth day := by
  unfold dayOfMonth marchMonth
  omega

section Month

variable {day : Int} (hLower : 0 ≤ day) (hUpper : day ≤ 365)

include hLower hUpper

theorem marchMonth_bounds : 0 ≤ marchMonth day ∧ marchMonth day ≤ 11 := by
  unfold marchMonth
  omega

theorem calendarMonth_bounds : 1 ≤ calendarMonth day ∧ calendarMonth day ≤ 12 := by
  have hMonth := marchMonth_bounds hLower hUpper
  unfold calendarMonth
  split <;> omega

omit hLower hUpper in
/-- From March to January, five months have 153 days. -/
private theorem daysInMonth_eq {month : Int} (hMarch : 0 ≤ month) (hJanuary : month ≤ 10)
    (year : Int) :
    (daysInMonth year (if month < 10 then month + 3 else month - 9).toNat : Int)
      = (153 * (month + 1) + 2) / 5 - (153 * month + 2) / 5 := by
  obtain rfl | rfl | rfl | rfl | rfl | rfl | rfl | rfl | rfl | rfl | rfl :
    month = 0 ∨ month = 1 ∨ month = 2 ∨ month = 3 ∨ month = 4 ∨ month = 5 ∨ month = 6 ∨
      month = 7 ∨ month = 8 ∨ month = 9 ∨ month = 10 := by omega
  all_goals rfl

omit hLower hUpper in
private theorem daysInMonth_february (year : Int) :
    daysInMonth year 2 = if isLeapYear year then 29 else 28 := rfl

/-- A day lies inside its month.  The 29th of February is the last day of its year. -/
private theorem dayOfMonth_le {year : Int} (hLast : day = 365 → isLeapYear year = true) :
    dayOfMonth day ≤ daysInMonth year (calendarMonth day).toNat := by
  obtain ⟨hMarch, hFebruary⟩ := marchMonth_bounds hLower hUpper
  have hTo : 5 * day + 2 < 153 * marchMonth day + 153 := by
    unfold marchMonth
    omega
  unfold dayOfMonth calendarMonth
  generalize marchMonth day = month at *
  by_cases hMonth : month = 11
  · subst hMonth
    show day - 337 + 1 ≤ (daysInMonth year 2 : Int)
    rw [daysInMonth_february]
    by_cases hDay : day = 365
    · rw [if_pos (hLast hDay)]
      omega
    · split <;> omega
  · rw [daysInMonth_eq hMarch (by omega)]
    omega

end Month

/-! ## Dates of days -/

/-- The day of its era that a day is. -/
def dayOfEra (days : Int) : Int :=
  (days + marchOffset) % daysInEra

/-- The year of a day in which the months are counted from March. -/
def marchYear (days : Int) : Int :=
  yearOfEra (dayOfEra days) + (days + marchOffset) / daysInEra * 400

theorem ofDays_eq (days : Int) :
    ofDays days =
      ⟨marchYear days + if calendarMonth (dayOfYear (dayOfEra days)) ≤ 2 then 1 else 0,
        (calendarMonth (dayOfYear (dayOfEra days))).toNat,
        (dayOfMonth (dayOfYear (dayOfEra days))).toNat⟩ := rfl

section Days

variable (days : Int)

theorem dayOfEra_bounds : 0 ≤ dayOfEra days ∧ dayOfEra days < daysInEra := by
  unfold dayOfEra daysInEra
  omega

theorem dayOfYear_bounds :
    0 ≤ dayOfYear (dayOfEra days) ∧ dayOfYear (dayOfEra days) ≤ 365 := by
  obtain ⟨hLower, hUpper⟩ := dayOfEra_bounds days
  exact ⟨dayOfYear_nonneg hLower hUpper, dayOfYear_le hLower hUpper⟩

/-- The date of a day exists. -/
theorem isValid_ofDays : (ofDays days).isValid = true := by
  obtain ⟨hEraLower, hEraUpper⟩ := dayOfEra_bounds days
  obtain ⟨hLower, hUpper⟩ := dayOfYear_bounds days
  obtain ⟨hMonthLower, hMonthUpper⟩ := calendarMonth_bounds hLower hUpper
  have hDay := one_le_dayOfMonth (dayOfYear (dayOfEra days))
  have hLeap := fun hLast => isLeapYear_of_dayOfYear hEraLower hEraUpper hLast
    ((days + marchOffset) / daysInEra)
  rw [isValid_iff, ofDays_eq]
  dsimp only
  generalize hYear : marchYear days + _ = year
  have hIn : dayOfMonth (dayOfYear (dayOfEra days))
      ≤ daysInMonth year (calendarMonth (dayOfYear (dayOfEra days))).toNat := by
    refine dayOfMonth_le hLower hUpper fun hLast => ?_
    rw [← hYear, hLast]
    exact hLeap hLast
  omega

private theorem marchYear_div : marchYear days / 400 = (days + marchOffset) / daysInEra := by
  obtain ⟨hLower, hUpper⟩ := dayOfEra_bounds days
  obtain ⟨hYearLower, hYearUpper⟩ := yearOfEra_bounds hLower hUpper
  unfold marchYear
  omega

private theorem marchYear_mod : marchYear days % 400 = yearOfEra (dayOfEra days) := by
  obtain ⟨hLower, hUpper⟩ := dayOfEra_bounds days
  obtain ⟨hYearLower, hYearUpper⟩ := yearOfEra_bounds hLower hUpper
  unfold marchYear
  omega

/-- January and February belong to the year that began in March before them. -/
private theorem marchYear_ofDays :
    (if (ofDays days).month ≤ 2 then (ofDays days).year - 1 else (ofDays days).year)
      = marchYear days := by
  obtain ⟨hLower, hUpper⟩ := dayOfYear_bounds days
  have hMonth := calendarMonth_bounds hLower hUpper
  rw [ofDays_eq]
  dsimp only
  split <;> split <;> omega

private theorem marchMonth_ofDays :
    (((ofDays days).month + 9) % 12 : Nat) = marchMonth (dayOfYear (dayOfEra days)) := by
  obtain ⟨hLower, hUpper⟩ := dayOfYear_bounds days
  have hMonth := marchMonth_bounds hLower hUpper
  rw [ofDays_eq]
  unfold calendarMonth
  dsimp only
  split <;> omega

private theorem day_ofDays :
    ((ofDays days).day : Int) = dayOfMonth (dayOfYear (dayOfEra days)) := by
  have hDay := one_le_dayOfMonth (dayOfYear (dayOfEra days))
  rw [ofDays_eq]
  dsimp only
  omega

/-- The date of a day is counted back to that day. -/
theorem toDays_ofDays : (ofDays days).toDays = days := by
  unfold toDays
  dsimp only
  rw [marchYear_ofDays, marchMonth_ofDays, day_ofDays, marchYear_div, marchYear_mod]
  have hDayOfMonth : dayOfMonth (dayOfYear (dayOfEra days)) = dayOfYear (dayOfEra days)
      - (153 * marchMonth (dayOfYear (dayOfEra days)) + 2) / 5 + 1 := rfl
  have hDayOfYear : dayOfYear (dayOfEra days) = dayOfEra days
      - (365 * yearOfEra (dayOfEra days) + yearOfEra (dayOfEra days) / 4
        - yearOfEra (dayOfEra days) / 100) := rfl
  have hDayOfEra : dayOfEra days + daysInEra * ((days + marchOffset) / daysInEra)
      = days + marchOffset := Int.emod_add_mul_ediv _ _
  rw [hDayOfMonth, hDayOfYear, Int.mul_comm]
  omega

end Days

end GridAdmin.Date
