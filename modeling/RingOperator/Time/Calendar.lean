/-!
# The civil calendar

Days are numbered from the start of 1970. Between the number of a day and its
date stands a *count*: the era of 400 years, the year of the era and the day of
the year, years being counted from March on, so that the leap day is the last
day of its year.

* `day?_date`: every numbered day has a date, and its date leads back to it.
-/

namespace RingOperator.Calendar

/-- A day by its era of 400 years, its year in the era and its day in the year. -/
structure Count where
  era : Int
  year : Int
  day : Int

/-- A day by its year, month and day of the month. -/
structure Date where
  year : Int
  month : Int
  day : Int
  deriving DecidableEq

/-- The year of an era that a day of the era belongs to: four centuries, of which the last is a
day longer, each of spans of four years, each of years, of which the last is a day longer. -/
def yearOfEra (day : Int) : Int :=
  let century := min (day / 36524) 3
  let span := (day - century * 36524) / 1461
  let year := min ((day - century * 36524 - span * 1461) / 365) 3
  century * 100 + span * 4 + year

/-- The days of an era before a year of it. -/
def daysBefore (year : Int) : Int := year * 365 + year / 4 - year / 100

/-- The count of a numbered day. -/
def count (n : Int) : Count :=
  let day := (n + 719468) % 146097
  ⟨(n + 719468) / 146097, yearOfEra day, day - daysBefore (yearOfEra day)⟩

/-- The number of a counted day. -/
def Count.number (c : Count) : Int := c.era * 146097 + (daysBefore c.year + c.day) - 719468

/-- The month of a day of the year, March being month zero: any five months in a row from March
or August on have 153 days. -/
def monthOfDay (day : Int) : Int := (5 * day + 2) / 153

/-- The days of a year before a month of it. -/
def daysBeforeMonth (month : Int) : Int := (153 * month + 2) / 5

/-- The date of a counted day. -/
def Count.date (c : Count) : Date :=
  let month := monthOfDay c.day
  let day := c.day - daysBeforeMonth month + 1
  if month < 10 then ⟨c.year + c.era * 400, month + 3, day⟩
  else ⟨c.year + c.era * 400 + 1, month - 9, day⟩

/-- The count that the rules give to a year, month and day, whether or not there is such a
date. -/
def Date.count (d : Date) : Count :=
  if 2 < d.month then
    ⟨d.year / 400, d.year % 400, daysBeforeMonth (d.month - 3) + d.day - 1⟩
  else
    ⟨(d.year - 1) / 400, (d.year - 1) % 400, daysBeforeMonth (d.month + 9) + d.day - 1⟩

/-- The date of a numbered day. -/
def date (n : Int) : Date := (count n).date

/-- The number of a date. A year, month and day are a date exactly if they are the date of the
day that the counting rules give. -/
def day? (d : Date) : Option Int :=
  if date d.count.number = d then some d.count.number else none

theorem number_count (n : Int) : (count n).number = n := by
  simp only [Count.number, count]
  omega

theorem yearOfEra_bounds {d : Int} (h : 0 ≤ d ∧ d < 146097) :
    (0 ≤ yearOfEra d ∧ yearOfEra d < 400) ∧
      0 ≤ d - daysBefore (yearOfEra d) ∧ d - daysBefore (yearOfEra d) < 366 := by
  simp only [yearOfEra]
  generalize hc : min (d / 36524) 3 = c
  have c0 : 0 ≤ c ∧ c ≤ 3 := by omega
  generalize hs : (d - c * 36524) / 1461 = s
  have s0 : 0 ≤ s ∧ s ≤ 24 := by omega
  generalize hy : min ((d - c * 36524 - s * 1461) / 365) 3 = y
  have y0 : 0 ≤ y ∧ y ≤ 3 := by omega
  have four : (c * 100 + s * 4 + y) / 4 = c * 25 + s := by omega
  have hundred : (c * 100 + s * 4 + y) / 100 = c := by omega
  simp only [daysBefore, four, hundred]
  omega

theorem count_bounds (n : Int) :
    (0 ≤ (count n).year ∧ (count n).year < 400) ∧
      0 ≤ (count n).day ∧ (count n).day < 366 :=
  yearOfEra_bounds (by omega)

theorem count_date {c : Count} (year : 0 ≤ c.year ∧ c.year < 400)
    (day : 0 ≤ c.day ∧ c.day < 366) : c.date.count = c := by
  obtain ⟨era, y, d⟩ := c
  simp only at year day
  simp only [Count.date]
  have month : 0 ≤ monthOfDay d ∧ monthOfDay d < 12 := by unfold monthOfDay; omega
  split
  · have : 2 < monthOfDay d + 3 := by omega
    simp only [Date.count, this, if_true, Count.mk.injEq, Int.add_sub_cancel]
    omega
  · have : ¬ 2 < monthOfDay d - 9 := by omega
    simp only [Date.count, this, if_false, Count.mk.injEq, Int.sub_add_cancel]
    omega

/-- The date of a day is a date, that of this day. -/
theorem day?_date (n : Int) : day? (date n) = some n := by
  have bounds := count_bounds n
  simp [day?, date, count_date bounds.1 bounds.2, number_count]

end RingOperator.Calendar
