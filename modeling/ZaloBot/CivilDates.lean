import Mathlib

/-!
# Days, weeks and months of the Gregorian calendar

Days and months are numbered by the integers; day zero is the first of January
1970 and month zero the January of the year zero.  A month is the interval of
the days from its first day to the first day of the next month.
-/

namespace ZaloBot

namespace CivilDates

/-- The days of the years from zero up to a year. -/
def daysBeforeYear (year : Int) : Int :=
  365 * year + (year + 3) / 4 - (year + 99) / 100 + (year + 399) / 400

/-- Whether the year has a 29th of February. -/
def leapDay (year : Int) : Int :=
  if year % 4 = 0 ∧ (year % 100 ≠ 0 ∨ year % 400 = 0) then 1 else 0

/-- The days of a year before one of its months, the first of which is
zero. -/
def daysBeforeMonth (leap month : Int) : Int :=
  if month ≤ 0 then 0
  else if month = 1 then 31
  else if month = 2 then 59 + leap
  else if month = 3 then 90 + leap
  else if month = 4 then 120 + leap
  else if month = 5 then 151 + leap
  else if month = 6 then 181 + leap
  else if month = 7 then 212 + leap
  else if month = 8 then 243 + leap
  else if month = 9 then 273 + leap
  else if month = 10 then 304 + leap
  else 334 + leap

/-- The first day of a month. -/
def firstOfMonth (month : Int) : Int :=
  daysBeforeYear (month / 12) +
    daysBeforeMonth (leapDay (month / 12)) (month % 12) - 719528

/-- The month of a day, one of the three around the quotient by the mean
length of a month. -/
def monthOf (day : Int) : Int :=
  let estimate := (day + 719528) * 4800 / 146097
  if day < firstOfMonth estimate then
    estimate - 1
  else if day < firstOfMonth (estimate + 1) then
    estimate
  else
    estimate + 1

/-- The day of the week; Monday is zero. -/
def weekday (day : Int) : Int :=
  (day + 3) % 7

/-- The Monday of the week of a day. -/
def mondayOf (day : Int) : Int :=
  day - weekday day

theorem daysBeforeYear_succ (year : Int) :
    daysBeforeYear (year + 1) =
      daysBeforeYear year + 365 + leapDay year := by
  unfold daysBeforeYear leapDay
  split <;> omega

theorem leapDay_bounds (year : Int) :
    0 ≤ leapDay year ∧ leapDay year ≤ 1 := by
  unfold leapDay
  split <;> decide

section Months

variable {leap month : Int} (noLess : 0 ≤ leap) (noMore : leap ≤ 1)
  (low : 0 ≤ month)
include noLess noMore low

theorem daysBeforeMonth_succ (high : month ≤ 10) :
    daysBeforeMonth leap month + 28 ≤ daysBeforeMonth leap (month + 1) ∧
      daysBeforeMonth leap (month + 1) ≤ daysBeforeMonth leap month + 31 := by
  interval_cases month <;> simp [daysBeforeMonth] <;> omega

/-- The days before a month and its number differ from the mean by less than
three days. -/
theorem daysBeforeMonth_bounds (high : month ≤ 11) :
    146097 * month - 3 * 4800 < daysBeforeMonth leap month * 4800 ∧
      daysBeforeMonth leap month * 4800 < 146097 * month + 2 * 4800 := by
  interval_cases month <;> simp [daysBeforeMonth] <;> omega

end Months

/-- A month has 28 to 31 days. -/
theorem firstOfMonth_succ (month : Int) :
    firstOfMonth month + 28 ≤ firstOfMonth (month + 1) ∧
      firstOfMonth (month + 1) ≤ firstOfMonth month + 31 := by
  obtain ⟨noLess, noMore⟩ := leapDay_bounds (month / 12)
  have year := daysBeforeYear_succ (month / 12)
  by_cases isLast : month % 12 = 11
  · have nextYear : (month + 1) / 12 = month / 12 + 1 := by omega
    have nextMonth : (month + 1) % 12 = 0 := by omega
    rw [firstOfMonth, firstOfMonth, nextYear, nextMonth, isLast, year]
    simp [daysBeforeMonth]
    omega
  · have sameYear : (month + 1) / 12 = month / 12 := by omega
    have nextMonth : (month + 1) % 12 = month % 12 + 1 := by omega
    have low : 0 ≤ month % 12 := by omega
    have step := daysBeforeMonth_succ noLess noMore low (by omega)
    rw [firstOfMonth, firstOfMonth, sameYear, nextMonth]
    omega

theorem firstOfMonth_strictMono : StrictMono firstOfMonth := by
  refine strictMono_int_of_lt_succ fun month => ?_
  have := (firstOfMonth_succ month).1
  omega

theorem daysBeforeYear_bounds (year : Int) :
    146097 * year - 400 < 400 * daysBeforeYear year ∧
      400 * daysBeforeYear year < 146097 * year + 800 := by
  unfold daysBeforeYear
  omega

/-- The first day of a month and its number differ from the mean by less than
four days. -/
theorem firstOfMonth_bounds (month : Int) :
    146097 * month - 4 * 4800 < (firstOfMonth month + 719528) * 4800 ∧
      (firstOfMonth month + 719528) * 4800 < 146097 * month + 4 * 4800 := by
  obtain ⟨noLess, noMore⟩ := leapDay_bounds (month / 12)
  have years := daysBeforeYear_bounds (month / 12)
  have months := daysBeforeMonth_bounds noLess noMore
    (by omega : 0 ≤ month % 12) (by omega)
  unfold firstOfMonth
  omega

/-- The month of a day holds that day. -/
theorem monthOf_bounds (day : Int) :
    firstOfMonth (monthOf day) ≤ day ∧
      day < firstOfMonth (monthOf day + 1) := by
  simp only [monthOf]
  generalize estimated : (day + 719528) * 4800 / 146097 = estimate
  have before := firstOfMonth_bounds (estimate - 1)
  have behind := firstOfMonth_bounds (estimate + 1 + 1)
  split
  · simp only [sub_add_cancel]
    omega
  · split
    · omega
    · omega

theorem monthOf_eq {month day : Int} (from_ : firstOfMonth month ≤ day)
    (below : day < firstOfMonth (month + 1)) : monthOf day = month := by
  have bounds := monthOf_bounds day
  have low : month < monthOf day + 1 :=
    firstOfMonth_strictMono.lt_iff_lt.mp (by omega)
  have high : monthOf day < month + 1 :=
    firstOfMonth_strictMono.lt_iff_lt.mp (by omega)
  omega

@[simp]
theorem monthOf_firstOfMonth (month : Int) :
    monthOf (firstOfMonth month) = month :=
  monthOf_eq le_rfl (firstOfMonth_strictMono (Int.lt_succ month))

theorem weekday_bounds (day : Int) : 0 ≤ weekday day ∧ weekday day < 7 := by
  unfold weekday
  omega

theorem mondayOf_bounds (day : Int) :
    mondayOf day ≤ day ∧ day ≤ mondayOf day + 6 := by
  have bounds := weekday_bounds day
  unfold mondayOf
  omega

@[simp]
theorem mondayOf_mondayOf (day : Int) :
    mondayOf (mondayOf day) = mondayOf day := by
  unfold mondayOf weekday
  omega

theorem mondayOf_of_bounds {monday day : Int}
    (isMonday : mondayOf monday = monday) (low : monday ≤ day)
    (high : day ≤ monday + 6) : mondayOf day = monday := by
  unfold mondayOf weekday at *
  omega

theorem mondayOf_add_seven {monday : Int}
    (isMonday : mondayOf monday = monday) :
    mondayOf (monday + 7) = monday + 7 := by
  unfold mondayOf weekday at *
  omega

theorem mondayOf_sub_seven {monday : Int}
    (isMonday : mondayOf monday = monday) :
    mondayOf (monday - 7) = monday - 7 := by
  unfold mondayOf weekday at *
  omega

example : firstOfMonth (12 * 2024 + 2) = 19783 := by decide

end CivilDates

end ZaloBot
