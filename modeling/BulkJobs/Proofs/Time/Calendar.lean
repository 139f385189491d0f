import BulkJobs.Time.Calendar
import Mathlib.Data.Int.Order.Lemmas
import Mathlib.Tactic.IntervalCases
import Mathlib.Tactic.SplitIfs

/-!
# Counting days

The days of the proleptic Gregorian calendar can be counted one by one: year by year from the year 0
on, month by month, day by day (`daysBefore`). The day number of a date is this count, taken from
1 January 1970 on (`dayNumber_eq`). It goes by years that start in March; before each month from
March on lie as many days as the formula for the month says, behind those of January and February
(`daysThroughMonth_march`).
-/

set_option autoImplicit false
set_option relaxedAutoImplicit false

namespace BulkJobs.Calendar

/-! ### Days one by one -/

/-- The number of days of a year. -/
def daysInYear (year : Int) : Nat :=
  if isLeapYear year then 366 else 365

/-- The number of days of the years from 0 up to a year, that year left out. -/
def daysBeforeYear : Nat → Nat
  | 0 => 0
  | year + 1 => daysBeforeYear year + daysInYear year

/-- The number of days of the first months of a year, counted month by month. -/
def daysThroughMonth (year : Int) : Nat → Nat
  | 0 => 0
  | month + 1 => daysThroughMonth year month + daysInMonth year (month + 1)

/-- The number of days from 1 January of the year 0 to a date, counted year by year and month by
month. -/
def daysBefore (year month day : Nat) : Nat :=
  daysBeforeYear year + daysThroughMonth year (month - 1) + (day - 1)

/-! ### The count in one step -/

theorem isLeapYear_iff (year : Int) :
    isLeapYear year = true ↔ year % 4 = 0 ∧ (year % 100 ≠ 0 ∨ year % 400 = 0) := by
  simp [isLeapYear]

theorem daysInMonth_le (year : Int) (month : Nat) : daysInMonth year month ≤ 31 := by
  unfold daysInMonth
  split <;> try split_ifs
  all_goals decide

theorem daysThroughMonth_le (year : Int) (month : Nat) :
    daysThroughMonth year month ≤ 31 * month := by
  induction month with
  | zero => exact le_rfl
  | succ month ih =>
    have := daysInMonth_le year (month + 1)
    rw [daysThroughMonth]
    omega

/-- Every fourth year is a leap year, but every hundredth is none, but every four hundredth is. -/
theorem daysBeforeYear_eq (year : Nat) : (daysBeforeYear year : Int) =
    365 * year + (year + 3) / 4 - (year + 99) / 100 + (year + 399) / 400 := by
  induction year with
  | zero => rfl
  | succ year ih =>
    have hyear : (daysInYear year : Int) = 365 + (if isLeapYear year then 1 else 0) := by
      unfold daysInYear
      split_ifs <;> rfl
    rw [daysBeforeYear, Nat.cast_add, ih, hyear]
    push_cast
    split_ifs with h
    · obtain ⟨hfour, hhundred | hmore⟩ := (isLeapYear_iff year).mp h <;> omega
    · have hnone : (year : Int) % 4 ≠ 0 ∨ (year : Int) % 100 = 0 ∧ (year : Int) % 400 ≠ 0 := by
        by_contra hyear
        exact h ((isLeapYear_iff year).mpr (by omega))
      rcases hnone with hfour | ⟨hhundred, hmore⟩
      · have hsteps : ((year : Int) + 1 + 3) / 4 = (year + 3) / 4 ∧
            ((year : Int) + 1 + 99) / 100 = (year + 99) / 100 ∧
            ((year : Int) + 1 + 399) / 400 = (year + 399) / 400 :=
          ⟨by omega, by omega, by omega⟩
        omega
      · omega

/-- The days of the months before a month from March on: those of January and February, and from
there on months of 31 and 30 days in the rhythm of the formula. -/
theorem daysThroughMonth_march (year : Int) {month : Nat} (hleast : 3 ≤ month)
    (hmost : month ≤ 12) : (daysThroughMonth year (month - 1) : Int) =
      59 + (if isLeapYear year then 1 else 0) + (153 * ((month : Int) - 3) + 2) / 5 := by
  interval_cases month <;> simp [daysThroughMonth, daysInMonth] <;> split_ifs <;> rfl

theorem daysBefore_epoch : daysBefore 1970 1 1 = 719528 := by
  have hyears := daysBeforeYear_eq 1970
  have hmonths : daysThroughMonth (1970 : Nat) (1 - 1) = 0 := rfl
  rw [daysBefore, hmonths]
  omega

/-- The day number of a date in the calendar (`hfirst`, `hmonth`, `hday`) counts the days from 1
January 1970 to it, as `daysBefore` does. -/
theorem dayNumber_eq (year : Nat) {month day : Nat} (hfirst : 1 ≤ month) (hmonth : month ≤ 12)
    (hday : 1 ≤ day) :
    dayNumber year month day = (daysBefore year month day : Int) - daysBefore 1970 1 1 := by
  rw [daysBefore_epoch, daysBefore, Nat.cast_add, Nat.cast_add, daysBeforeYear_eq]
  unfold dayNumber
  by_cases hmarch : month ≤ 2
  · have hthrough : (daysThroughMonth year (month - 1) : Int) = 31 * (month - 1) := by
      interval_cases month <;> rfl
    simp only [hmarch, if_true, hthrough,
      Int.fdiv_eq_ediv_of_nonneg _ (by decide : (0 : Int) ≤ 400)]
    interval_cases month <;> omega
  · rw [daysThroughMonth_march year (by omega) hmonth]
    simp only [hmarch, if_false, Int.fdiv_eq_ediv_of_nonneg _ (by decide : (0 : Int) ≤ 400)]
    split_ifs with h
    · have := (isLeapYear_iff year).mp h
      omega
    · have := mt (isLeapYear_iff year).mpr h
      omega

/-! ### Dates of day numbers -/

/-- A day number within some thousand years has a year within some thousand years. -/
theorem dateOf_year {n : Int} (hleast : -1000000 ≤ n) (hmost : n ≤ 10000000) :
    -200000 ≤ (dateOf n).1 ∧ (dateOf n).1 ≤ 200000 := by
  unfold dateOf
  simp only [Int.fdiv_eq_ediv_of_nonneg _ (by decide : (0 : Int) ≤ 146097)]
  split_ifs <;> omega

end BulkJobs.Calendar
