import CoEdit.Time.Calendar
import Mathlib.Tactic.Common

/-!
# Days and Dates

Every day number belongs to a date that the calendar has, and is the day number of this date. The
proof follows the computation: a cycle of 400 years has a place for every day, given by the year of
the cycle, which starts in March, and the day of that year.

## Main definitions

* `Date.Parts`: a day number taken apart into cycle, year of the cycle and day of the year.

## Main results

* `Date.dayNumber_ofDayNumber`: the date of a day number has this day number.
* `Date.inCalendar_ofDayNumber`: it is in the calendar, as long as its year can be named.
-/

namespace CoEdit.Time.Date

/-! ### Years of a cycle -/

/-- In which year of the cycle a day of the cycle falls. The divisions count the leap days before it
and the exceptions to them. -/
def yearOfCycle (day : Int) : Int :=
  (day - day / 1460 + day / 36524 - day / 146096) / 365

variable {day : Int}

/-- A cycle has four centuries; its last day is the leap day of the last year. -/
theorem century_cases (hfirst : 0 ≤ day) (hlast : day < 146097) :
    day / 36524 = 0 ∨ day / 36524 = 1 ∨ day / 36524 = 2 ∨ day / 36524 = 3 ∨ day = 146096 := by
  omega

/-- The corrections by divisions of the day come close to those by divisions of the year. -/
theorem yearOfCycle_bounds (hfirst : 0 ≤ day) (hlast : day < 146097) :
    0 ≤ yearOfCycle day ∧ yearOfCycle day ≤ 399 ∧
      yearOfCycle day / 100 = day / 36524 - day / 146096 ∧
      yearOfCycle day / 4 ≤ day / 1460 ∧ day / 1460 ≤ yearOfCycle day / 4 + 1 := by
  obtain ⟨y, hy⟩ : ∃ y, y = yearOfCycle day := ⟨_, rfl⟩
  rw [← hy]
  rw [yearOfCycle] at hy
  have hcenturies := century_cases hfirst hlast
  have hcentury : y / 100 = day / 36524 - day / 146096 := by
    rcases hcenturies with h | h | h | h | rfl <;> omega
  have hlow : y / 4 ≤ day / 1460 := by
    rcases hcenturies with h | h | h | h | rfl <;> omega
  have hhigh : day / 1460 ≤ y / 4 + 1 := by
    rcases hcenturies with h | h | h | h | rfl <;> omega
  exact ⟨by omega, by omega, hcentury, hlow, hhigh⟩

/-- The day of the year in which a day of the cycle falls, counted from zero. -/
def dayOfYear (day : Int) : Int :=
  day - (365 * yearOfCycle day + yearOfCycle day / 4 - yearOfCycle day / 100)

theorem dayOfYear_bounds (hfirst : 0 ≤ day) (hlast : day < 146097) :
    0 ≤ dayOfYear day ∧ dayOfYear day ≤ 365 := by
  obtain ⟨-, -, hcentury, hlow, hhigh⟩ := yearOfCycle_bounds hfirst hlast
  rw [dayOfYear]
  rw [yearOfCycle] at hcentury hlow hhigh ⊢
  omega

/-- Only in a year that ends in a leap year there is a day 365. -/
theorem leap_of_dayOfYear (hfirst : 0 ≤ day) (hlast : day < 146097)
    (h : dayOfYear day = 365) :
    (yearOfCycle day + 1) % 4 = 0 ∧
      ((yearOfCycle day + 1) % 100 ≠ 0 ∨ yearOfCycle day = 399) := by
  obtain ⟨-, hle, hcentury, hlow, hhigh⟩ := yearOfCycle_bounds hfirst hlast
  obtain ⟨y, hy⟩ : ∃ y, y = yearOfCycle day := ⟨_, rfl⟩
  rw [dayOfYear, ← hy] at h
  rw [← hy] at hle hcentury hlow hhigh ⊢
  rw [yearOfCycle] at hy
  have hquarter : day / 1460 = y / 4 + 1 := by omega
  have hfew : y / 4 ≤ 99 := by omega
  have hlater : 1460 * (day / 1460) ≤ day := by omega
  have hfour : y % 4 = 3 := by omega
  refine ⟨by omega, ?_⟩
  rcases century_cases hfirst hlast with h | h | h | h | rfl <;> omega

/-- Months have no more than 31 days. -/
theorem daysInMonth_le (year : Int) (month : Nat) : daysInMonth year month ≤ 31 := by
  unfold daysInMonth
  split
  · split <;> decide
  all_goals decide

/-! ### Dates of day numbers -/

/-- The parts that a day number is taken apart into: a cycle, a year of the cycle, a day of that
year, and the month of that year, counted from March. -/
structure Parts (n cycle year day month : Int) : Prop where
  sum : n + 719468 = cycle * 146097 + (365 * year + year / 4 - year / 100) + day
  year_nonneg : 0 ≤ year
  year_le : year ≤ 399
  day_nonneg : 0 ≤ day
  day_le : day ≤ 365
  leap : day = 365 → (year + 1) % 4 = 0 ∧ ((year + 1) % 100 ≠ 0 ∨ year = 399)
  month_eq : month = (5 * day + 2) / 153

/-- The date that parts amount to. -/
def ofParts (cycle year day month : Int) : Date :=
  let monthOfYear := if month < 10 then month + 3 else month - 9
  ⟨if monthOfYear ≤ 2 then cycle * 400 + year + 1 else cycle * 400 + year, monthOfYear.toNat,
    (day - (153 * month + 2) / 5 + 1).toNat⟩

theorem exists_parts (n : Int) :
    ∃ cycle year day month, Parts n cycle year day month ∧
      ofDayNumber n = ofParts cycle year day month := by
  have hfirst : 0 ≤ (n + 719468) % 146097 := by omega
  have hlast : (n + 719468) % 146097 < 146097 := by omega
  obtain ⟨hyear, hyear', -⟩ := yearOfCycle_bounds hfirst hlast
  obtain ⟨hday, hday'⟩ := dayOfYear_bounds hfirst hlast
  refine ⟨_, _, _, _, ⟨?_, hyear, hyear', hday, hday', leap_of_dayOfYear hfirst hlast, rfl⟩, rfl⟩
  rw [dayOfYear]
  omega

namespace Parts

variable {n cycle year day month : Int}

theorem month_bounds (h : Parts n cycle year day month) : 0 ≤ month ∧ month ≤ 11 := by
  have hmonth := h.month_eq
  have hfirst := h.day_nonneg
  have hlast := h.day_le
  omega

/-- From March to December the date is in the year that the year of the cycle begins in, -/
theorem date_of_lt (h : Parts n cycle year day month) (hmonth : month < 10) :
    ofParts cycle year day month =
      ⟨cycle * 400 + year, (month + 3).toNat, (day - (153 * month + 2) / 5 + 1).toNat⟩ := by
  have hfirst := h.month_bounds.1
  have hmarch : ¬month + 3 ≤ 2 := by omega
  simp [ofParts, hmonth, hmarch]

/-- and in January and February in the next one. -/
theorem date_of_le (h : Parts n cycle year day month) (hmonth : 10 ≤ month) :
    ofParts cycle year day month =
      ⟨cycle * 400 + year + 1, (month - 9).toNat, (day - (153 * month + 2) / 5 + 1).toNat⟩ := by
  have hlast := h.month_bounds.2
  have hmarch : month - 9 ≤ 2 := by omega
  simp [ofParts, Int.not_lt.mpr hmonth, hmarch]

/-- The parts give back the day number. -/
theorem dayNumber_eq (h : Parts n cycle year day month) :
    (ofParts cycle year day month).dayNumber = n := by
  obtain ⟨hmonth, hmonth'⟩ := h.month_bounds
  have hsum := h.sum
  have hyear := h.year_nonneg
  have hyear' := h.year_le
  have hday := h.day_nonneg
  have hmonth_eq := h.month_eq
  by_cases hlate : month < 10
  · have hmarch : ¬(month + 3).toNat ≤ 2 := by omega
    rw [h.date_of_lt hlate, dayNumber, if_neg hmarch, if_neg hmarch]
    dsimp only
    omega
  · have hmarch : (month - 9).toNat ≤ 2 := by omega
    rw [h.date_of_le (Int.not_lt.mp hlate), dayNumber, if_pos hmarch, if_pos hmarch]
    dsimp only
    omega

/-- How many days of a month can have passed. Only February has 29 days in some years. -/
theorem day_bounds (h : Parts n cycle year day month) :
    let dayOfMonth := day - (153 * month + 2) / 5 + 1
    1 ≤ dayOfMonth ∧ dayOfMonth ≤ 31 ∧
      (month = 1 ∨ month = 3 ∨ month = 6 ∨ month = 8 → dayOfMonth ≤ 30) ∧
      (month = 11 → dayOfMonth ≤ 29 ∧ (dayOfMonth = 29 → day = 365)) := by
  obtain ⟨hmonth, hmonth'⟩ := h.month_bounds
  have hday := h.day_nonneg
  have hday' := h.day_le
  have hmonth_eq := h.month_eq
  refine ⟨by omega, by omega, ?_, ?_⟩
  · rintro (rfl | rfl | rfl | rfl) <;> omega
  · rintro rfl
    omega

/-- A year of the cycle that has a day 365 ends with the February of a leap year. -/
theorem isLeapYear_of_eq (h : Parts n cycle year day month) (hday : day = 365) :
    isLeapYear (cycle * 400 + year + 1) = true := by
  have hyear := h.year_nonneg
  obtain ⟨hfour, hhundred⟩ := h.leap hday
  simp only [isLeapYear, Bool.and_eq_true, Bool.or_eq_true, decide_eq_true_eq]
  omega

/-- The parts make a date of the calendar. -/
theorem date_bounds (h : Parts n cycle year day month) :
    1 ≤ (ofParts cycle year day month).month ∧ (ofParts cycle year day month).month ≤ 12 ∧
      1 ≤ (ofParts cycle year day month).day ∧
      (ofParts cycle year day month).day ≤
        daysInMonth (ofParts cycle year day month).year (ofParts cycle year day month).month := by
  obtain ⟨hmonth, hmonth'⟩ := h.month_bounds
  obtain ⟨hfirst, hlast, hshort, hfebruary⟩ := h.day_bounds
  by_cases hlate : month < 10
  · rw [h.date_of_lt hlate]
    dsimp only
    refine ⟨by omega, by omega, by omega, ?_⟩
    unfold daysInMonth
    split <;> omega
  · rw [h.date_of_le (Int.not_lt.mp hlate)]
    dsimp only
    refine ⟨by omega, by omega, by omega, ?_⟩
    obtain rfl | rfl : month = 10 ∨ month = 11 := by omega
    · change _ ≤ 31
      omega
    · obtain ⟨hle, hlong⟩ := hfebruary rfl
      change _ ≤ if isLeapYear _ then 29 else 28
      split
      · omega
      · next hcommon =>
        have hnot : ¬day = 365 := fun hday => hcommon (h.isLeapYear_of_eq hday)
        omega

end Parts

/-- **The date of a day number has this day number.** -/
theorem dayNumber_ofDayNumber (n : Int) : (ofDayNumber n).dayNumber = n := by
  obtain ⟨cycle, year, day, month, hparts, hdate⟩ := exists_parts n
  rw [hdate, hparts.dayNumber_eq]

/-- **The date of a day number is in the calendar**, if its year can be named. -/
theorem inCalendar_ofDayNumber {n : Int} (hfirst : firstYear ≤ (ofDayNumber n).year)
    (hlast : (ofDayNumber n).year ≤ lastYear) : (ofDayNumber n).inCalendar = true := by
  obtain ⟨cycle, year, day, month, hparts, hdate⟩ := exists_parts n
  have hbounds := hparts.date_bounds
  rw [← hdate] at hbounds
  obtain ⟨hmonth, hmonth', hday, hday'⟩ := hbounds
  simp only [inCalendar, hfirst, hlast, hmonth, hmonth', hday, hday', decide_true, Bool.and_true]

end CoEdit.Time.Date
