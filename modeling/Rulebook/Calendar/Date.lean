/-!
# Dates

Dates of the Gregorian calendar, extended to all years, and their numbers: days are counted from
1970-01-01, which is day 0.

* `yearStart_succ`: a year has 365 days, a leap year 366;
* `yearStart_yearOf_le`, `lt_yearStart_yearOf`: every day lies in the year found for it;
* `splitMonth_spec`: every day of a year lies in the month found for it.
-/

namespace Rulebook.Calendar

/-! ## Years -/

def isLeap (year : Int) : Bool := year % 4 == 0 && (year % 100 != 0 || year % 400 == 0)

def yearLength (year : Int) : Int := if isLeap year then 366 else 365

/-- The number of days from 0000-01-01 to the start of a year. -/
def yearStart (year : Int) : Int :=
  365 * year + (year + 3) / 4 - (year + 99) / 100 + (year + 399) / 400

theorem yearStart_succ (year : Int) : yearStart (year + 1) = yearStart year + yearLength year := by
  simp only [yearStart, yearLength, isLeap, Bool.and_eq_true, Bool.or_eq_true, beq_iff_eq,
    bne_iff_ne, ne_eq]
  split <;> omega

/-- The year of a day counted from 0000-01-01: four centuries have 146097 days, which gives the
year up to one. -/
def yearOf (day : Int) : Int :=
  let guess := day * 400 / 146097
  if day < yearStart guess then guess - 1
  else if yearStart (guess + 1) ≤ day then guess + 1
  else guess

theorem yearStart_yearOf_le (day : Int) : yearStart (yearOf day) ≤ day := by
  simp only [yearOf]
  split
  · simp only [yearStart] at *; omega
  · split
    · assumption
    · omega

theorem lt_yearStart_yearOf (day : Int) : day < yearStart (yearOf day + 1) := by
  simp only [yearOf]
  split
  · simpa using ‹_›
  · split
    · simp only [yearStart] at *; omega
    · omega

/-! ## Months -/

def monthLengths (leap : Bool) : List Nat :=
  [31, if leap then 29 else 28, 31, 30, 31, 30, 31, 31, 30, 31, 30, 31]

/-- The number of days in months of these lengths. -/
def daysIn : List Nat → Nat
  | [] => 0
  | length :: rest => length + daysIn rest

/-- The month and the day in it, both counted from 0, of a day of a year. -/
def splitMonth : List Nat → Nat → Nat × Nat
  | [], day => (0, day)
  | length :: rest, day =>
    if day < length then (0, day)
    else ((splitMonth rest (day - length)).1 + 1, (splitMonth rest (day - length)).2)

theorem splitMonth_spec (lengths : List Nat) (day : Nat) (h : day < daysIn lengths) :
    (daysIn (lengths.take (splitMonth lengths day).1) + (splitMonth lengths day).2 = day) ∧
      ∃ length, lengths[(splitMonth lengths day).1]? = some length ∧
        (splitMonth lengths day).2 < length := by
  induction lengths generalizing day with
  | nil => simp [daysIn] at h
  | cons length rest ih =>
    by_cases hd : day < length
    · simp [splitMonth, hd, daysIn]
    · have hr : day - length < daysIn rest := by simp only [daysIn] at h; omega
      obtain ⟨h1, l, h2, h3⟩ := ih (day - length) hr
      simp only [splitMonth, hd, ↓reduceIte, List.take_succ_cons, daysIn,
        List.getElem?_cons_succ]
      exact ⟨by omega, l, h2, h3⟩

/-! ## Dates -/

/-- Months and days are counted from 1. -/
structure Date where
  year : Int
  month : Nat
  day : Nat
  deriving DecidableEq

namespace Date

def leastYear : Int := -262143

def greatestYear : Int := 262142

def monthLength (year : Int) (month : Nat) : Nat :=
  if month = 0 then 0 else (monthLengths (isLeap year)).getD (month - 1) 0

/-- Whether the month has that day and the year is in range. -/
def isValid (d : Date) : Bool :=
  leastYear ≤ d.year && d.year ≤ greatestYear && 1 ≤ d.day && d.day ≤ monthLength d.year d.month

/-- The number of the day 1970-01-01, counted from 0000-01-01. -/
def epoch : Int := 719528

/-- The number of a date. -/
def number (d : Date) : Int :=
  let months := (monthLengths (isLeap d.year)).take (d.month - 1)
  yearStart d.year + daysIn months + (d.day - 1 : Nat) - epoch

/-- The date of that number. -/
def ofNumber (n : Int) : Date :=
  let day := n + epoch
  let year := yearOf day
  let (month, dayOfMonth) := splitMonth (monthLengths (isLeap year)) (day - yearStart year).toNat
  ⟨year, month + 1, dayOfMonth + 1⟩

end Date

end Rulebook.Calendar
