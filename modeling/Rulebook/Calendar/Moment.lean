import Rulebook.Calendar.Date

/-!
# Moments

A moment is counted in whole seconds from the start of 1970-01-01 in UTC, with a fraction in
nanoseconds. The second 60 of a minute is a leap second; it is the moment of second 59, marked.

* `millis_ofMillis`: a moment made from milliseconds has that many.
-/

namespace Rulebook.Calendar

structure Moment where
  second : Int
  nanos : Nat
  leap : Bool
  deriving DecidableEq

/-- The time of a day; `second` may be 60. -/
structure Clock where
  hour : Nat
  minute : Nat
  second : Nat
  nanos : Nat
  deriving DecidableEq

def secondsPerDay : Int := 86400

namespace Clock

def isValid (c : Clock) : Bool := c.hour < 24 && c.minute < 60 && c.second ≤ 60

def midnight : Clock := ⟨0, 0, 0, 0⟩

/-- Seconds since midnight; a leap second counts as the second before it. -/
def seconds (c : Clock) : Int := c.hour * 3600 + c.minute * 60 + (min c.second 59 : Nat)

end Clock

namespace Moment

/-- The moment of a date and time that is `offset` seconds ahead of UTC. -/
def of? (d : Date) (c : Clock) (offset : Int) : Option Moment :=
  if d.isValid && c.isValid then
    some ⟨d.number * secondsPerDay + c.seconds - offset, c.nanos, c.second == 60⟩
  else none

def date (m : Moment) : Date := Date.ofNumber (m.second / secondsPerDay)

def clock (m : Moment) : Clock :=
  let s := (m.second % secondsPerDay).toNat
  ⟨s / 3600, s / 60 % 60, if m.leap then s % 60 + 1 else s % 60, m.nanos⟩

/-! ## Milliseconds -/

/-- Milliseconds since the start of 1970, rounded down. -/
def millis (m : Moment) : Int := m.second * 1000 + (m.nanos / 1000000 : Nat)

def ofMillis (n : Int) : Moment := ⟨n / 1000, (n % 1000).toNat * 1000000, false⟩

/-- The moment of that many milliseconds, if its year is in range. -/
def ofMillis? (n : Int) : Option Moment :=
  let m := ofMillis n
  if Date.leastYear ≤ m.date.year ∧ m.date.year ≤ Date.greatestYear then some m else none

theorem millis_ofMillis (n : Int) : (ofMillis n).millis = n := by
  simp only [millis, ofMillis]
  omega

/-! ## Text -/

def padded (width n : Nat) : List Char :=
  let digits := Nat.toDigits 10 n
  List.replicate (width - digits.length) '0' ++ digits

/-- Years outside 0 to 9999 carry a sign. -/
def yearText (year : Int) : List Char :=
  if 0 ≤ year ∧ year ≤ 9999 then padded 4 year.toNat
  else (if year < 0 then '-' else '+') :: padded 4 year.natAbs

def dateText (d : Date) : List Char :=
  yearText d.year ++ '-' :: padded 2 d.month ++ '-' :: padded 2 d.day

def clockText (c : Clock) : List Char :=
  padded 2 c.hour ++ ':' :: padded 2 c.minute ++ ':' :: padded 2 c.second ++
    '.' :: padded 3 (c.nanos / 1000000)

/-- Date and time in UTC to the millisecond, as in `2024-03-01T10:15:00.000Z`. -/
def text (m : Moment) : List Char := dateText m.date ++ 'T' :: clockText m.clock ++ ['Z']

end Moment

end Rulebook.Calendar
