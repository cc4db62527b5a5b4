import Rulebook.Calendar.Moment

/-!
# Dates and times taken apart and put together

Every day has a date, and the number of that date is the day again. Every moment has a date and a
time of day, and these make a moment that has them.

* `Date.number_ofNumber`: days and their dates determine each other;
* `Date.isValid_ofNumber`, `Moment.isValid_clock`: dates and times that are found are valid;
* `Moment.exists_of?`: a date and a time make a moment of that date and that time.
-/

namespace Rulebook.Calendar

/-! ## Dates -/

theorem daysIn_monthLengths (year : Int) :
    (daysIn (monthLengths (isLeap year)) : Int) = yearLength year := by
  cases h : isLeap year <;> simp [monthLengths, daysIn, yearLength, h]

theorem le_of_mem_monthLengths {leap : Bool} {length : Nat} (h : length ∈ monthLengths leap) :
    length ≤ 31 := by
  cases leap <;> simp [monthLengths] at h <;> omega

namespace Date

/-- What splitting a day into year, month and day of the month comes to. -/
theorem split_spec (n : Int) :
    ∃ length, (monthLengths (isLeap (ofNumber n).year))[(ofNumber n).month - 1]? = some length ∧
      1 ≤ (ofNumber n).month ∧ 1 ≤ (ofNumber n).day ∧ (ofNumber n).day ≤ length ∧
      (ofNumber n).number = n := by
  have hfirst := yearStart_yearOf_le (n + epoch)
  have hlast := lt_yearStart_yearOf (n + epoch)
  have hyear := daysIn_monthLengths (yearOf (n + epoch))
  rw [yearStart_succ] at hlast
  have hlt : (n + epoch - yearStart (yearOf (n + epoch))).toNat <
      daysIn (monthLengths (isLeap (yearOf (n + epoch)))) := by omega
  obtain ⟨hsum, length, hlength, hday⟩ := splitMonth_spec _ _ hlt
  refine ⟨length, hlength, Nat.succ_pos _, Nat.succ_pos _, hday, ?_⟩
  simp only [number, ofNumber, Nat.add_sub_cancel]
  omega

theorem number_ofNumber (n : Int) : (ofNumber n).number = n := by
  obtain ⟨_, _, _, _, _, h⟩ := split_spec n
  exact h

theorem isValid_ofNumber {n : Int} (hl : leastYear ≤ (ofNumber n).year)
    (hg : (ofNumber n).year ≤ greatestYear) : (ofNumber n).isValid = true := by
  obtain ⟨length, hlength, hmonth, hday, hle, _⟩ := split_spec n
  have hm : (ofNumber n).month ≠ 0 := by omega
  simp [isValid, monthLength, hl, hg, hm, hday, hle, List.getD_eq_getElem?_getD, hlength]

/-- Months and days have two digits at most. -/
theorem lt_of_ofNumber (n : Int) : (ofNumber n).month < 100 ∧ (ofNumber n).day < 100 := by
  obtain ⟨length, hlength, _, _, hle, _⟩ := split_spec n
  have hle31 := le_of_mem_monthLengths (List.mem_of_getElem? hlength)
  obtain ⟨hlt, _⟩ := List.getElem?_eq_some_iff.mp hlength
  have h12 : (monthLengths (isLeap (ofNumber n).year)).length = 12 := rfl
  omega

end Date

/-! ## Moments -/

namespace Moment

theorem isValid_clock (m : Moment) : m.clock.isValid = true := by
  have h : m.second % secondsPerDay < secondsPerDay := Int.emod_lt_of_pos _ (by decide)
  have h0 : 0 ≤ m.second % secondsPerDay := Int.emod_nonneg _ (by decide)
  simp only [secondsPerDay] at h h0
  simp only [Clock.isValid, clock, secondsPerDay, Bool.and_eq_true]
  refine ⟨⟨decide_eq_true ?_, decide_eq_true ?_⟩, decide_eq_true ?_⟩
  · omega
  · omega
  · split <;> omega

/-- A valid time of day is found again, on whatever day. -/
theorem clock_eq (day : Int) {c : Clock} (h : c.isValid = true) :
    clock ⟨day * secondsPerDay + c.seconds, c.nanos, c.second == 60⟩ = c := by
  obtain ⟨hour, minute, second, nanos⟩ := c
  simp only [Clock.isValid, Bool.and_eq_true, decide_eq_true_eq] at h
  have hs : ((day * secondsPerDay + Clock.seconds ⟨hour, minute, second, nanos⟩) %
      secondsPerDay).toNat = hour * 3600 + minute * 60 + min second 59 := by
    simp only [secondsPerDay, Clock.seconds]
    omega
  simp only [clock, hs, Clock.mk.injEq, beq_iff_eq]
  refine ⟨?_, ?_, ?_, trivial⟩
  · omega
  · omega
  · split <;> omega

/-- A date and a time of day in UTC make a moment of that date and that time. -/
theorem exists_of? {n : Int} (hd : (Date.ofNumber n).isValid = true) {c : Clock}
    (hc : c.isValid = true) :
    ∃ m, of? (Date.ofNumber n) c 0 = some m ∧ m.date = Date.ofNumber n ∧ m.clock = c := by
  refine ⟨⟨n * secondsPerDay + c.seconds, c.nanos, c.second == 60⟩, ?_, ?_, clock_eq n hc⟩
  · simp [of?, hd, hc, Date.number_ofNumber]
  · have hday : (n * secondsPerDay + c.seconds) / secondsPerDay = n := by
      simp only [Clock.isValid, Bool.and_eq_true, decide_eq_true_eq] at hc
      simp only [secondsPerDay, Clock.seconds]
      omega
    exact congrArg Date.ofNumber hday

end Moment

end Rulebook.Calendar
