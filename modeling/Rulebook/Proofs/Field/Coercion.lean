import Rulebook.Field.Coercion
import Rulebook.Field.Test
import Rulebook.Proofs.Calendar.Timestamps

/-!
# Coerced dates

A `date` rule replaces a value that names a moment by the text of that moment. The text is a
timestamp again only if the year, in UTC, has four digits. Numbers reach other years, and so do
timestamps at either end of the years 0 to 9999 by their offset; what is written for these is no
date to the check that follows.

* `getD_coerceDate_of_eq_some`: a coerced value is not changed any more;
* `coerceDate_stable_iff`: which coerced values pass as dates and stay as they are.
-/

namespace Rulebook

open Calendar

theorem Json.nanos_of_moment? {v : Json} {m : Moment} (h : v.moment? = some m) :
    m.nanos < 1000000000 := by
  cases v with
  | string s => exact nanos_of_readMoment h
  | number n =>
    simp only [moment?, Moment.ofMillis?] at h
    split at h
    · rw [← Option.some.inj h]
      simp only [Moment.ofMillis]
      omega
    · cases h
  | null => cases h
  | bool b => cases h
  | array items => cases h
  | object members => cases h

theorem coerceDate_text (text : List Char) :
    coerceDate (.string (String.ofList text)) =
      (readMoment text).map fun m => .string (String.ofList m.text) := by
  simp [coerceDate, Json.moment?]

theorem holds_date_text (text : List Char) :
    Test.date.holds (some (.string (String.ofList text))) = (readTimestamp text).isSome := by
  simp [Test.holds, Test.holdsOf]

/-- What was coerced is either coerced into itself or not coerced again. -/
theorem getD_coerceDate_of_eq_some {v w : Json} (h : coerceDate v = some w) :
    (coerceDate w).getD w = w := by
  obtain ⟨m, hm, rfl⟩ := Option.map_eq_some_iff.mp h
  have hn := Json.nanos_of_moment? hm
  rw [coerceDate_text]
  by_cases hy : m.HasPlainYear
  · obtain ⟨m', hread, htext⟩ := readTimestamp_text hy hn
    simp [readMoment, hread, htext]
  · simp [readMoment_text_eq_none hy hn]

/-- **Coerced dates.** A value that is coerced names a moment. If the year of that moment in UTC
is one of four digits, what is written passes as a date and is coerced into itself; if it is any
other year, what is written passes no more and cannot be coerced again. -/
theorem coerceDate_stable_iff {v w : Json} (h : coerceDate v = some w) :
    ∃ m, v.moment? = some m ∧
      (Test.date.holds (some w) = true ∧ coerceDate w = some w ↔ m.HasPlainYear) ∧
      (Test.date.holds (some w) = false ∧ coerceDate w = none ↔ ¬m.HasPlainYear) := by
  obtain ⟨m, hm, rfl⟩ := Option.map_eq_some_iff.mp h
  have hn := Json.nanos_of_moment? hm
  refine ⟨m, hm, ?_⟩
  rw [coerceDate_text, holds_date_text]
  by_cases hy : m.HasPlainYear
  · obtain ⟨m', hread, htext⟩ := readTimestamp_text hy hn
    simp [readMoment, hread, htext, hy]
  · have hnone := readMoment_text_eq_none hy hn
    have hstamp : readTimestamp m.text = none := (Option.or_eq_none_iff.mp hnone).1
    simp [hnone, hstamp, hy]

/-- A leap second at the end of the first minute of the year 0. -/
theorem coerceDate_stable_yearZero :
    ∃ w, coerceDate (.string "0000-01-01T00:30:60.5+00:30") = some w ∧
      Test.date.holds (some w) = true ∧ coerceDate w = some w := by
  have hv : Json.moment? (.string "0000-01-01T00:30:60.5+00:30") =
      some ⟨-62167219141, 500000000, true⟩ := rfl
  obtain ⟨m, hm, h, _⟩ := coerceDate_stable_iff (v := .string "0000-01-01T00:30:60.5+00:30") rfl
  obtain rfl := Option.some.inj (hv.symm.trans hm)
  exact ⟨_, rfl, h.mpr ⟨by decide, by decide⟩⟩

/-- A date that is valid, and is not after it was coerced: the offset shifts it into the year
10000. -/
theorem coerceDate_loses_date :
    ∃ w, Test.date.holds (some (.string "9999-12-31T23:30:00-01:00")) = true ∧
      coerceDate (.string "9999-12-31T23:30:00-01:00") = some w ∧
      Test.date.holds (some w) = false ∧ coerceDate w = none :=
  ⟨_, rfl, rfl, rfl, rfl⟩

end Rulebook
