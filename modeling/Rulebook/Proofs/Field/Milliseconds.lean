import Rulebook.Proofs.Calendar.Chronology
import Rulebook.Proofs.Field.Coercion

/-!
# Milliseconds as dates

A whole number is coerced as a count of milliseconds. In the years 0 to 9999 no count is lost by
that: each has a text of its own, which is read as that count again, and the texts are in the order
of the counts.

* `moment?_ofInt`: the moment that a whole number names;
* `coerceDate_ofInt_of_isInRange`, `coerceDate_ofInt`: what it is coerced into;
* `milliseconds_kept_in_order`: texts of milliseconds.
-/

namespace Rulebook

open Calendar

/-- All counts of milliseconds in the range of dates fit 64 bits. -/
theorem Calendar.Moment.fits_of_isInRange {m : Int} (h : (ofMillis m).IsInRange) :
    (Bits.fitsSigned 64 m || Bits.fitsUnsigned 64 m) = true := by
  have hends : -100000000 ≤ yearStart Date.leastYear ∧
      yearStart (Date.greatestYear + 1) ≤ 100000000 := by decide
  rw [isInRange_iff] at h
  simp only [ofMillis, secondsPerDay, Date.epoch] at h
  rw [Bool.or_eq_true, Bits.fitsSigned_64_iff]
  omega

theorem Json.moment?_ofInt {m : Int} (h : (Moment.ofMillis m).IsInRange) :
    (Json.ofInt m).moment? = some (Moment.ofMillis m) := by
  have hnumber : Number.ofInt m = .whole m (Moment.fits_of_isInRange h) :=
    dif_pos (Moment.fits_of_isInRange h)
  simp only [Json.ofInt, hnumber, Json.moment?, Number.millis, Moment.ofMillis?]
  exact if_pos h

theorem coerceDate_ofInt_of_isInRange {m : Int} (h : (Moment.ofMillis m).IsInRange) :
    coerceDate (.ofInt m) = some (.string (String.ofList (Moment.ofMillis m).text)) := by
  rw [coerceDate, Json.moment?_ofInt h, Option.map_some]

theorem coerceDate_ofInt {m : Int} (h : (Moment.ofMillis m).HasPlainYear) :
    coerceDate (.ofInt m) = some (.string (String.ofList (Moment.ofMillis m).text)) :=
  coerceDate_ofInt_of_isInRange h.isInRange

/-- **Milliseconds.** Each count of milliseconds in the years 0 to 9999 is coerced into a text with
year, month, day, hour, minute, second and millisecond of an existing date and an existing time of
day, in four, two and three digits. The text passes as a date and is read as the count that it was
written for. The texts of two counts have their order, byte by byte. -/
theorem milliseconds_kept_in_order :
    (∀ m : Int, -62167219200000 ≤ m → m ≤ 253402300799999 → ∃ (s : String) (d : Date) (c : Clock),
      coerceDate (.ofInt m) = some (.string s) ∧
      s.toList = written [(4, '-'), (2, '-'), (2, 'T'), (2, ':'), (2, ':'), (2, '.'), (3, 'Z')]
        [d.year.toNat, d.month, d.day, c.hour, c.minute, c.second, c.nanos / 1000000] ∧
      0 ≤ d.year ∧ d.year ≤ 9999 ∧ d.isValid = true ∧ c.isValid = true ∧ c.second < 60 ∧
      c.nanos < 1000000000 ∧
      Test.date.holds (some (.string s)) = true ∧
      ∃ moment, readTimestamp s.toList = some moment ∧ moment.millis = m ∧
        moment.nanos % 1000000 = 0) ∧
    ∀ (m n : Int) (s t : String), -62167219200000 ≤ m → m < n → n ≤ 253402300799999 →
      coerceDate (.ofInt m) = some (.string s) → coerceDate (.ofInt n) = some (.string t) →
      bytes s < bytes t := by
  constructor
  · intro m hleast hgreatest
    have hyear := Moment.hasPlainYear_ofMillis_iff.mpr ⟨hleast, hgreatest⟩
    have hread := Moment.readTimestamp_text_ofMillis hyear
    refine ⟨String.ofList (Moment.ofMillis m).text, (Moment.ofMillis m).date,
      (Moment.ofMillis m).clock, coerceDate_ofInt hyear, ?_, hyear.1, hyear.2,
      Moment.isValid_date hyear, Moment.isValid_clock _, ?_, ?_, ?_, Moment.ofMillis m, ?_,
      Moment.millis_ofMillis m, Nat.mul_mod_left _ _⟩
    · rw [String.toList_ofList]
      exact Moment.text_eq_written hyear
    · simp only [Moment.clock, Moment.ofMillis, Bool.false_eq_true, ↓reduceIte]
      omega
    · exact Moment.nanos_ofMillis_lt m
    · rw [holds_date_text, hread]
      rfl
    · rw [String.toList_ofList]
      exact hread
  · intro m n s t hleast hmn hgreatest hs ht
    have hm := Moment.hasPlainYear_ofMillis_iff.mpr ⟨hleast, by omega⟩
    have hn := Moment.hasPlainYear_ofMillis_iff.mpr ⟨by omega, hgreatest⟩
    rw [coerceDate_ofInt hm] at hs
    rw [coerceDate_ofInt hn] at ht
    obtain rfl := Json.string.inj (Option.some.inj hs)
    obtain rfl := Json.string.inj (Option.some.inj ht)
    exact Moment.bytes_text_ofMillis_lt hm hn hmn

/-- The last millisecond of a February before 1970, in a year that is a multiple of hundred and no
leap year, and the one that follows it. -/
theorem milliseconds_kept_in_order_century :
    coerceDate (.ofInt (-2203891200001)) = some (.string "1900-02-28T23:59:59.999Z") ∧
      coerceDate (.ofInt (-2203891200000)) = some (.string "1900-03-01T00:00:00.000Z") ∧
      (∃ moment, readTimestamp "1900-02-28T23:59:59.999Z".toList = some moment ∧
        moment.millis = -2203891200001) ∧
      bytes "1900-02-28T23:59:59.999Z" < bytes "1900-03-01T00:00:00.000Z" := by
  have hfirst : coerceDate (.ofInt (-2203891200001)) =
      some (.string "1900-02-28T23:59:59.999Z") := rfl
  have hnext : coerceDate (.ofInt (-2203891200000)) =
      some (.string "1900-03-01T00:00:00.000Z") := rfl
  obtain ⟨hread, horder⟩ := milliseconds_kept_in_order
  obtain ⟨s, _, _, hs, _, _, _, _, _, _, _, _, moment, hmoment, hmillis, _⟩ :=
    hread (-2203891200001) (by decide) (by decide)
  obtain rfl := Json.string.inj (Option.some.inj (hfirst.symm.trans hs))
  exact ⟨hfirst, hnext, ⟨moment, hmoment, hmillis⟩,
    horder _ _ _ _ (by decide) (by decide) (by decide) hfirst hnext⟩

end Rulebook
