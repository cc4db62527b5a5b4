import Mathlib.Algebra.Group.Nat.Defs
import Mathlib.Data.List.Induction
import Mathlib.Data.List.TakeWhile
import Rulebook.Calendar.Reader
import Rulebook.Proofs.Calendar.Dates

/-!
# Timestamps read back

The text of a moment is read as a timestamp again if its year has four digits, and then the moment
that is read has the same text. A year beyond these is written with a sign, which no timestamp has,
and a text that ends in `Z` is no plain date or time either; so nothing reads such a text.

* `fixedDigits_padded`, `upToDigits_append`: numbers that are read are those that were written;
* `readTimestamp_text`: texts of moments in the years 0 to 9999;
* `readMoment_text_eq_none`: texts of all other moments;
* `nanos_of_readMoment`: every moment that is read has less than a second in nanoseconds.
-/

namespace Rulebook

/-! ## Numbers -/

namespace Digits

theorem zero_le_of_isDigit {c : Char} (h : c.isDigit = true) : '0'.toNat ≤ c.toNat := by
  simp only [Char.isDigit, Bool.and_eq_true, decide_eq_true_eq] at h
  exact h.1

theorem digitValue_lt {c : Char} (h : c.isDigit = true) : digitValue c < 10 := by
  simp only [Char.isDigit, Bool.and_eq_true, decide_eq_true_eq] at h
  have h9 : c.toNat ≤ '0'.toNat + 9 := h.2
  simp only [digitValue]
  omega

theorem value_lt {digits : List Char} (h : ∀ c ∈ digits, c.isDigit = true) :
    value digits < 10 ^ digits.length := by
  induction digits using List.reverseRecOn with
  | nil => simp [value]
  | append_singleton digits c ih =>
    have hc := digitValue_lt (h c (by simp))
    have hd := ih fun x hx => h x (List.mem_append_left _ hx)
    rw [value_append_singleton, List.length_append, List.length_singleton, Nat.pow_succ]
    omega

theorem value_toDigits (n : Nat) : value (Nat.toDigits 10 n) = n :=
  Nat.ofDigitChars_ten_toDigits

end Digits

namespace Calendar

open Moment (padded)

theorem length_padded {width n : Nat} (hw : 0 < width) (hn : n < 10 ^ width) :
    (padded width n).length = width := by
  have h := (Nat.length_toDigits_le_iff (by decide) hw).mpr hn
  simp only [padded, List.length_append, List.length_replicate]
  omega

theorem isDigit_of_mem_padded {width n : Nat} {c : Char} (h : c ∈ padded width n) :
    c.isDigit = true := by
  rcases List.mem_append.mp h with h | h
  · rw [List.eq_of_mem_replicate h]
    rfl
  · exact Nat.isDigit_of_mem_toDigits (by decide) (by decide) h

theorem value_padded (width n : Nat) : Digits.value (padded width n) = n :=
  (Digits.value_replicate_zero _ _).trans (Digits.value_toDigits n)

theorem padded_ne_nil (width n : Nat) : padded width n ≠ [] := by
  simp [padded, Nat.toDigits_ne_nil]

theorem fixedDigits_padded {width n : Nat} (hw : 0 < width) (hn : n < 10 ^ width)
    (rest : List Char) : fixedDigits width (padded width n ++ rest) = some (n, rest) := by
  have hl := length_padded hw hn
  have htake : (padded width n ++ rest).take width = padded width n := by
    rw [List.take_append_of_le_length (by omega), List.take_of_length_le (by omega)]
  have hdrop : (padded width n ++ rest).drop width = rest := by
    rw [List.drop_append_of_le_length (by omega), List.drop_of_length_le (by omega)]
    rfl
  have hall : (padded width n).all Char.isDigit = true :=
    List.all_eq_true.mpr fun c hc => isDigit_of_mem_padded hc
  simp [fixedDigits, htake, hdrop, hl, hall, value_padded]

theorem takeWhile_isDigit_append {digits : List Char} (hd : ∀ c ∈ digits, c.isDigit = true)
    {c : Char} (hc : c.isDigit = false) (rest : List Char) :
    (digits ++ c :: rest).takeWhile Char.isDigit = digits := by
  rw [List.takeWhile_append_of_pos hd, List.takeWhile_cons_of_neg (by simp [hc]), List.append_nil]

/-- As many digits as there are, if there are no more than may be read. -/
theorem upToDigits_append {width : Nat} {digits : List Char} (hne : digits ≠ [])
    (hw : digits.length ≤ width) (hd : ∀ c ∈ digits, c.isDigit = true) {c : Char}
    (hc : c.isDigit = false) (rest : List Char) :
    upToDigits width (digits ++ c :: rest) = some (Digits.value digits, c :: rest) := by
  have htake : ((digits ++ c :: rest).take width).takeWhile Char.isDigit = digits := by
    rw [List.take_append, List.take_of_length_le hw]
    cases width - digits.length with
    | zero => simpa [List.takeWhile_eq_self_iff] using hd
    | succ k => exact takeWhile_isDigit_append hd hc _
  simp [upToDigits, htake, hne]

theorem isBlank_of_isDigit {c : Char} (h : c.isDigit = true) : Unicode.isBlank c = false := by
  have hall : ∀ k < 10, Unicode.isBlank (Char.ofNat ('0'.toNat + k)) = false := by decide
  have h0 := Digits.zero_le_of_isDigit h
  have hk : '0'.toNat + Digits.digitValue c = c.toNat := by simp only [Digits.digitValue]; omega
  have := hall _ (Digits.digitValue_lt h)
  rwa [hk, Char.ofNat_toNat] at this

theorem skipBlanks_padded (width n : Nat) (rest : List Char) :
    skipBlanks (padded width n ++ rest) = padded width n ++ rest := by
  cases h : padded width n with
  | nil => exact absurd h (padded_ne_nil width n)
  | cons c digits =>
    have hc : c ∈ padded width n := h ▸ List.mem_cons_self ..
    have hb := isBlank_of_isDigit (isDigit_of_mem_padded hc)
    exact List.dropWhile_cons_of_neg (by simp [hb])

theorem shortNumber_padded {n : Nat} (hn : n < 100) {c : Char} (hc : c.isDigit = false)
    (rest : List Char) : shortNumber (padded 2 n ++ c :: rest) = some (n, c :: rest) := by
  have hl : (padded 2 n).length = 2 := length_padded (by decide) (by omega)
  rw [shortNumber, skipBlanks_padded, upToDigits_append (padded_ne_nil 2 n) (by omega)
    (fun _ => isDigit_of_mem_padded) hc, value_padded]

/-! ## Dates and times -/

/-- Reads numbers of two digits, whatever follows them if it is no digit. -/
def ReadsPadded (number : Reader Nat) : Prop :=
  ∀ n < 100, ∀ c rest, c.isDigit = false → number (padded 2 n ++ c :: rest) = some (n, c :: rest)

theorem readsPadded_fixedDigits : ReadsPadded (fixedDigits 2) := fun _ hn _ _ _ =>
  fixedDigits_padded (by decide) (by omega) _

theorem readsPadded_shortNumber : ReadsPadded shortNumber := fun _ hn _ rest hc =>
  shortNumber_padded hn hc rest

theorem readDate_dateText {year : Reader Int} {number : Reader Nat} (hnumber : ReadsPadded number)
    {d : Date} (hyear : ∀ rest, year (Moment.yearText d.year ++ '-' :: rest) =
      some (d.year, '-' :: rest))
    (hm : d.month < 100) (hd : d.day < 100) {c : Char} (hc : c.isDigit = false)
    (rest : List Char) :
    readDate year number (Moment.dateText d ++ c :: rest) = some (d, c :: rest) := by
  have htext : Moment.dateText d ++ c :: rest =
      Moment.yearText d.year ++ '-' :: (padded 2 d.month ++ '-' :: (padded 2 d.day ++ c :: rest)) :=
    by simp [Moment.dateText]
  simp [htext, readDate, hyear, expect, hnumber d.month hm '-' _ rfl, hnumber d.day hd c _ hc]

/-- Three digits behind the point are milliseconds. -/
theorem readFraction_padded {n : Nat} (hn : n < 1000) {c : Char} (hc : c.isDigit = false)
    (rest : List Char) :
    readFraction ('.' :: (padded 3 n ++ c :: rest)) = some (n * 1000000, c :: rest) := by
  have hdigits : ∀ x ∈ padded 3 n, x.isDigit = true := fun _ => isDigit_of_mem_padded
  have hl : (padded 3 n).length = 3 := length_padded (by decide) (by omega)
  have htake : (padded 3 n).take 9 = padded 3 n := List.take_of_length_le (by omega)
  have hdrop : (padded 3 n ++ c :: rest).dropWhile Char.isDigit = c :: rest := by
    rw [List.dropWhile_append_of_pos hdigits, List.dropWhile_cons_of_neg (by simp [hc])]
  have hnanos : fractionNanos (padded 3 n) = n * 1000000 := by
    simp only [fractionNanos, htake, value_padded, hl]
  simp [readFraction, takeWhile_isDigit_append hdigits hc, hdrop, hnanos, padded_ne_nil]

/-- A time of day to the millisecond. -/
def Clock.toMillis (c : Clock) : Clock := { c with nanos := c.nanos / 1000000 * 1000000 }

theorem readClock_clockText {number : Reader Nat} (hnumber : ReadsPadded number) {c : Clock}
    (hc : c.isValid = true) (hn : c.nanos < 1000000000) {z : Char} (hz : z.isDigit = false)
    (rest : List Char) :
    readClock number (Moment.clockText c ++ z :: rest) = some (c.toMillis, z :: rest) := by
  have htext : Moment.clockText c ++ z :: rest = padded 2 c.hour ++ ':' :: (padded 2 c.minute ++
      ':' :: (padded 2 c.second ++ '.' :: (padded 3 (c.nanos / 1000000) ++ z :: rest))) := by
    simp [Moment.clockText]
  simp only [Clock.isValid, Bool.and_eq_true, decide_eq_true_eq] at hc
  have hhour := hnumber c.hour (by omega) ':'
  have hminute := hnumber c.minute (by omega) ':'
  have hsecond := hnumber c.second (by omega) '.'
  have hfraction := readFraction_padded (n := c.nanos / 1000000) (by omega) hz rest
  simp [htext, readClock, hhour, hminute, hsecond, hfraction, expect, Clock.toMillis]

/-! ## Timestamps -/

theorem Moment.text_eq (m : Moment) :
    m.text = dateText m.date ++ 'T' :: (clockText m.clock ++ ['Z']) := by simp [text]

/-- Whether the year is written with four digits and no sign. -/
def Moment.HasPlainYear (m : Moment) : Prop := 0 ≤ m.date.year ∧ m.date.year ≤ 9999

theorem fixedYear_yearText {year : Int} (h0 : 0 ≤ year) (h9 : year ≤ 9999) (rest : List Char) :
    fixedYear (Moment.yearText year ++ rest) = some (year, rest) := by
  have hy : (year.toNat : Int) = year := Int.toNat_of_nonneg h0
  rw [Moment.yearText, if_pos ⟨h0, h9⟩, fixedYear,
    fixedDigits_padded (by decide) (by omega : year.toNat < 10 ^ 4)]
  simp [hy]

theorem Moment.isValid_date {m : Moment} (hy : m.HasPlainYear) : m.date.isValid = true :=
  Date.isValid_ofNumber (Int.le_trans (by decide) hy.1) (Int.le_trans hy.2 (by decide))

/-- A text with four digits for the year is read as the date and the time that it is made of. -/
theorem readTimestamp_text_eq {m : Moment} (hy : m.HasPlainYear) (hn : m.nanos < 1000000000) :
    readTimestamp m.text = Moment.of? m.date m.clock.toMillis 0 := by
  obtain ⟨h0, h9⟩ := hy
  obtain ⟨hmonth, hday⟩ := Date.lt_of_ofNumber (m.second / secondsPerDay)
  have hd := readDate_dateText readsPadded_fixedDigits (d := m.date)
    (fun rest => fixedYear_yearText h0 h9 ('-' :: rest)) hmonth hday (c := 'T') rfl
  have hc := readClock_clockText readsPadded_fixedDigits m.isValid_clock hn (z := 'Z') rfl
  simp [readTimestamp, Moment.text_eq, hd, hc, expect, isDateTimeMark, readOffset]

/-- A text with four digits for the year is read as a moment of the same text. -/
theorem readTimestamp_text {m : Moment} (hy : m.HasPlainYear) (hn : m.nanos < 1000000000) :
    ∃ m', readTimestamp m.text = some m' ∧ m'.text = m.text := by
  obtain ⟨m', hm', hdate, hclock⟩ := Moment.exists_of? (Moment.isValid_date hy)
    (c := m.clock.toMillis) m.isValid_clock
  refine ⟨m', ?_, ?_⟩
  · rw [readTimestamp_text_eq hy hn]
    exact hm'
  · have hnanos : m.clock.toMillis.nanos / 1000000 = m.clock.nanos / 1000000 :=
      Nat.mul_div_cancel _ (by decide)
    have hdate' : m'.date = m.date := hdate
    rw [Moment.text_eq, Moment.text_eq, hdate', hclock, Moment.clockText, hnanos]
    rfl

/-! ## Other years -/

theorem yearText_of_not_plain {year : Int} (h : ¬(0 ≤ year ∧ year ≤ 9999)) :
    Moment.yearText year = (if year < 0 then '-' else '+') :: padded 4 year.natAbs :=
  if_neg h

theorem shortYear_yearText {year : Int} (h : ¬(0 ≤ year ∧ year ≤ 9999)) (rest : List Char) :
    shortYear (Moment.yearText year ++ '-' :: rest) = some (year, '-' :: rest) := by
  have hdigits : upToDigits (padded 4 year.natAbs ++ '-' :: rest).length
      (padded 4 year.natAbs ++ '-' :: rest) = some (year.natAbs, '-' :: rest) := by
    rw [upToDigits_append (padded_ne_nil 4 year.natAbs) (by simp) (fun _ => isDigit_of_mem_padded)
      rfl, value_padded]
  have hminus : Unicode.isBlank '-' = false := by decide
  have hplus : Unicode.isBlank '+' = false := by decide
  rw [yearText_of_not_plain h]
  split
  · have hy : -(year.natAbs : Int) = year := by omega
    simp only [shortYear, skipBlanks, List.cons_append, List.dropWhile_cons, hminus,
      Bool.false_eq_true, ↓reduceIte, hdigits, Option.map_some, hy]
  · have hy : (year.natAbs : Int) = year := by omega
    simp only [shortYear, skipBlanks, List.cons_append, List.dropWhile_cons, hplus,
      Bool.false_eq_true, ↓reduceIte, hdigits, Option.map_some, hy]

/-- No timestamp begins with a sign. -/
theorem readTimestamp_eq_none {c : Char} (hc : c.isDigit = false) (rest : List Char) :
    readTimestamp (c :: rest) = none := by
  simp [readTimestamp, readDate, fixedYear, fixedDigits, hc]

theorem readClock_eq_none {c : Char} (hd : c.isDigit = false) (hb : Unicode.isBlank c = false)
    (rest : List Char) : readClock shortNumber (c :: rest) = none := by
  simp [readClock, shortNumber, upToDigits, skipBlanks, hd, hb]

/-- The text of a moment beyond the years with four digits names no moment: it is no timestamp
because of the sign, and nothing else because of the `Z`. -/
theorem readMoment_text_eq_none {m : Moment} (hy : ¬m.HasPlainYear) (hn : m.nanos < 1000000000) :
    readMoment m.text = none := by
  obtain ⟨hmonth, hday⟩ := Date.lt_of_ofNumber (m.second / secondsPerDay)
  have hd : readDate shortYear shortNumber m.text =
      some (m.date, 'T' :: (Moment.clockText m.clock ++ ['Z'])) := by
    rw [Moment.text_eq]
    exact readDate_dateText readsPadded_shortNumber (fun rest => shortYear_yearText hy rest) hmonth
      hday rfl _
  have hc : readClock shortNumber (Moment.clockText m.clock ++ ['Z']) =
      some (m.clock.toMillis, ['Z']) :=
    readClock_clockText readsPadded_shortNumber m.isValid_clock hn rfl []
  have hstamp : readTimestamp m.text = none := by
    rw [Moment.text_eq, Moment.dateText, yearText_of_not_plain hy]
    split
    · exact readTimestamp_eq_none rfl _
    · exact readTimestamp_eq_none rfl _
  have hmark : readPlain (expect (· == 'T')) m.text = none := by
    simp [readPlain, hd, expect, hc]
  have hblank : readPlain (fun text => some (skipBlanks text)) m.text = none := by
    have hT : Unicode.isBlank 'T' = false := by decide
    simp [readPlain, hd, skipBlanks, hT, readClock_eq_none rfl hT]
  have hbare : readBareDate m.text = none := by simp [readBareDate, hd]
  simp [readMoment, hstamp, hmark, hblank, hbare]

/-! ## Moments that are read -/

theorem fractionNanos_lt {digits : List Char} (h : ∀ c ∈ digits, c.isDigit = true) :
    fractionNanos digits < 1000000000 := by
  have hk : (digits.take 9).length ≤ 9 := List.length_take_le ..
  have hv : Digits.value (digits.take 9) < 10 ^ (digits.take 9).length :=
    Digits.value_lt fun c hc => h c (List.mem_of_mem_take hc)
  calc fractionNanos digits
      < 10 ^ (digits.take 9).length * 10 ^ (9 - (digits.take 9).length) :=
        Nat.mul_lt_mul_of_pos_right hv (Nat.pow_pos (by decide))
    _ = 10 ^ 9 := by rw [← Nat.pow_add, Nat.add_sub_cancel' hk]

theorem nanos_of_readFraction {text rest : List Char} {n : Nat}
    (h : readFraction text = some (n, rest)) : n < 1000000000 := by
  unfold readFraction at h
  split at h
  · dsimp only at h
    split at h
    · cases h
    · simp only [Option.some.injEq, Prod.mk.injEq] at h
      exact h.1 ▸ fractionNanos_lt fun c hc => List.mem_takeWhile_imp hc
  · simp only [Option.some.injEq, Prod.mk.injEq] at h
    omega

theorem nanos_of_readClock {number : Reader Nat} {text rest : List Char} {c : Clock}
    (h : readClock number text = some (c, rest)) : c.nanos < 1000000000 := by
  simp only [readClock, Option.bind_eq_bind, Option.bind_eq_some_iff] at h
  obtain ⟨hour, _, _, _, minute, _, _, _, second, _, ⟨nanos, left⟩, hf, hc⟩ := h
  simp only [Option.some.injEq, Prod.mk.injEq] at hc
  exact hc.1 ▸ nanos_of_readFraction hf

theorem Moment.nanos_of? {d : Date} {c : Clock} {offset : Int} {m : Moment}
    (h : of? d c offset = some m) : m.nanos = c.nanos := by
  unfold of? at h
  split at h
  · exact Option.some.inj h ▸ rfl
  · cases h

theorem nanos_of_readTimestamp {text : List Char} {m : Moment}
    (h : readTimestamp text = some m) : m.nanos < 1000000000 := by
  simp only [readTimestamp, Option.bind_eq_bind, Option.bind_eq_some_iff] at h
  obtain ⟨date, _, text, _, clock, hc, offset, _, h⟩ := h
  split at h
  · exact Moment.nanos_of? h ▸ nanos_of_readClock hc
  · cases h

theorem nanos_of_readPlain {separator : List Char → Option (List Char)} {text : List Char}
    {m : Moment} (h : readPlain separator text = some m) : m.nanos < 1000000000 := by
  simp only [readPlain, Option.bind_eq_bind, Option.bind_eq_some_iff] at h
  obtain ⟨date, _, text, _, clock, hc, h⟩ := h
  split at h
  · exact Moment.nanos_of? h ▸ nanos_of_readClock hc
  · cases h

theorem nanos_of_readBareDate {text : List Char} {m : Moment} (h : readBareDate text = some m) :
    m.nanos < 1000000000 := by
  simp only [readBareDate, Option.bind_eq_bind, Option.bind_eq_some_iff] at h
  obtain ⟨date, _, h⟩ := h
  split at h
  · exact Moment.nanos_of? h ▸ by decide
  · cases h

theorem nanos_of_readMoment {text : List Char} {m : Moment} (h : readMoment text = some m) :
    m.nanos < 1000000000 := by
  simp only [readMoment, Option.or_eq_some_iff] at h
  obtain h | ⟨_, h | ⟨_, h | ⟨_, h⟩⟩⟩ := h
  · exact nanos_of_readTimestamp h
  · exact nanos_of_readPlain h
  · exact nanos_of_readPlain h
  · exact nanos_of_readBareDate h

end Calendar

end Rulebook
